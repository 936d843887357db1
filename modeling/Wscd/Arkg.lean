import Wscd.Cbor
import Wscd.Lib.Sha256

/-!
# ARKG public keys

previewSign's `generateKey` answers with a seed of two P-256 points; the wallet derives the
public key it uses from the seed and fresh randomness, and a key handle the authenticator
needs to derive the private half. The P-256 group, SHA-256, HMAC and HKDF are third-party
code and stay parameters.
-/

namespace Wscd

/-- A P-256 point other than infinity, by its affine coordinates. -/
structure PublicKey where
  x : List UInt8
  y : List UInt8
  deriving DecidableEq, Repr

/-- A P-256 point; infinity has no coordinates. -/
abbrev ProjectivePoint : Type := Option PublicKey

namespace Arkg

/-- The order of the P-256 group. -/
def p256Order : Nat :=
  0xffffffff00000000ffffffffffffffffbce6faada7179e84f3b9cac2fc632551

instance : NeZero p256Order := ⟨by decide⟩

/-- An element of the P-256 scalar field. -/
abbrev Scalar : Type := Fin p256Order

theorem scalar_one_ne_zero : (1 : Scalar) ≠ 0 := by decide

end Arkg

/-- The P-256 group, as the `p256` crate has it. -/
structure P256 where
  generator : ProjectivePoint
  add : ProjectivePoint → ProjectivePoint → ProjectivePoint
  mul : ProjectivePoint → Arkg.Scalar → ProjectivePoint
  fromSec1Bytes : List UInt8 → Except String PublicKey
  /-- The generator has order `p256Order`. -/
  mul_generator_isSome : ∀ k : Arkg.Scalar, k ≠ 0 → (mul generator k).isSome

/-- `sha2`, `hmac` and `hkdf` at SHA-256. -/
structure Kdf where
  sha256 : List UInt8 → List UInt8
  hmac : List UInt8 → List UInt8 → List UInt8
  /-- `Hkdf::new(Some(salt), ikm).expand(info, len)` -/
  hkdfExpand : List UInt8 → List UInt8 → List UInt8 → Nat → Except String (List UInt8)

/-- What they compute. -/
def sha256Kdf : Kdf := ⟨Lib.sha256, Lib.hmacSha256, Lib.hkdfSha256⟩

namespace Arkg

open Cbor

def coseKtyArkgPub : Int := -65537

def coseAlgArkgP256 : Int := -65700

/-- The identifier some implementations send in its place. -/
def coseAlgEsp256ArkgDeprecated : Int := -65539

def ctxMaxLen : Nat := 64

structure ArkgPublicSeed where
  pkBl : PublicKey
  pkKem : PublicKey
  deriving DecidableEq, Repr

/-- `{:?}` of an optional integer -/
def debugOption : Option Int → String
  | some n => s!"Some({n})"
  | none => "None"

/-! ## The seed -/

/-- A P-256 point from a COSE key value. -/
def decodeCoseEc2PublicKey (p256 : P256) (value : Cbor) : Except WscdError PublicKey :=
  match value.asMap with
  | none => .error (.crypto "COSE key is not a CBOR map")
  | some entries =>
    match findBytesByInt entries (-2), findBytesByInt entries (-3) with
    | none, _ => .error (.crypto "COSE key missing x")
    | some _, none => .error (.crypto "COSE key missing y")
    | some x, some y =>
      if x.length ≠ 32 ∨ y.length ≠ 32 then
        .error (.crypto "COSE key x/y must be 32 bytes each for P-256")
      else
        match p256.fromSec1Bytes (0x04 :: x ++ y) with
        | .ok pk => .ok pk
        | .error e => .error (.crypto s!"invalid P-256 point: {e}")

def getI64ByInt (entries : List (Cbor × Cbor)) (key : Int) : Option Int :=
  ((getValueByInt entries key).bind asInteger).bind toI64

/-- A generated key that is an ARKG seed; anything else is an error. -/
def parseArkgPubSeed (p256 : P256) (value : Cbor) : Except WscdError ArkgPublicSeed :=
  match value.asMap with
  | none => .error (.crypto "ARKG-pub COSE key is not a CBOR map")
  | some entries =>
    let kty := getI64ByInt entries 1
    let alg := getI64ByInt entries 3
    if kty ≠ some coseKtyArkgPub then
      .error (.crypto
        s!"expected ARKG-pub COSE key (kty {coseKtyArkgPub}), got kty {debugOption kty}")
    else if alg ≠ some coseAlgArkgP256 ∧ alg ≠ some coseAlgEsp256ArkgDeprecated then
      .error (.crypto s!"unsupported ARKG-pub COSE key alg: {debugOption alg}")
    else
      match getValueByInt entries (-1), getValueByInt entries (-2) with
      | none, _ => .error (.crypto "ARKG-pub COSE key missing pkBl (-1)")
      | some _, none => .error (.crypto "ARKG-pub COSE key missing pkKem (-2)")
      | some pkBl, some pkKem => do
        let pkBl ← decodeCoseEc2PublicKey p256 pkBl
        let pkKem ← decodeCoseEc2PublicKey p256 pkKem
        return ⟨pkBl, pkKem⟩

/-! ## Hashing to the scalar field -/

variable (kdf : Kdf)

/-- A natural number as `len` octets, most significant first. -/
def i2osp (n len : Nat) : List UInt8 :=
  (List.range len).reverse.map fun i => UInt8.ofNat (n / 256 ^ i)

/-- An octet string as a natural number, most significant first. -/
def os2ip (bytes : List UInt8) : Nat := bytes.foldl (fun n b => 256 * n + b.toNat) 0

/-- The blocks `b_i`, .., of `expand_message_xmd`, `n` of them, each from `b_0` and the one
before it. -/
def xmdBlocks (b0 dstPrime : List UInt8) : Nat → Nat → List UInt8 → List (List UInt8)
  | 0, _, _ => []
  | n + 1, i, prev =>
    let block :=
      kdf.sha256 (List.zipWith (· ^^^ ·) b0 prev ++ [UInt8.ofNat i] ++ dstPrime)
    block :: xmdBlocks b0 dstPrime n (i + 1) block

/-- `expand_message_xmd` with SHA-256. -/
def expandMessageXmd (msg dst : List UInt8) (lenInBytes : Nat) : List UInt8 :=
  let ell := (lenInBytes + 31) / 32
  let dstPrime := dst ++ [UInt8.ofNat dst.length]
  let zPad := List.replicate 64 0
  let b0 := kdf.sha256 (zPad ++ msg ++ i2osp lenInBytes 2 ++ [0] ++ dstPrime)
  let b1 := kdf.sha256 (b0 ++ [1] ++ dstPrime)
  (b1 :: xmdBlocks kdf b0 dstPrime (ell - 1) 2 b1).flatten.take lenInBytes

/-- `hash_to_field` into the scalar field: 48 octets, reduced. -/
def hashToScalarField (msg dst : List UInt8) : Scalar :=
  Fin.ofNat p256Order (os2ip (expandMessageXmd kdf msg dst 48))

/-! ## Deriving a public key -/

variable (p256 : P256)

def encodeUncompressedPoint (point : PublicKey) : List UInt8 := 0x04 :: point.x ++ point.y

/-- The octets of an ASCII text. -/
def ascii (s : String) : List UInt8 := s.toList.map fun c => UInt8.ofNat c.toNat

/-- `diffie_hellman`: the x coordinate of the shared point. -/
def diffieHellman (sk : Scalar) (pk : PublicKey) : List UInt8 :=
  ((p256.mul (some pk) sk).map PublicKey.x).getD []

/-- The key encapsulation: the shared secret and the ciphertext. -/
def kemEncaps (pubkKem : PublicKey) (ikm ctx : List UInt8) :
    Except WscdError (List UInt8 × List UInt8) :=
  let dstAug := ascii "ARKG-ECDH.ARKG-P256"
  let skPrime := hashToScalarField kdf ikm (ascii "ARKG-KEM-ECDH-KG." ++ dstAug)
  if h : skPrime = 0 then
    .error (.crypto "ARKG: derived zero scalar (retry with new ikm)")
  else
    let cPrime := encodeUncompressedPoint
      ((p256.mul p256.generator skPrime).get (p256.mul_generator_isSome skPrime h))
    let kPrime := diffieHellman p256 skPrime pubkKem
    if kPrime.length ≠ 32 then
      .error (.crypto "ARKG: ECDH shared secret is not 32 bytes")
    else
      match kdf.hkdfExpand [] kPrime (ascii "ARKG-KEM-HMAC-mac." ++ dstAug ++ ctx) 32 with
      | .error e => .error (.crypto s!"ARKG HKDF (mac key) failed: {e}")
      | .ok macKey =>
        let t := kdf.hmac macKey cPrime
        match kdf.hkdfExpand [] kPrime (ascii "ARKG-KEM-HMAC-shared." ++ dstAug ++ ctx) 32 with
        | .error e => .error (.crypto s!"ARKG HKDF (shared secret) failed: {e}")
        | .ok k => .ok (k, t.take 16 ++ cPrime)

/-- The blinded public key. -/
def blBlindPublicKey (pkBl : PublicKey) (tau ctx : List UInt8) : Except WscdError PublicKey :=
  let tauPrime := hashToScalarField kdf tau (ascii "ARKG-BL-EC.ARKG-P256" ++ ctx)
  match p256.add (some pkBl) (p256.mul p256.generator tauPrime) with
  | some pk => .ok pk
  | none => .error (.crypto "ARKG: blinded public key is the point at infinity")

/-- `ARKG-derive-public-key`: the derived key and its key handle. -/
def derivePublicKey (seed : ArkgPublicSeed) (ikm ctx : List UInt8) :
    Except WscdError (PublicKey × List UInt8) :=
  if ctxMaxLen < ctx.length then
    .error (.crypto s!"ARKG ctx too long: {ctx.length} bytes (max {ctxMaxLen})")
  else do
    let ctxKem := ascii "ARKG-Derive-Key-KEM." ++ [UInt8.ofNat ctx.length] ++ ctx
    let ctxBl := ascii "ARKG-Derive-Key-BL." ++ [UInt8.ofNat ctx.length] ++ ctx
    let (tau, kh) ← kemEncaps kdf p256 seed.pkKem ikm ctxKem
    let derived ← blBlindPublicKey kdf p256 seed.pkBl tau ctxBl
    return (derived, kh)

/-- The COSE signing arguments a `signByCredential` request carries: algorithm, key handle and
context. -/
def encodeArkgSignArgs (cbor : CborCodec) (alg : Int) (kh ctx : List UInt8) : List UInt8 :=
  cbor.intoWriter (.map [(.integer 3, .integer alg), (.integer (-1), .bytes kh),
    (.integer (-2), .bytes ctx)])

end Arkg

end Wscd
