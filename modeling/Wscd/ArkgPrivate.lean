import Wscd.Authenticator
import Wscd.Lib.RemoteKeys
import Wscd.Plugins.Fido2Sign
import Mathlib.Data.Nat.Digits.Defs

/-!
# The authenticator's half of an ARKG key

`ARKG-derive-private-key` as the ARKG draft has it for P-256, and what the authenticator finds
in the arguments of a signature. Nothing of it is the wallet's: the domain separation, the
layout of a key handle and the reduction to a scalar are written out again, to be compared.

Results:
1. `hashToScalarField_eq`: both sides hash to the same scalar.
2. `arkgKem_correct`, `arkgBlinding_correct`: the wallet's encapsulation and blinding, the
   authenticator's decapsulation and blinding.
3. `derived_keys_agree`: the derived halves make a pair, and the handle and context arrive.
-/

namespace Wscd.Arkg

open Lib Cbor

/-! ## The draft -/

section Draft

variable (kdf : Kdf) (p256 : P256)

/-- `hash_to_field` to one element of the scalar field: two blocks of SHA-256, of which 48
octets count. -/
def hashToField (msg dst : List UInt8) : Scalar :=
  let dstPrime := dst ++ [UInt8.ofNat dst.length]
  let b0 := kdf.sha256 (List.replicate 64 0 ++ msg ++ [0, 48] ++ [0] ++ dstPrime)
  let b1 := kdf.sha256 (b0 ++ [1] ++ dstPrime)
  let b2 := kdf.sha256 (List.zipWith (· ^^^ ·) b0 b1 ++ [2] ++ dstPrime)
  let uniform := (b1 ++ b2).take 48
  Fin.ofNat p256Order (Nat.ofDigits 256 (uniform.reverse.map UInt8.toNat))

/-- The length of a context in front of it. -/
def prefixedContext (ctx : List UInt8) : List UInt8 := UInt8.ofNat ctx.length :: ctx

/-- `KEM-Decaps`: the tag in front of the point authenticates the point. -/
def kemDecaps (sk : Scalar) (c ctx : List UInt8) : Option (List UInt8) :=
  let tag := c.take 16
  let point := c.drop 16
  match p256.fromSec1Bytes point with
  | .error _ => none
  | .ok ephemeral =>
    let shared := diffieHellman p256 sk ephemeral
    match kdf.hkdfExpand [] shared (ascii "ARKG-KEM-HMAC-mac.ARKG-ECDH.ARKG-P256" ++ ctx) 32,
      kdf.hkdfExpand [] shared (ascii "ARKG-KEM-HMAC-shared.ARKG-ECDH.ARKG-P256" ++ ctx) 32 with
    | .ok macKey, .ok k => if (kdf.hmac macKey point).take 16 = tag then some k else none
    | _, _ => none

/-- `BL-Blind-Private-Key`: the sum, unless it is zero. -/
def blBlindPrivateKey (sk : Scalar) (tau ctx : List UInt8) : Option Scalar :=
  let blinded := sk + hashToField kdf tau (ascii "ARKG-BL-EC.ARKG-P256" ++ ctx)
  if blinded = 0 then none else some blinded

/-- `ARKG-Derive-Private-Key` -/
def derivePrivateKey (skBl skKem : Scalar) (kh ctx : List UInt8) : Option Scalar :=
  if 64 < ctx.length then none
  else
    (kemDecaps kdf p256 skKem kh (ascii "ARKG-Derive-Key-KEM." ++ prefixedContext ctx)).bind
      fun tau =>
        blBlindPrivateKey kdf skBl tau (ascii "ARKG-Derive-Key-BL." ++ prefixedContext ctx)

/-- The COSE signing arguments as the authenticator reads them: algorithm, key handle and
context. -/
def decodeArkgSignArgs (cbor : CborCodec) (args : List UInt8) :
    Option (Int × List UInt8 × List UInt8) :=
  match cbor.read args with
  | .ok (.map entries) => do
    let alg ← (getValueByInt entries 3).bind asInteger
    let kh ← getBytesByInt entries (-1)
    let ctx ← getBytesByInt entries (-2)
    return (alg, kh, ctx)
  | _ => none

end Draft

/-! ## The two halves -/

section Halves

variable {kdf : Kdf} {p256 : P256}

theorem os2ip_eq_ofDigits (octets : List UInt8) :
    os2ip octets = Nat.ofDigits 256 (octets.reverse.map UInt8.toNat) := by
  induction octets using List.reverseRecOn with
  | nil => rfl
  | append_singleton octets b ih =>
    have hlast : os2ip (octets ++ [b]) = 256 * os2ip octets + b.toNat := by
      simp [os2ip, List.foldl_append]
    rw [hlast, ih, List.reverse_append, List.reverse_singleton, List.singleton_append,
      List.map_cons, Nat.ofDigits_cons, add_comm]

theorem expandMessageXmd_eq (msg dst : List UInt8) :
    expandMessageXmd kdf msg dst 48 =
      (let dstPrime := dst ++ [UInt8.ofNat dst.length]
      let b0 := kdf.sha256 (List.replicate 64 0 ++ msg ++ [0, 48] ++ [0] ++ dstPrime)
      let b1 := kdf.sha256 (b0 ++ [1] ++ dstPrime)
      let b2 := kdf.sha256 (List.zipWith (· ^^^ ·) b0 b1 ++ [2] ++ dstPrime)
      (b1 ++ b2).take 48) := by
  have hlength : i2osp 48 2 = [0, 48] := by decide
  unfold expandMessageXmd
  simp only [hlength, xmdBlocks, List.flatten_cons, List.flatten_nil, List.append_nil]
  rfl

theorem hashToScalarField_eq (msg dst : List UInt8) :
    hashToScalarField kdf msg dst = hashToField kdf msg dst := by
  rw [hashToScalarField, expandMessageXmd_eq, os2ip_eq_ofDigits]
  rfl

/-- The wallet's encapsulation beside the authenticator's decapsulation. -/
def arkgKem (kdf : Kdf) (p256 : P256) :
    Kem WscdError PublicKey Scalar (List UInt8) (List UInt8) (List UInt8) (List UInt8) where
  pair sk pk := p256.mul p256.generator sk = some pk
  encaps := kemEncaps kdf p256
  decaps := kemDecaps kdf p256

/-- The wallet's blinding beside the authenticator's. -/
def arkgBlinding (kdf : Kdf) (p256 : P256) :
    Blinding WscdError PublicKey Scalar (List UInt8) (List UInt8) where
  pair sk pk := p256.mul p256.generator sk = some pk
  blindPublic := blBlindPublicKey kdf p256
  blindPrivate := blBlindPrivateKey kdf

theorem arkgKem_correct (hkdf : kdf.Lawful) (hp256 : p256.Lawful) :
    (arkgKem kdf p256).Correct := by
  intro sk pk ikm ctx k c hpair hencaps
  have hpair : p256.mul p256.generator sk = some pk := hpair
  have hencaps : kemEncaps kdf p256 pk ikm ctx = .ok (k, c) := hencaps
  unfold kemEncaps at hencaps
  dsimp only at hencaps
  generalize hashToScalarField kdf ikm _ = skPrime at hencaps
  split at hencaps
  · cases hencaps
  rename_i hne
  -- the ephemeral key, and the secret both sides get from it
  generalize hget : (p256.mul p256.generator skPrime).get _ = ephemeral at hencaps
  have hephemeral : p256.mul p256.generator skPrime = some ephemeral := by
    rw [← hget, Option.some_get]
  have hshared : diffieHellman p256 skPrime pk = diffieHellman p256 sk ephemeral := by
    rw [diffieHellman, diffieHellman, ← hpair, ← hephemeral, hp256.mul_comm]
  rw [hshared] at hencaps
  split at hencaps
  · cases hencaps
  split at hencaps
  · cases hencaps
  rename_i macKey hmac
  split at hencaps
  · cases hencaps
  rename_i k' hk
  cases hencaps
  have htag : ((kdf.hmac macKey (encodeUncompressedPoint ephemeral)).take 16).length = 16 := by
    rw [List.length_take, hkdf.length_hmac]
    rfl
  show kemDecaps kdf p256 sk _ ctx = some k
  unfold kemDecaps
  dsimp only
  rw [List.take_left' htag, List.drop_left' htag]
  have hpoint : p256.fromSec1Bytes (encodeUncompressedPoint ephemeral) = .ok ephemeral :=
    hp256.fromSec1Bytes_point skPrime ephemeral hephemeral
  have hmacInfo : ascii "ARKG-KEM-HMAC-mac." ++ ascii "ARKG-ECDH.ARKG-P256" =
      ascii "ARKG-KEM-HMAC-mac.ARKG-ECDH.ARKG-P256" := by rfl
  have hsharedInfo : ascii "ARKG-KEM-HMAC-shared." ++ ascii "ARKG-ECDH.ARKG-P256" =
      ascii "ARKG-KEM-HMAC-shared.ARKG-ECDH.ARKG-P256" := by rfl
  rw [hmacInfo] at hmac
  rw [hsharedInfo] at hk
  rw [hpoint]
  dsimp only
  rw [hmac, hk]
  exact if_pos rfl

theorem arkgBlinding_correct (hp256 : p256.Lawful) : (arkgBlinding kdf p256).Correct := by
  intro sk pk tau ctx pk' hpair hblind
  have hpair : p256.mul p256.generator sk = some pk := hpair
  have hblind : blBlindPublicKey kdf p256 pk tau ctx = .ok pk' := hblind
  unfold blBlindPublicKey at hblind
  rw [hashToScalarField_eq, ← hpair] at hblind
  dsimp only at hblind
  rw [hp256.add_mul] at hblind
  split at hblind
  · rename_i blinded hblinded
    cases hblind
    refine ⟨_, if_neg fun hzero => ?_, hblinded⟩
    -- a sum of zero would have been infinity
    rw [hzero, hp256.mul_zero] at hblinded
    cases hblinded
  · cases hblind

/-- The wallet's derivation is one from an encapsulation and a blinding. -/
theorem derivePublicKey_eq {seed : ArkgPublicSeed} {ikm ctx : List UInt8}
    (hctx : ctx.length ≤ ctxMaxLen) :
    derivePublicKey kdf p256 seed ikm ctx =
      derivePublic (arkgKem kdf p256) (arkgBlinding kdf p256) seed.pkBl seed.pkKem ikm
        (ascii "ARKG-Derive-Key-KEM." ++ prefixedContext ctx)
        (ascii "ARKG-Derive-Key-BL." ++ prefixedContext ctx) := by
  have hprefixed : ∀ label : String,
      ascii label ++ [UInt8.ofNat ctx.length] ++ ctx = ascii label ++ prefixedContext ctx :=
    fun _ => List.append_assoc _ _ _
  unfold derivePublicKey derivePublic
  rw [if_neg (not_lt.mpr hctx)]
  simp only [hprefixed]
  have hencaps : (arkgKem kdf p256).encaps = kemEncaps kdf p256 := rfl
  have hblind : (arkgBlinding kdf p256).blindPublic = blBlindPublicKey kdf p256 := rfl
  rw [hencaps, hblind]
  rcases kemEncaps kdf p256 seed.pkKem ikm (ascii "ARKG-Derive-Key-KEM." ++ prefixedContext ctx)
    with e | ⟨tau, kh⟩
  · rfl
  dsimp only
  rw [ok_bind]
  cases blBlindPublicKey kdf p256 seed.pkBl tau
    (ascii "ARKG-Derive-Key-BL." ++ prefixedContext ctx) with
  | error e => rfl
  | ok derived => rfl

/-- What is derived from a seed has its private half in the authenticator. -/
theorem derivePrivateKey_of_derivePublicKey (hkdf : kdf.Lawful) (hp256 : p256.Lawful)
    {skBl skKem : Scalar} {seed : ArkgPublicSeed} {ikm ctx kh : List UInt8} {pk : PublicKey}
    (hbl : p256.mul p256.generator skBl = some seed.pkBl)
    (hkem : p256.mul p256.generator skKem = some seed.pkKem)
    (h : derivePublicKey kdf p256 seed ikm ctx = .ok (pk, kh)) :
    ∃ sk, derivePrivateKey kdf p256 skBl skKem kh ctx = some sk ∧
      p256.mul p256.generator sk = some pk := by
  have hctx : ctx.length ≤ ctxMaxLen := by
    by_contra hlong
    rw [derivePublicKey, if_pos (not_le.mp hlong)] at h
    cases h
  rw [derivePublicKey_eq hctx] at h
  obtain ⟨sk, hsk, hpair⟩ := derivePrivate_of_derivePublic (arkgKem_correct hkdf hp256)
    (arkgBlinding_correct hp256) hbl hkem h
  refine ⟨sk, ?_, hpair⟩
  have hctx' : ¬64 < ctx.length := not_lt.mpr hctx
  rw [derivePrivateKey, if_neg hctx']
  exact hsk

theorem decode_encodeArkgSignArgs {cbor : CborCodec} (hcbor : cbor.Lawful) {alg : Int}
    (halg : IsI64 alg) (kh ctx : List UInt8) :
    decodeArkgSignArgs cbor (encodeArkgSignArgs cbor alg kh ctx) = some (alg, kh, ctx) := by
  have hargs : (Cbor.map [(.integer 3, .integer alg), (.integer (-1), .bytes kh),
      (.integer (-2), .bytes ctx)]).Writable := by
    simpa [Writable] using halg.fitsWithin 255
  unfold decodeArkgSignArgs encodeArkgSignArgs
  rw [hcbor.read_intoWriter hargs]
  simp [getBytesByInt, asInteger, asBytes]

end Halves

/-- The wallet and the authenticator come to one key pair, and what the authenticator needs for
it arrives with a signature. A context that is too long is refused. -/
theorem derived_keys_agree (crypto : Fido2SignCrypto) (hcrypto : crypto.toCtapCrypto.Lawful) :
    (∀ (skBl skKem : Scalar) (seed : ArkgPublicSeed) (ikm ctx kh : List UInt8) (pk : PublicKey),
      crypto.p256.mul crypto.p256.generator skBl = some seed.pkBl →
      crypto.p256.mul crypto.p256.generator skKem = some seed.pkKem →
      derivePublicKey crypto.kdf crypto.p256 seed ikm ctx = .ok (pk, kh) →
      ∃ sk, derivePrivateKey crypto.kdf crypto.p256 skBl skKem kh ctx = some sk ∧
        crypto.p256.mul crypto.p256.generator sk = some pk) ∧
    (∀ alg kh ctx, IsI64 alg →
      decodeArkgSignArgs crypto.cbor (encodeArkgSignArgs crypto.cbor alg kh ctx) =
        some (alg, kh, ctx)) ∧
    (∀ (key : Fido2.StoredFidoKey) (tbs : List UInt8),
      (Fido2SignPlugin.signInput crypto key tbs).additionalArgs.map
          (decodeArkgSignArgs crypto.cbor) =
        key.arkgKhAndCtx.map fun khAndCtx =>
          some (PreviewSign.arkgP256Esp256, khAndCtx.1, khAndCtx.2)) ∧
    ∀ (seed : ArkgPublicSeed) (ikm ctx : List UInt8), 64 < ctx.length →
      ∃ e, derivePublicKey crypto.kdf crypto.p256 seed ikm ctx = .error e := by
  refine ⟨?_, fun alg kh ctx halg => decode_encodeArkgSignArgs hcrypto.cbor halg kh ctx, ?_, ?_⟩
  · intro skBl skKem seed ikm ctx kh pk hbl hkem h
    exact derivePrivateKey_of_derivePublicKey hcrypto.kdf hcrypto.p256 hbl hkem h
  · intro key tbs
    unfold Fido2SignPlugin.signInput
    cases key.arkgKhAndCtx with
    | none => rfl
    | some khAndCtx =>
      exact congrArg some
        (decode_encodeArkgSignArgs hcrypto.cbor (by decide) khAndCtx.1 khAndCtx.2)
  · intro seed ikm ctx hlong
    exact ⟨_, if_pos hlong⟩

section Demo

def demoCrypto : Fido2SignCrypto where
  toCtapCrypto := scalarCrypto
  signatureFromDer _ := .error "signature error"

theorem demoCrypto_lawful : demoCrypto.toCtapCrypto.Lawful := scalarCrypto_lawful

def demoSeed : ArkgPublicSeed := ⟨scalarPoint 2, scalarPoint 3⟩

theorem demoSeed_derives :
    (derivePublicKey demoCrypto.kdf demoCrypto.p256 demoSeed [1, 2, 3] (ascii "demo")).toBool := by
  decide +kernel

end Demo

theorem derived_keys_agree_demo :
    ∃ pk kh sk,
      derivePublicKey demoCrypto.kdf demoCrypto.p256 demoSeed [1, 2, 3] (ascii "demo") =
        .ok (pk, kh) ∧
      derivePrivateKey demoCrypto.kdf demoCrypto.p256 2 3 kh (ascii "demo") = some sk ∧
      demoCrypto.p256.mul demoCrypto.p256.generator sk = some pk := by
  have hderives := demoSeed_derives
  rcases h : derivePublicKey demoCrypto.kdf demoCrypto.p256 demoSeed [1, 2, 3] (ascii "demo")
    with e | ⟨pk, kh⟩
  · rw [h] at hderives
    cases hderives
  · obtain ⟨sk, hsk, hpair⟩ := (derived_keys_agree demoCrypto demoCrypto_lawful).1 2 3 demoSeed
      [1, 2, 3] (ascii "demo") kh pk (scalarPoints_mul_generator 2)
      (scalarPoints_mul_generator 3) h
    exact ⟨pk, kh, sk, rfl, hsk, hpair⟩

end Wscd.Arkg
