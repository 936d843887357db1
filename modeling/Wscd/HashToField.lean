import Wscd.ArkgPrivate
import Wscd.Lib.ExpandMessage
import Wscd.Lib.Slice

/-!
# Hashing to the scalar field, with its assertions

The derivation of an ARKG public key once more, now with everything that stops the program:
the assertion on the lengths, the indices of the table of blocks, the conversions that are
expected to succeed (`Lib.Slice`). `num-bigint` and the field elements of `p256` are
third-party code and stay a parameter.

Results:
1. `expandMessageXmd_eq`: the table of blocks is that of RFC 9380, and so is the expansion.
2. `fieldBytes_eq`: whatever is less than the order is padded to the 32 octets of its number.
3. `hashToScalarField_eq`, `returns_derivePublicKey`: nothing stops, and the model is right.
4. `hash_to_field_is_standard`: all of it.
-/

namespace Wscd.Arkg

open Lib

/-- Big integers and field elements as octets. -/
structure ScalarCodec where
  /-- `BigUint::from_bytes_be` -/
  fromBytesBe : List UInt8 → Nat
  /-- `BigUint::to_bytes_be` -/
  toBytesBe : Nat → List UInt8
  /-- `Scalar::from_repr` -/
  fromRepr : List UInt8 → Option Scalar

structure ScalarCodec.Lawful (codec : ScalarCodec) : Prop where
  fromBytesBe_eq : ∀ octets, codec.fromBytesBe octets = Lib.os2ip octets
  os2ip_toBytesBe : ∀ n, Lib.os2ip (codec.toBytesBe n) = n
  /-- Zero has an octet all the same. -/
  toBytesBe_zero : codec.toBytesBe 0 = [0]
  /-- Nothing else begins with a zero. -/
  head?_toBytesBe : ∀ n, n ≠ 0 → (codec.toBytesBe n).head? ≠ some 0
  /-- An element has one representation, that of its canonical number. -/
  fromRepr_eq_some_iff : ∀ octets k, octets.length = 32 →
    (codec.fromRepr octets = some k ↔ Lib.os2ip octets = k.val)

namespace Bounds

variable (kdf : Kdf) (codec : ScalarCodec) (p256 : P256)

/-! ## The expansion -/

def bInBytes : Nat := 32

def sInBytes : Nat := 64

/-- One pass of the loop over the blocks from `b[2]` on. -/
def xmdPass (dstPrime : List UInt8) (b : List (List UInt8)) (i : Nat) :
    Option (List (List UInt8)) := do
  let b0 ← Slice.index b 0
  let prev ← Slice.index b (i - 1)
  let xored := List.zipWith (· ^^^ ·) b0 prev
  Slice.update b i (kdf.sha256 (xored ++ [UInt8.ofNat i] ++ dstPrime))

def expandMessageXmd (msg dst : List UInt8) (lenInBytes : Nat) : Option (List UInt8) :=
  let ell := (lenInBytes + bInBytes - 1) / bInBytes
  -- `assert!`
  if ¬(ell ≤ 255 ∧ lenInBytes ≤ 65535 ∧ dst.length ≤ 255) then none
  else do
    let dstPrime := dst ++ [UInt8.ofNat dst.length]
    let zPad := List.replicate sInBytes 0
    let lIBStr := i2osp (lenInBytes % 2 ^ 16) 2
    let msgPrime := zPad ++ msg ++ lIBStr ++ [0] ++ dstPrime
    let b ← Slice.update (List.replicate (ell + 1) []) 0 (kdf.sha256 msgPrime)
    let b0 ← Slice.index b 0
    let b ← Slice.update b 1 (kdf.sha256 (b0 ++ [1] ++ dstPrime))
    let b ← (List.range' 2 (ell - 1)).foldlM (xmdPass kdf dstPrime) b
    return (b.drop 1).flatten.take lenInBytes

/-! ## The scalar -/

def p256OrderBytes : List UInt8 :=
  [0xff, 0xff, 0xff, 0xff, 0x00, 0x00, 0x00, 0x00, 0xff, 0xff, 0xff, 0xff, 0xff, 0xff, 0xff, 0xff,
    0xbc, 0xe6, 0xfa, 0xad, 0xa7, 0x17, 0x9e, 0x84, 0xf3, 0xb9, 0xca, 0xc2, 0xfc, 0x63, 0x25, 0x51]

/-- The 32 octets of a reduced number, if they are 32. -/
def fieldBytes (e : Nat) : Option (List UInt8) :=
  let bytes32 := codec.toBytesBe e
  let bytes32 :=
    if bytes32.length < 32 then List.replicate (32 - bytes32.length) 0 ++ bytes32 else bytes32
  if bytes32.length = 32 then some bytes32 else none

def hashToScalarField (msg dst : List UInt8) : Option Scalar := do
  let uniformBytes ← expandMessageXmd kdf msg dst 48
  let order := codec.fromBytesBe p256OrderBytes
  let e := codec.fromBytesBe uniformBytes % order
  let bytes ← fieldBytes codec e
  codec.fromRepr bytes

/-! ## Deriving a public key -/

/-- The coordinates are expected to be there. -/
def encodeUncompressedPoint (point : ProjectivePoint) : Option (List UInt8) :=
  point.map Arkg.encodeUncompressedPoint

def dstAug : List UInt8 := ascii "ARKG-ECDH.ARKG-P256"

/-- `dst_kg` -/
def kemDst : List UInt8 := ascii "ARKG-KEM-ECDH-KG." ++ dstAug

def kemEncaps (pubkKem : PublicKey) (ikm ctx : List UInt8) :
    MayStop WscdError (List UInt8 × List UInt8) := do
  let skPrime ← inBounds (hashToScalarField kdf codec ikm kemDst)
  if skPrime = 0 then
    throw (.crypto "ARKG: derived zero scalar (retry with new ikm)")
  else do
    let cPrime ← inBounds (encodeUncompressedPoint (p256.mul p256.generator skPrime))
    let kPrime := diffieHellman p256 skPrime pubkKem
    if kPrime.length ≠ 32 then
      throw (.crypto "ARKG: ECDH shared secret is not 32 bytes")
    else
      match kdf.hkdfExpand [] kPrime (ascii "ARKG-KEM-HMAC-mac." ++ dstAug ++ ctx) 32 with
      | .error e => throw (.crypto s!"ARKG HKDF (mac key) failed: {e}")
      | .ok macKey => do
        let t16 ← inBounds (Slice.range (kdf.hmac macKey cPrime) 0 16)
        match kdf.hkdfExpand [] kPrime (ascii "ARKG-KEM-HMAC-shared." ++ dstAug ++ ctx) 32 with
        | .error e => throw (.crypto s!"ARKG HKDF (shared secret) failed: {e}")
        | .ok k => return (k, t16 ++ cPrime)

def blDst (ctx : List UInt8) : List UInt8 := ascii "ARKG-BL-EC.ARKG-P256" ++ ctx

def blBlindPublicKey (pkBl : PublicKey) (tau ctx : List UInt8) : MayStop WscdError PublicKey := do
  let tauPrime ← inBounds (hashToScalarField kdf codec tau (blDst ctx))
  match p256.add (some pkBl) (p256.mul p256.generator tauPrime) with
  | some pk => return pk
  | none => throw (.crypto "ARKG: blinded public key is the point at infinity")

def ctxKem (ctx : List UInt8) : List UInt8 :=
  ascii "ARKG-Derive-Key-KEM." ++ [UInt8.ofNat ctx.length] ++ ctx

def ctxBl (ctx : List UInt8) : List UInt8 :=
  ascii "ARKG-Derive-Key-BL." ++ [UInt8.ofNat ctx.length] ++ ctx

def derivePublicKey (seed : ArkgPublicSeed) (ikm ctx : List UInt8) :
    MayStop WscdError (PublicKey × List UInt8) :=
  if ctxMaxLen < ctx.length then
    throw (.crypto s!"ARKG ctx too long: {ctx.length} bytes (max {ctxMaxLen})")
  else do
    let (tau, kh) ← kemEncaps kdf codec p256 seed.pkKem ikm (ctxKem ctx)
    let derived ← blBlindPublicKey kdf codec p256 seed.pkBl tau (ctxBl ctx)
    return (derived, kh)

/-! ## The table of blocks -/

section Expansion

variable {kdf} (hsha256 : ∀ m, (kdf.sha256 m).length = 32)

/-- SHA-256 with its lengths. -/
def sha256 : Hash := ⟨kdf.sha256, 32, 64, by decide, hsha256⟩

variable {msg dst : List UInt8} {len : Nat}

theorem asU16_of_le (hlen : len ≤ 65535) : len % 2 ^ 16 = len :=
  Nat.mod_eq_of_lt (Nat.lt_succ_of_le hlen)

theorem block_zero (hlen : len ≤ 65535) :
    Xmd.block (sha256 hsha256) msg dst len 0 =
      kdf.sha256 (List.replicate sInBytes 0 ++ msg ++ Arkg.i2osp (len % 2 ^ 16) 2 ++ [0] ++
        (dst ++ [UInt8.ofNat dst.length])) := by
  rw [Xmd.block, Xmd.b0, Xmd.dstPrime, i2osp_one, i2osp_one, asU16_of_le hlen]
  rfl

theorem block_one :
    Xmd.block (sha256 hsha256) msg dst len 1 =
      kdf.sha256 (Xmd.block (sha256 hsha256) msg dst len 0 ++ [1] ++
        (dst ++ [UInt8.ofNat dst.length])) := by
  rw [Xmd.block, Xmd.block, Xmd.dstPrime, i2osp_one, i2osp_one]
  rfl

theorem block_add_two (i : Nat) :
    Xmd.block (sha256 hsha256) msg dst len (i + 2) =
      kdf.sha256 (List.zipWith (· ^^^ ·) (Xmd.block (sha256 hsha256) msg dst len 0)
          (Xmd.block (sha256 hsha256) msg dst len (i + 1)) ++ [UInt8.ofNat (i + 2)] ++
        (dst ++ [UInt8.ofNat dst.length])) := by
  rw [Xmd.block, Xmd.block, Xmd.dstPrime, i2osp_one, i2osp_one, Xmd.strxor]
  rfl

/-- One pass stores one block. -/
theorem xmdPass_filled {n i : Nat} {b : List (List UInt8)} (hi : 2 ≤ i) (hn : i < n)
    (h : Slice.Filled (Xmd.block (sha256 hsha256) msg dst len) n i b) :
    ∃ b', xmdPass kdf (dst ++ [UInt8.ofNat dst.length]) b i = some b' ∧
      Slice.Filled (Xmd.block (sha256 hsha256) msg dst len) n (i + 1) b' := by
  obtain ⟨b', hstored, hfilled⟩ := h.update hn
  obtain ⟨i, rfl⟩ := Nat.exists_eq_add_of_le' hi
  refine ⟨b', ?_, hfilled⟩
  have hprev : i + 2 - 1 < i + 2 := Nat.lt_succ_self (i + 1)
  rw [xmdPass, h.index (Nat.lt_of_lt_of_le Nat.two_pos hi), h.index hprev]
  rw [block_add_two] at hstored
  exact hstored

/-- The code stops where the standard aborts, and comes to the standard's octets otherwise. -/
theorem expandMessageXmd_eq (hlen : 0 < len) :
    expandMessageXmd kdf msg dst len = Xmd.expandMessage (sha256 hsha256) msg dst len := by
  have hell : Xmd.ell (sha256 hsha256) len = (len + bInBytes - 1) / bInBytes := rfl
  unfold expandMessageXmd Xmd.expandMessage
  rw [hell]
  dsimp only
  have hpos : 1 ≤ (len + bInBytes - 1) / bInBytes :=
    Nat.div_pos (Nat.add_le_add_right hlen 31) (by decide)
  generalize (len + bInBytes - 1) / bInBytes = ell at hpos
  by_cases hfits : ell ≤ 255 ∧ len ≤ 65535 ∧ dst.length ≤ 255
  · rw [if_neg (not_not.mpr hfits), if_neg (by omega)]
    -- the table is filled from the front
    have hempty := Slice.Filled.replicate (Xmd.block (sha256 hsha256) msg dst len) (ell + 1) []
    obtain ⟨b, hb0, hfilled0⟩ := hempty.update (Nat.succ_pos ell)
    rw [block_zero hsha256 hfits.2.1] at hb0
    simp only [Option.bind_eq_bind]
    rw [hb0, Option.bind_some, hfilled0.index Nat.one_pos, Option.bind_some]
    obtain ⟨b', hb1, hfilled1⟩ := hfilled0.update (Nat.succ_lt_succ hpos)
    rw [block_one] at hb1
    rw [hb1, Option.bind_some]
    have hcount : 0 + 1 + 1 + (ell - 1) = ell + 1 := by omega
    obtain ⟨b'', hloop, hfilled⟩ := Slice.Filled.foldlM (m := ell - 1) hfilled1 hcount.le
      fun i table hi hn h => xmdPass_filled hsha256 hi hn h
    rw [hloop, Option.bind_some]
    rw [hcount] at hfilled
    rw [hfilled.eq_map, List.range_succ_eq_map, List.map_cons, List.drop_one, List.tail_cons,
      List.map_map, List.flatMap_def]
    rfl
  · rw [if_pos hfits, if_pos (by omega)]

/-- For no octets at all the table has no room for `b[1]`. -/
example : expandMessageXmd kdf [] [] 0 = none := rfl

theorem expandMessage_isSome (hdst : dst.length ≤ 255) (hlen : len ≤ 8160) :
    (Xmd.expandMessage (sha256 hsha256) msg dst len).isSome := by
  have hell : Xmd.ell (sha256 hsha256) len = (len + 31) / 32 := rfl
  rw [Xmd.expandMessage, hell, if_neg (by omega)]
  rfl

theorem xmdBlocks_eq (n i : Nat) :
    xmdBlocks kdf (Xmd.block (sha256 hsha256) msg dst len 0) (dst ++ [UInt8.ofNat dst.length]) n
        (i + 2) (Xmd.block (sha256 hsha256) msg dst len (i + 1)) =
      (List.range n).map fun j => Xmd.block (sha256 hsha256) msg dst len (i + 2 + j) := by
  induction n generalizing i with
  | zero => rfl
  | succ n ih =>
    have hrest := ih (i + 1)
    rw [xmdBlocks, ← block_add_two, hrest, List.range_succ_eq_map, List.map_cons, List.map_map]
    refine congrArg _ (List.map_congr_left fun j _ => ?_)
    have hindex : i + 1 + 2 + j = i + 2 + (j + 1) := by omega
    rw [hindex]
    rfl

include hsha256 in
/-- The expansion without its assertions. -/
theorem expandMessageXmd_eq_model (hdst : dst.length ≤ 255) (hpos : 0 < len)
    (hlen : len ≤ 8160) :
    expandMessageXmd kdf msg dst len = some (Arkg.expandMessageXmd kdf msg dst len) := by
  have hell : Xmd.ell (sha256 hsha256) len = (len + 31) / 32 := rfl
  have hshort : len ≤ 65535 := hlen.trans (by decide)
  have hb0 : Xmd.block (sha256 hsha256) msg dst len 0 = _ := block_zero hsha256 hshort
  rw [asU16_of_le hshort] at hb0
  rw [expandMessageXmd_eq hsha256 hpos, Xmd.expandMessage, hell, if_neg (by omega),
    Arkg.expandMessageXmd]
  unfold sInBytes at hb0
  rw [← hb0, ← block_one hsha256, xmdBlocks_eq hsha256]
  have hblocks : 0 < (len + 31) / 32 := Nat.div_pos (Nat.add_le_add_right hpos 31) (by decide)
  obtain ⟨m, hm⟩ := Nat.exists_eq_add_of_le' hblocks
  rw [hm, Nat.add_sub_cancel, List.range_succ_eq_map, List.flatMap_cons, List.flatMap_map,
    List.flatten_cons, List.flatMap_def]
  simp only [Nat.zero_add, Nat.add_comm 2, Nat.succ_eq_add_one, Nat.add_assoc, Nat.reduceAdd]

end Expansion

/-! ## The scalar, canonical -/

section Scalar

variable {codec} (hcodec : codec.Lawful)

include hcodec

theorem length_toBytesBe {e : Nat} (he : e < p256Order) : (codec.toBytesBe e).length ≤ 32 := by
  by_cases hzero : e = 0
  · rw [hzero, hcodec.toBytesBe_zero]
    decide
  · refine length_le_of_os2ip_lt (hcodec.head?_toBytesBe e hzero) ?_
    rw [hcodec.os2ip_toBytesBe]
    exact he.trans (by decide)

theorem fieldBytes_eq {e : Nat} (he : e < p256Order) :
    fieldBytes codec e = some (Lib.i2osp e 32) := by
  have hlength := length_toBytesBe hcodec he
  have hpadded : (if (codec.toBytesBe e).length < 32
        then List.replicate (32 - (codec.toBytesBe e).length) 0 ++ codec.toBytesBe e
        else codec.toBytesBe e) =
      List.replicate (32 - (codec.toBytesBe e).length) 0 ++ codec.toBytesBe e := by
    split
    · rfl
    · rename_i hlong
      rw [Nat.sub_eq_zero_of_le (not_lt.mp hlong), List.replicate_zero, List.nil_append]
  have hpaddedLength :
      (List.replicate (32 - (codec.toBytesBe e).length) 0 ++ codec.toBytesBe e).length = 32 := by
    rw [List.length_append, List.length_replicate, Nat.sub_add_cancel hlength]
  have hnumber :
      Lib.os2ip (List.replicate (32 - (codec.toBytesBe e).length) 0 ++ codec.toBytesBe e) = e := by
    rw [os2ip_zeros_append, hcodec.os2ip_toBytesBe]
  unfold fieldBytes
  dsimp only
  rw [hpadded, if_pos hpaddedLength, eq_i2osp hnumber, hpaddedLength]

theorem fromRepr_i2osp (k : Scalar) : codec.fromRepr (Lib.i2osp k.val 32) = some k := by
  rw [hcodec.fromRepr_eq_some_iff _ _ (length_i2osp _ _), os2ip_i2osp]
  exact Nat.mod_eq_of_lt (k.isLt.trans (by decide))

omit hcodec in
theorem val_hashToScalarField {kdf : Kdf} (msg dst : List UInt8) :
    (Arkg.hashToScalarField kdf msg dst).val =
      Lib.os2ip (Arkg.expandMessageXmd kdf msg dst 48) % p256Order := by
  rw [Arkg.hashToScalarField, os2ip_eq_ofDigits]
  rfl

/-- No assertion fires, and the scalar is that of the model. -/
theorem hashToScalarField_eq {kdf : Kdf} (hsha256 : ∀ m, (kdf.sha256 m).length = 32)
    {msg dst : List UInt8} (hdst : dst.length ≤ 255) :
    hashToScalarField kdf codec msg dst = some (Arkg.hashToScalarField kdf msg dst) := by
  have horder : codec.fromBytesBe p256OrderBytes = p256Order := by
    rw [hcodec.fromBytesBe_eq]
    decide +kernel
  have hscalar := fromRepr_i2osp hcodec (Arkg.hashToScalarField kdf msg dst)
  unfold hashToScalarField
  rw [expandMessageXmd_eq_model hsha256 hdst (by decide) (by decide), Option.bind_eq_bind,
    Option.bind_some]
  dsimp only
  rw [horder, hcodec.fromBytesBe_eq, ← val_hashToScalarField, fieldBytes_eq hcodec (Fin.isLt _)]
  exact hscalar

end Scalar

/-- As few octets as a number takes, and what is less than the order. -/
def minimalCodec : ScalarCodec where
  fromBytesBe := Lib.os2ip
  toBytesBe n := if n = 0 then [0] else ((Nat.digits 256 n).map UInt8.ofNat).reverse
  fromRepr octets :=
    if h : Lib.os2ip octets < p256Order then some ⟨Lib.os2ip octets, h⟩ else none

theorem minimalCodec_toBytesBe {n : Nat} (hn : n ≠ 0) :
    minimalCodec.toBytesBe n = ((Nat.digits 256 n).map UInt8.ofNat).reverse := if_neg hn

theorem toNat_ofNat_digit {n d : Nat} (hd : d ∈ Nat.digits 256 n) : (UInt8.ofNat d).toNat = d := by
  rw [UInt8.toNat_ofNat']
  exact Nat.mod_eq_of_lt (Nat.digits_lt_base (by decide) hd)

theorem minimalCodec_lawful : minimalCodec.Lawful where
  fromBytesBe_eq _ := rfl
  os2ip_toBytesBe n := by
    by_cases hzero : n = 0
    · subst hzero
      rfl
    · have hdigits : ((Nat.digits 256 n).map UInt8.ofNat).map UInt8.toNat = Nat.digits 256 n := by
        rw [List.map_map]
        exact (List.map_congr_left fun d hd => toNat_ofNat_digit hd).trans (List.map_id _)
      rw [minimalCodec_toBytesBe hzero, Lib.os2ip, List.reverse_reverse, hdigits,
        Nat.ofDigits_digits]
  toBytesBe_zero := rfl
  head?_toBytesBe n hn := by
    have hne : Nat.digits 256 n ≠ [] := Nat.digits_ne_nil_iff_ne_zero.mpr hn
    have hlast := Nat.getLast_digit_ne_zero 256 hn
    rw [minimalCodec_toBytesBe hn, List.head?_reverse, List.getLast?_map,
      List.getLast?_eq_some_getLast hne, Option.map_some]
    intro hzero
    have hdigit := toNat_ofNat_digit (List.getLast_mem hne)
    rw [Option.some.inj hzero] at hdigit
    exact hlast hdigit.symm
  fromRepr_eq_some_iff octets k _ := by
    by_cases h : Lib.os2ip octets < p256Order
    · simp [minimalCodec, h, Fin.ext_iff]
    · have hne : Lib.os2ip octets ≠ k.val := fun heq => h (heq ▸ k.isLt)
      simp [minimalCodec, h, hne]

/-! ## The derivation, in bounds -/

theorem length_kemDst : kemDst.length ≤ 255 := by decide

theorem length_blDst {ctx : List UInt8} (hctx : ctx.length ≤ ctxMaxLen) :
    (blDst (ctxBl ctx)).length ≤ 255 := by
  have hbl : (ascii "ARKG-BL-EC.ARKG-P256").length = 20 := by decide
  have hderive : (ascii "ARKG-Derive-Key-BL.").length = 19 := by decide
  unfold ctxMaxLen at hctx
  simp only [blDst, ctxBl, List.length_append, List.length_singleton, hbl, hderive]
  omega

theorem encodeUncompressedPoint_eq {point : ProjectivePoint} (h : point.isSome) :
    encodeUncompressedPoint point = some (Arkg.encodeUncompressedPoint (point.get h)) := by
  cases point with
  | none => cases h
  | some pk => rfl

section Derivation

variable {kdf : Kdf} {codec : ScalarCodec} (hsha256 : ∀ m, (kdf.sha256 m).length = 32)
  (hhmac : ∀ key m, (kdf.hmac key m).length = 32) (hcodec : codec.Lawful) (p256 : P256)

include hsha256 hcodec

include hhmac in
theorem returns_kemEncaps (pubkKem : PublicKey) (ikm ctx : List UInt8) :
    Returns (kemEncaps kdf codec p256 pubkKem ikm ctx)
      (Arkg.kemEncaps kdf p256 pubkKem ikm ctx) := by
  unfold kemEncaps Arkg.kemEncaps
  refine returns_inBounds_bind (hashToScalarField_eq hcodec hsha256 length_kemDst) ?_
  unfold kemDst dstAug
  dsimp only
  by_cases hzero : Arkg.hashToScalarField kdf ikm
      (ascii "ARKG-KEM-ECDH-KG." ++ ascii "ARKG-ECDH.ARKG-P256") = 0
  · rw [if_pos hzero, dif_pos hzero]
    exact returns_throw _
  rw [if_neg hzero, dif_neg hzero]
  refine returns_inBounds_bind
    (encodeUncompressedPoint_eq (p256.mul_generator_isSome _ hzero)) ?_
  generalize diffieHellman p256 _ pubkKem = kPrime
  by_cases hlength : kPrime.length ≠ 32
  · rw [if_pos hlength, if_pos hlength]
    exact returns_throw _
  rw [if_neg hlength, if_neg hlength]
  cases kdf.hkdfExpand [] kPrime
    (ascii "ARKG-KEM-HMAC-mac." ++ ascii "ARKG-ECDH.ARKG-P256" ++ ctx) 32 with
  | error e => exact returns_throw _
  | ok macKey =>
    -- the tag is longer than what is taken of it
    refine returns_inBounds_bind (Slice.range_of_le (Nat.zero_le 16) (by rw [hhmac]; decide)) ?_
    dsimp only
    cases kdf.hkdfExpand [] kPrime
      (ascii "ARKG-KEM-HMAC-shared." ++ ascii "ARKG-ECDH.ARKG-P256" ++ ctx) 32 with
    | error e => exact returns_throw _
    | ok k => exact returns_pure _

theorem returns_blBlindPublicKey (pkBl : PublicKey) (tau : List UInt8) {ctx : List UInt8}
    (hctx : ctx.length ≤ ctxMaxLen) :
    Returns (blBlindPublicKey kdf codec p256 pkBl tau (ctxBl ctx))
      (Arkg.blBlindPublicKey kdf p256 pkBl tau (ctxBl ctx)) := by
  unfold blBlindPublicKey Arkg.blBlindPublicKey
  refine returns_inBounds_bind (hashToScalarField_eq hcodec hsha256 (length_blDst hctx)) ?_
  unfold blDst
  dsimp only
  cases p256.add (some pkBl) (p256.mul p256.generator
    (Arkg.hashToScalarField kdf tau (ascii "ARKG-BL-EC.ARKG-P256" ++ ctxBl ctx))) with
  | none => exact returns_throw _
  | some pk => exact returns_pure _

include hhmac in
theorem returns_derivePublicKey (seed : ArkgPublicSeed) (ikm ctx : List UInt8) :
    Returns (derivePublicKey kdf codec p256 seed ikm ctx)
      (Arkg.derivePublicKey kdf p256 seed ikm ctx) := by
  unfold derivePublicKey Arkg.derivePublicKey
  by_cases hlong : ctxMaxLen < ctx.length
  · rw [if_pos hlong, if_pos hlong]
    exact returns_throw _
  rw [if_neg hlong, if_neg hlong]
  refine (returns_kemEncaps hsha256 hhmac hcodec p256 seed.pkKem ikm (ctxKem ctx)).bind ?_
  rintro ⟨tau, kh⟩ -
  refine (returns_blBlindPublicKey hsha256 hcodec p256 seed.pkBl tau (not_lt.mp hlong)).bind ?_
  exact fun derived _ => returns_pure _

end Derivation

/-- The expansion is the standard's, and as long as was asked for. With every tag the
derivation of a key hashes under, the scalar is that of 48 octets of it, reduced; any reduced
number is padded to its 32 octets; and the derivation comes to its result without a stop. -/
theorem hash_to_field_is_standard (kdf : Kdf) (codec : ScalarCodec) (p256 : P256)
    (hsha256 : ∀ m, (kdf.sha256 m).length = 32) (hhmac : ∀ key m, (kdf.hmac key m).length = 32)
    (hcodec : codec.Lawful) :
    (∀ (msg dst : List UInt8) (len : Nat), dst.length ≤ 255 → 1 ≤ len → len ≤ 8160 →
      ∃ uniform, expandMessageXmd kdf msg dst len = some uniform ∧
        Xmd.expandMessage (sha256 hsha256) msg dst len = some uniform ∧ uniform.length = len) ∧
    (∀ input ctx : List UInt8, ctx.length ≤ ctxMaxLen → ∀ dst ∈ [kemDst, blDst (ctxBl ctx)],
      dst.length ≤ 255 ∧
      ∃ uniform k, Xmd.expandMessage (sha256 hsha256) input dst 48 = some uniform ∧
        hashToScalarField kdf codec input dst = some k ∧
        k.val = Lib.os2ip uniform % p256Order) ∧
    (∀ k : Scalar, fieldBytes codec k.val = some (Lib.i2osp k.val 32) ∧
      codec.fromRepr (Lib.i2osp k.val 32) = some k) ∧
    ∀ (seed : ArkgPublicSeed) (ikm ctx : List UInt8),
      Returns (derivePublicKey kdf codec p256 seed ikm ctx)
        (Arkg.derivePublicKey kdf p256 seed ikm ctx) := by
  refine ⟨?_, ?_, ?_, returns_derivePublicKey hsha256 hhmac hcodec p256⟩
  · intro msg dst len hdst hpos hlen
    have hsome : (Xmd.expandMessage (sha256 hsha256) msg dst len).isSome :=
      expandMessage_isSome hsha256 hdst hlen
    obtain ⟨uniform, huniform⟩ := Option.isSome_iff_exists.mp hsome
    refine ⟨uniform, ?_, huniform, Xmd.length_expandMessage huniform⟩
    rw [expandMessageXmd_eq hsha256 hpos, huniform]
  · intro input ctx hctx dst hmem
    have hdst : dst.length ≤ 255 := by
      rw [List.mem_pair] at hmem
      rcases hmem with rfl | rfl
      · exact length_kemDst
      · exact length_blDst hctx
    refine ⟨hdst, _, _, ?_, hashToScalarField_eq hcodec hsha256 hdst, val_hashToScalarField _ _⟩
    rw [← expandMessageXmd_eq hsha256 (by decide),
      expandMessageXmd_eq_model hsha256 hdst (by decide) (by decide)]
  · intro k
    exact ⟨fieldBytes_eq hcodec k.isLt, fromRepr_i2osp hcodec k⟩

theorem hash_to_field_is_standard_demo :
    (∃ uniform, expandMessageXmd demoCrypto.kdf (ascii "abc") (ascii "demo") 33 = some uniform ∧
      Xmd.expandMessage (sha256 demoCrypto_lawful.kdf.length_sha256) (ascii "abc") (ascii "demo")
        33 = some uniform ∧ uniform.length = 33) ∧
    fieldBytes minimalCodec 0 = some (Lib.i2osp 0 32) ∧
    Returns
      (derivePublicKey demoCrypto.kdf minimalCodec demoCrypto.p256 demoSeed [1, 2, 3]
        (ascii "demo"))
      (Arkg.derivePublicKey demoCrypto.kdf demoCrypto.p256 demoSeed [1, 2, 3] (ascii "demo")) := by
  obtain ⟨hexpansion, -, hpadded, hreturns⟩ :=
    hash_to_field_is_standard demoCrypto.kdf minimalCodec demoCrypto.p256
      demoCrypto_lawful.kdf.length_sha256 demoCrypto_lawful.kdf.length_hmac minimalCodec_lawful
  exact ⟨hexpansion _ _ 33 (by decide) (by decide) (by decide), (hpadded 0).1, hreturns _ _ _⟩

end Bounds

end Wscd.Arkg
