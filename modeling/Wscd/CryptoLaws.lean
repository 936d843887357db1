import Wscd.CborWire
import Wscd.ClientPin

/-!
# What the cryptography is relied on for

The group, the hashes and the cipher are third-party code. Two parties that only share
messages agree on keys because the group is one, and read each other's ciphertexts because
the cipher inverts. Nothing else is used.

Results:
1. `P256.Lawful.diffieHellman_comm`: the two ends of an exchange have one secret.
2. `P256.Lawful.decode_coseKey`: a public key is read back from its COSE form.
3. `scalarPoints_lawful`, `scalarCrypto_lawful`: a group with these laws, and what is built on it.
-/

namespace Wscd

open Lib Cbor

/-- A group generated by one point, of prime order, its points given by two coordinates. -/
structure P256.Lawful (p256 : P256) : Prop where
  mul_comm : ∀ a b, p256.mul (p256.mul p256.generator a) b =
    p256.mul (p256.mul p256.generator b) a
  add_mul : ∀ a b, p256.add (p256.mul p256.generator a) (p256.mul p256.generator b) =
    p256.mul p256.generator (a + b)
  mul_zero : p256.mul p256.generator 0 = none
  /-- The order is prime. -/
  mul_isSome : ∀ a b, a ≠ 0 → b ≠ 0 → (p256.mul (p256.mul p256.generator a) b).isSome
  length_coordinates : ∀ p k pk, p256.mul p k = some pk → pk.x.length = 32 ∧ pk.y.length = 32
  fromSec1Bytes_point : ∀ k pk, p256.mul p256.generator k = some pk →
    p256.fromSec1Bytes (0x04 :: pk.x ++ pk.y) = .ok pk

/-- Hashes and derived keys have the lengths they are said to have. -/
structure Kdf.Lawful (kdf : Kdf) : Prop where
  length_sha256 : ∀ m, (kdf.sha256 m).length = 32
  length_hmac : ∀ key m, (kdf.hmac key m).length = 32
  hkdf_ok : ∀ salt ikm info, ∃ okm, kdf.hkdfExpand salt ikm info 32 = .ok okm ∧ okm.length = 32

theorem sha256Kdf_lawful : sha256Kdf.Lawful :=
  ⟨length_sha256, length_hmacSha256, fun salt ikm info =>
    hkdfSha256_ok salt ikm info (show 32 ≤ 255 * 32 by decide)⟩

structure CtapCrypto.Lawful (crypto : CtapCrypto) : Prop where
  cbor : crypto.cbor.Lawful
  kdf : crypto.kdf.Lawful
  p256 : crypto.p256.Lawful
  /-- AES-256-CBC on whole blocks. -/
  aesCbc : ∀ key iv m, key.length = 32 → iv.length = 16 → 16 ∣ m.length →
    crypto.aesCbcDecrypt key iv (crypto.aesCbcEncrypt key iv m) = .ok m

section Group

variable {p256 : P256}

theorem SecretKey.some_publicKey (p256 : P256) (secret : SecretKey) :
    some (secret.publicKey p256) = p256.mul p256.generator secret.1 := Option.some_get _

theorem P256.Lawful.diffieHellman_comm (h : p256.Lawful) (a b : SecretKey) :
    Arkg.diffieHellman p256 a.1 (b.publicKey p256) =
      Arkg.diffieHellman p256 b.1 (a.publicKey p256) := by
  unfold Arkg.diffieHellman
  rw [SecretKey.some_publicKey, SecretKey.some_publicKey, h.mul_comm]

theorem P256.Lawful.length_diffieHellman (h : p256.Lawful) (a b : SecretKey) :
    (Arkg.diffieHellman p256 a.1 (b.publicKey p256)).length = 32 := by
  unfold Arkg.diffieHellman
  rw [SecretKey.some_publicKey]
  obtain ⟨pk, hpk⟩ := Option.isSome_iff_exists.mp (h.mul_isSome b.1 a.1 b.2 a.2)
  rw [hpk]
  exact (h.length_coordinates _ _ pk hpk).1

/-- The COSE form of a public key, with whatever else it says of itself. -/
theorem P256.Lawful.decode_coseKey (h : p256.Lawful) (secret : SecretKey)
    (header : List (Cbor × Cbor)) (hx : findBytesByInt header (-2) = none)
    (hy : findBytesByInt header (-3) = none) :
    Arkg.decodeCoseEc2PublicKey p256 (.map (header ++
      [(.integer (-2), .bytes (secret.publicKey p256).x),
        (.integer (-3), .bytes (secret.publicKey p256).y)])) =
      .ok (secret.publicKey p256) := by
  have hpoint := (SecretKey.some_publicKey p256 secret).symm
  obtain ⟨hlength, hlength'⟩ := h.length_coordinates _ _ _ hpoint
  have hfindx : findBytesByInt (header ++
      [(.integer (-2), .bytes (secret.publicKey p256).x),
        (.integer (-3), .bytes (secret.publicKey p256).y)]) (-2) =
      some (secret.publicKey p256).x := by
    unfold findBytesByInt at hx ⊢
    rw [List.findSome?_append, hx]
    rfl
  have hfindy : findBytesByInt (header ++
      [(.integer (-2), .bytes (secret.publicKey p256).x),
        (.integer (-3), .bytes (secret.publicKey p256).y)]) (-3) =
      some (secret.publicKey p256).y := by
    unfold findBytesByInt at hy ⊢
    rw [List.findSome?_append, hy]
    rfl
  unfold Arkg.decodeCoseEc2PublicKey
  simp only [asMap, hfindx, hfindy]
  rw [if_neg (by simp [hlength, hlength']), h.fromSec1Bytes_point _ _ hpoint]

end Group

/-! ## The scalars as points -/

/-- The point of a scalar: the scalar is its first coordinate. -/
def scalarPoint (k : Arkg.Scalar) : PublicKey := ⟨beBytes 32 k.val, List.replicate 32 0⟩

def scalarOf : ProjectivePoint → Arkg.Scalar
  | some pk => Fin.ofNat Arkg.p256Order (beNat pk.x)
  | none => 0

/-- The group of the scalars. Infinity is what is no multiple by a scalar other than zero. -/
def scalarPoints : P256 where
  generator := some (scalarPoint 1)
  add p q :=
    let k := scalarOf p + scalarOf q
    if k = 0 then none else some (scalarPoint k)
  mul p k := if p = none ∨ k = 0 then none else some (scalarPoint (scalarOf p * k))
  fromSec1Bytes
    | 0x04 :: coordinates =>
      if coordinates.length = 64 then .ok ⟨coordinates.take 32, coordinates.drop 32⟩
      else .error "crypto error"
    | _ => .error "crypto error"
  mul_generator_isSome k hk := by
    rw [if_neg (by simp [hk])]
    rfl

theorem scalarOf_scalarPoint (k : Arkg.Scalar) : scalarOf (some (scalarPoint k)) = k := by
  have hk : k.val < 256 ^ 32 := lt_trans k.isLt (by decide)
  rw [scalarOf, scalarPoint, beNat_beBytes hk]
  exact Fin.ofNat_val_eq_self k

theorem length_scalarPoint (k : Arkg.Scalar) :
    (scalarPoint k).x.length = 32 ∧ (scalarPoint k).y.length = 32 :=
  ⟨length_beBytes 32 k.val, List.length_replicate⟩

theorem scalarPoints_mul (p : ProjectivePoint) (k : Arkg.Scalar) :
    scalarPoints.mul p k =
      if p = none ∨ k = 0 then none else some (scalarPoint (scalarOf p * k)) := rfl

/-- The multiples of the generator are the points of the scalars. -/
theorem scalarPoints_mul_generator (k : Arkg.Scalar) :
    scalarPoints.mul scalarPoints.generator k = if k = 0 then none else some (scalarPoint k) := by
  have hgenerator : scalarPoints.generator = some (scalarPoint 1) := rfl
  rw [scalarPoints_mul, hgenerator, scalarOf_scalarPoint, Fin.one_mul]
  simp

theorem scalarOf_mul_generator (k : Arkg.Scalar) :
    scalarOf (scalarPoints.mul scalarPoints.generator k) = k := by
  rw [scalarPoints_mul_generator]
  split
  · rename_i hk
    rw [hk]
    rfl
  · exact scalarOf_scalarPoint k

theorem scalarPoints_add (p q : ProjectivePoint) :
    scalarPoints.add p q =
      if scalarOf p + scalarOf q = 0 then none
      else some (scalarPoint (scalarOf p + scalarOf q)) := rfl

theorem scalarPoints_fromSec1Bytes (coordinates : List UInt8) :
    scalarPoints.fromSec1Bytes (0x04 :: coordinates) =
      if coordinates.length = 64 then .ok ⟨coordinates.take 32, coordinates.drop 32⟩
      else .error "crypto error" := rfl

theorem scalarPoints_mul_mul (a b : Arkg.Scalar) :
    scalarPoints.mul (scalarPoints.mul scalarPoints.generator a) b =
      if a = 0 ∨ b = 0 then none else some (scalarPoint (a * b)) := by
  rw [scalarPoints_mul, scalarOf_mul_generator, scalarPoints_mul_generator]
  simp

theorem scalarPoints_lawful : scalarPoints.Lawful where
  mul_comm a b := by
    rw [scalarPoints_mul_mul, scalarPoints_mul_mul, Fin.mul_comm a b]
    simp only [or_comm]
  add_mul a b := by
    rw [scalarPoints_add, scalarOf_mul_generator, scalarOf_mul_generator,
      scalarPoints_mul_generator]
  mul_zero := by
    rw [scalarPoints_mul_generator, if_pos rfl]
  mul_isSome a b ha hb := by
    rw [scalarPoints_mul_mul, if_neg (by simp [ha, hb])]
    rfl
  length_coordinates p k pk h := by
    rw [scalarPoints_mul] at h
    split at h
    · cases h
    · obtain rfl := Option.some.inj h
      exact length_scalarPoint _
  fromSec1Bytes_point k pk h := by
    rw [scalarPoints_mul_generator] at h
    split at h
    · cases h
    · obtain rfl := Option.some.inj h
      obtain ⟨hx, hy⟩ := length_scalarPoint k
      rw [List.cons_append, scalarPoints_fromSec1Bytes,
        if_pos (by rw [List.length_append, hx, hy]), List.take_left' hx, List.drop_left' hx]

/-- CBOR and the hashes as they are, over this group, with a cipher that reverses. -/
def scalarCrypto : CtapCrypto where
  cbor := cborWire
  kdf := sha256Kdf
  p256 := scalarPoints
  aesCbcEncrypt _ _ m := m.reverse
  aesCbcDecrypt _ _ ct := if 16 ∣ ct.length then .ok ct.reverse else .error "Unpad Error"
  nfc s := s

theorem scalarCrypto_lawful : scalarCrypto.Lawful where
  cbor := cborWire_lawful
  kdf := sha256Kdf_lawful
  p256 := scalarPoints_lawful
  aesCbc key iv m _ _ hm := by
    show (if 16 ∣ m.reverse.length then Except.ok m.reverse.reverse else _) = _
    rw [if_pos (by rwa [List.length_reverse]), List.reverse_reverse]

end Wscd
