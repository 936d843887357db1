import Wscd.Lib.Slice
import Mathlib.Data.Nat.Digits.Lemmas

/-!
# Octet strings and `expand_message_xmd`

RFC 9380, sections 4 and 5.3.1: natural numbers as octet strings, and a hash of fixed
output length stretched to as many octets as are asked for. The hash is any function with the
lengths it is said to have.

Results:
1. `os2ip_i2osp`, `eq_i2osp`: an octet string is determined by its length and its number.
2. `length_le_of_os2ip_lt`: without a leading zero no shorter string has the number.
3. `Xmd.length_expandMessage`: as many octets as were asked for.
-/

namespace Lib

/-! ## Octet strings -/

/-- A natural number as `len` octets, most significant first. -/
def i2osp (n len : Nat) : List UInt8 :=
  (List.range len).reverse.map fun i => UInt8.ofNat (n / 256 ^ i)

/-- An octet string as a natural number, most significant first. -/
def os2ip (octets : List UInt8) : Nat := Nat.ofDigits 256 (octets.reverse.map UInt8.toNat)

@[simp] theorem length_i2osp (n len : Nat) : (i2osp n len).length = len := by simp [i2osp]

theorem i2osp_one (n : Nat) : i2osp n 1 = [UInt8.ofNat n] := by simp [i2osp]

theorem os2ip_append (high low : List UInt8) :
    os2ip (high ++ low) = os2ip low + 256 ^ low.length * os2ip high := by
  rw [os2ip, List.reverse_append, List.map_append, Nat.ofDigits_append, List.length_map,
    List.length_reverse, os2ip, os2ip]

theorem os2ip_singleton (b : UInt8) : os2ip [b] = b.toNat := Nat.ofDigits_singleton

theorem os2ip_zeros_append (k : Nat) (octets : List UInt8) :
    os2ip (List.replicate k 0 ++ octets) = os2ip octets := by
  have hzeros : os2ip (List.replicate k 0) = 0 := by
    rw [os2ip, List.reverse_replicate, List.map_replicate]
    exact Nat.ofDigits_replicate_zero
  rw [os2ip_append, hzeros, Nat.mul_zero, Nat.add_zero]

theorem os2ip_i2osp (n len : Nat) : os2ip (i2osp n len) = n % 256 ^ len := by
  induction len with
  | zero => rw [Nat.pow_zero, Nat.mod_one]; rfl
  | succ len ih =>
    have hhead : i2osp n (len + 1) = [UInt8.ofNat (n / 256 ^ len)] ++ i2osp n len := by
      simp [i2osp, List.range_succ]
    rw [hhead, os2ip_append, ih, length_i2osp, os2ip_singleton, UInt8.toNat_ofNat']
    exact Nat.mod_pow_succ.symm

/-- The octets of a string are those of its number. -/
theorem eq_i2osp {octets : List UInt8} {n : Nat} (h : os2ip octets = n) :
    octets = i2osp n octets.length := by
  have hdigit : ∀ octets : List UInt8, ∀ d ∈ octets.reverse.map UInt8.toNat, d < 256 := by
    intro octets d hd
    obtain ⟨b, -, rfl⟩ := List.mem_map.mp hd
    exact b.toNat_lt
  have hlt : os2ip octets < 256 ^ octets.length := by
    have hbound := Nat.ofDigits_lt_base_pow_length (by decide) (hdigit octets)
    rwa [List.length_map, List.length_reverse] at hbound
  have hsame : os2ip octets = os2ip (i2osp n octets.length) := by
    rw [os2ip_i2osp, ← h, Nat.mod_eq_of_lt hlt]
  have hdigits := Nat.ofDigits_inj_of_len_eq (by decide) (by simp) (hdigit octets)
    (hdigit (i2osp n octets.length)) hsame
  exact List.reverse_injective (List.map_injective_iff.mpr (fun _ _ => UInt8.toNat_inj.mp) hdigits)

theorem length_le_of_os2ip_lt {octets : List UInt8} {len : Nat} (hhead : octets.head? ≠ some 0)
    (h : os2ip octets < 256 ^ len) : octets.length ≤ len := by
  cases octets with
  | nil => exact Nat.zero_le _
  | cons b rest =>
    have hb : 1 ≤ b.toNat := by
      rw [Nat.one_le_iff_ne_zero]
      intro hzero
      exact hhead (congrArg some (UInt8.toNat_inj.mp hzero))
    have hhigh : 256 ^ rest.length ≤ os2ip (b :: rest) :=
      calc 256 ^ rest.length ≤ 256 ^ rest.length * b.toNat := Nat.le_mul_of_pos_right _ hb
        _ ≤ os2ip rest + 256 ^ rest.length * b.toNat := Nat.le_add_left _ _
        _ = os2ip ([b] ++ rest) := by rw [os2ip_append, os2ip_singleton]
    exact (Nat.pow_lt_pow_iff_right (by decide)).mp (hhigh.trans_lt h)

/-! ## `expand_message_xmd` -/

/-- A hash function with its lengths in octets, of its output and of its input blocks. -/
structure Hash where
  hash : List UInt8 → List UInt8
  bInBytes : Nat
  sInBytes : Nat
  bInBytes_pos : 0 < bInBytes
  length_hash : ∀ m, (hash m).length = bInBytes

namespace Xmd

variable (H : Hash)

/-- `DST_prime` -/
def dstPrime (dst : List UInt8) : List UInt8 := dst ++ i2osp dst.length 1

def strxor (xs ys : List UInt8) : List UInt8 := List.zipWith (· ^^^ ·) xs ys

def b0 (msg dst : List UInt8) (len : Nat) : List UInt8 :=
  H.hash (List.replicate H.sInBytes 0 ++ msg ++ i2osp len 2 ++ i2osp 0 1 ++ dstPrime dst)

/-- `b_i` -/
def block (msg dst : List UInt8) (len : Nat) : Nat → List UInt8
  | 0 => b0 H msg dst len
  | 1 => H.hash (b0 H msg dst len ++ i2osp 1 1 ++ dstPrime dst)
  | i + 2 =>
    H.hash (strxor (b0 H msg dst len) (block msg dst len (i + 1)) ++ i2osp (i + 2) 1 ++
      dstPrime dst)

/-- How many blocks it takes. -/
def ell (len : Nat) : Nat := (len + H.bInBytes - 1) / H.bInBytes

/-- The expansion; `none` is the standard's `ABORT`. -/
def expandMessage (msg dst : List UInt8) (len : Nat) : Option (List UInt8) :=
  if 255 < ell H len ∨ 65535 < len ∨ 255 < dst.length then none
  else some (((List.range (ell H len)).flatMap fun i => block H msg dst len (i + 1)).take len)

variable {H} {msg dst : List UInt8} {len : Nat}

theorem length_block (i : Nat) : (block H msg dst len i).length = H.bInBytes := by
  cases i with
  | zero => exact H.length_hash _
  | succ i => cases i <;> exact H.length_hash _

theorem length_expandMessage {uniform : List UInt8}
    (h : expandMessage H msg dst len = some uniform) : uniform.length = len := by
  unfold expandMessage at h
  split at h
  · cases h
  cases h
  have hblocks : ((List.range (ell H len)).flatMap fun i => block H msg dst len (i + 1)).length =
      ell H len * H.bInBytes := by
    rw [List.length_flatMap]
    simp only [length_block, List.map_const', List.sum_replicate, List.length_range]
    rfl
  have henough : len ≤ ell H len * H.bInBytes := by
    have hpos := H.bInBytes_pos
    have hdiv := Nat.div_add_mod (len + H.bInBytes - 1) H.bInBytes
    have hmod := Nat.mod_lt (len + H.bInBytes - 1) hpos
    rw [Nat.mul_comm] at hdiv
    unfold ell
    omega
  rw [List.length_take, hblocks, Nat.min_eq_left henough]

end Xmd

end Lib
