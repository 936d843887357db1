import Mathlib.Data.BitVec

/-!
# SHA-256, HMAC and HKDF

The hash on octets, and what is built from it, written to be evaluated: a window of sixteen
words moves along the message schedule while the round constants are walked.
-/

namespace Lib

namespace Sha256

abbrev Word : Type := BitVec 32

structure State where
  (a b c d e f g h : Word)

def initial : State :=
  ⟨0x6a09e667, 0xbb67ae85, 0x3c6ef372, 0xa54ff53a, 0x510e527f, 0x9b05688c, 0x1f83d9ab, 0x5be0cd19⟩

def roundConstants : List Word :=
  [0x428a2f98, 0x71374491, 0xb5c0fbcf, 0xe9b5dba5, 0x3956c25b, 0x59f111f1, 0x923f82a4, 0xab1c5ed5,
    0xd807aa98, 0x12835b01, 0x243185be, 0x550c7dc3, 0x72be5d74, 0x80deb1fe, 0x9bdc06a7, 0xc19bf174,
    0xe49b69c1, 0xefbe4786, 0x0fc19dc6, 0x240ca1cc, 0x2de92c6f, 0x4a7484aa, 0x5cb0a9dc, 0x76f988da,
    0x983e5152, 0xa831c66d, 0xb00327c8, 0xbf597fc7, 0xc6e00bf3, 0xd5a79147, 0x06ca6351, 0x14292967,
    0x27b70a85, 0x2e1b2138, 0x4d2c6dfc, 0x53380d13, 0x650a7354, 0x766a0abb, 0x81c2c92e, 0x92722c85,
    0xa2bfe8a1, 0xa81a664b, 0xc24b8b70, 0xc76c51a3, 0xd192e819, 0xd6990624, 0xf40e3585, 0x106aa070,
    0x19a4c116, 0x1e376c08, 0x2748774c, 0x34b0bcb5, 0x391c0cb3, 0x4ed8aa4a, 0x5b9cca4f, 0x682e6ff3,
    0x748f82ee, 0x78a5636f, 0x84c87814, 0x8cc70208, 0x90befffa, 0xa4506ceb, 0xbef9a3f7, 0xc67178f2]

def ch (x y z : Word) : Word := (x &&& y) ^^^ (~~~x &&& z)

def maj (x y z : Word) : Word := (x &&& y) ^^^ (x &&& z) ^^^ (y &&& z)

def bigSigma0 (x : Word) : Word := x.rotateRight 2 ^^^ x.rotateRight 13 ^^^ x.rotateRight 22

def bigSigma1 (x : Word) : Word := x.rotateRight 6 ^^^ x.rotateRight 11 ^^^ x.rotateRight 25

def smallSigma0 (x : Word) : Word := x.rotateRight 7 ^^^ x.rotateRight 18 ^^^ x >>> 3

def smallSigma1 (x : Word) : Word := x.rotateRight 17 ^^^ x.rotateRight 19 ^^^ x >>> 10

/-- Sixteen words in a row of the message schedule. -/
structure Window where
  (w0 w1 w2 w3 w4 w5 w6 w7 w8 w9 w10 w11 w12 w13 w14 w15 : Word)

def Window.next (w : Window) : Window :=
  ⟨w.w1, w.w2, w.w3, w.w4, w.w5, w.w6, w.w7, w.w8, w.w9, w.w10, w.w11, w.w12, w.w13, w.w14, w.w15,
    smallSigma1 w.w14 + w.w9 + smallSigma0 w.w1 + w.w0⟩

def round (constant word : Word) (s : State) : State :=
  let t1 := s.h + bigSigma1 s.e + ch s.e s.f s.g + constant + word
  let t2 := bigSigma0 s.a + maj s.a s.b s.c
  ⟨t1 + t2, s.a, s.b, s.c, s.d + t1, s.e, s.f, s.g⟩

def rounds : List Word → Window → State → State
  | [], _, s => s
  | constant :: constants, window, s =>
    rounds constants window.next (round constant window.w0 s)

def State.add (s t : State) : State :=
  ⟨s.a + t.a, s.b + t.b, s.c + t.c, s.d + t.d, s.e + t.e, s.f + t.f, s.g + t.g, s.h + t.h⟩

def compress (s : State) (block : Window) : State :=
  s.add (rounds roundConstants block s)

def compressAll : List Word → State → State
  | a :: b :: c :: d :: e :: f :: g :: h :: i :: j :: k :: l :: m :: n :: o :: p :: rest, s =>
    compressAll rest (compress s ⟨a, b, c, d, e, f, g, h, i, j, k, l, m, n, o, p⟩)
  | _, s => s

def wordsOf : List UInt8 → List Word
  | a :: b :: c :: d :: rest =>
    (a.toBitVec ++ b.toBitVec ++ c.toBitVec ++ d.toBitVec : BitVec 32) :: wordsOf rest
  | _ => []

/-- The octets of a word, the highest first. -/
def octetsOf (w : Word) : List UInt8 :=
  [⟨w.extractLsb' 24 8⟩, ⟨w.extractLsb' 16 8⟩, ⟨w.extractLsb' 8 8⟩, ⟨w.extractLsb' 0 8⟩]

/-- The message, a one bit, zeros, and the length in bits as sixty-four. -/
def padded (message : List UInt8) : List Word :=
  wordsOf (message ++ 0x80 :: List.replicate ((119 - message.length % 64) % 64) 0) ++
    [BitVec.ofNat 32 (8 * message.length / 2 ^ 32), BitVec.ofNat 32 (8 * message.length)]

def State.octets (s : State) : List UInt8 :=
  [s.a, s.b, s.c, s.d, s.e, s.f, s.g, s.h].flatMap octetsOf

end Sha256

/-- SHA-256 -/
def sha256 (message : List UInt8) : List UInt8 :=
  (Sha256.compressAll (Sha256.padded message) Sha256.initial).octets

theorem length_sha256 (message : List UInt8) : (sha256 message).length = 32 := rfl

-- the digest of "abc"
example : sha256 [0x61, 0x62, 0x63] =
    [0xba, 0x78, 0x16, 0xbf, 0x8f, 0x01, 0xcf, 0xea, 0x41, 0x41, 0x40, 0xde, 0x5d, 0xae, 0x22,
      0x23, 0xb0, 0x03, 0x61, 0xa3, 0x96, 0x17, 0x7a, 0x9c, 0xb4, 0x10, 0xff, 0x61, 0xf2, 0x00,
      0x15, 0xad] := by decide +kernel

/-! ## HMAC and HKDF -/

/-- A key of one block. -/
def hmacKey (key : List UInt8) : List UInt8 :=
  let key := if 64 < key.length then sha256 key else key
  key ++ List.replicate (64 - key.length) 0

/-- HMAC with SHA-256. -/
def hmacSha256 (key message : List UInt8) : List UInt8 :=
  let inner := sha256 ((hmacKey key).map (· ^^^ 0x36) ++ message)
  sha256 ((hmacKey key).map (· ^^^ 0x5c) ++ inner)

theorem length_hmacSha256 (key message : List UInt8) : (hmacSha256 key message).length = 32 := rfl

/-- The next `n` blocks of HKDF, after the block `previous`. -/
def hkdfBlocks (prk info : List UInt8) : Nat → List UInt8 → UInt8 → List UInt8
  | 0, _, _ => []
  | n + 1, previous, counter =>
    let block := hmacSha256 prk (previous ++ info ++ [counter])
    block ++ hkdfBlocks prk info n block (counter + 1)

theorem length_hkdfBlocks (prk info : List UInt8) (n : Nat) (previous : List UInt8)
    (counter : UInt8) : (hkdfBlocks prk info n previous counter).length = 32 * n := by
  induction n generalizing previous counter with
  | zero => rfl
  | succ n ih =>
    rw [hkdfBlocks, List.length_append, length_hmacSha256, ih]
    omega

/-- HKDF of RFC 5869 with SHA-256, extraction and expansion. -/
def hkdfSha256 (salt ikm info : List UInt8) (length : Nat) : Except String (List UInt8) :=
  if length ≤ 255 * 32 then
    .ok ((hkdfBlocks (hmacSha256 salt ikm) info ((length + 31) / 32) [] 1).take length)
  else .error "invalid number of blocks, too large output"

theorem hkdfSha256_ok (salt ikm info : List UInt8) {length : Nat} (h : length ≤ 255 * 32) :
    ∃ okm, hkdfSha256 salt ikm info length = .ok okm ∧ okm.length = length := by
  refine ⟨_, if_pos h, ?_⟩
  rw [List.length_take, length_hkdfBlocks]
  omega

-- the first test case of RFC 5869
example : hkdfSha256 [0, 1, 2, 3, 4, 5, 6, 7, 8, 9, 10, 11, 12] (List.replicate 22 0x0b)
    [0xf0, 0xf1, 0xf2, 0xf3, 0xf4, 0xf5, 0xf6, 0xf7, 0xf8, 0xf9] 42 =
    .ok [0x3c, 0xb2, 0x5f, 0x25, 0xfa, 0xac, 0xd5, 0x7a, 0x90, 0x43, 0x4f, 0x64, 0xd0, 0x36, 0x2f,
      0x2a, 0x2d, 0x2d, 0x0a, 0x90, 0xcf, 0x1a, 0x5a, 0x4c, 0x5d, 0xb0, 0x2d, 0x56, 0xec, 0xc4,
      0xc5, 0xbf, 0x34, 0x00, 0x72, 0x08, 0xd5, 0xb8, 0x87, 0x18, 0x58, 0x65] := by
  decide +kernel

end Lib
