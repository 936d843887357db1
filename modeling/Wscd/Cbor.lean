import Wscd.Error
import Mathlib.Algebra.Order.Ring.Int

/-!
# CBOR

`Cbor` is a decoded CBOR value (`ciborium::Value`), with a map as its entries in wire
order, repetitions included. The codec itself is third-party code and stays a parameter:
`fromReader` reads one value off the front of a byte string and leaves the rest.
-/

namespace Wscd

/-- `str::as_bytes` -/
def utf8 (s : String) : List UInt8 := s.toUTF8.data.toList

/-- `str::from_utf8(bytes).ok()` -/
def fromUtf8 (bytes : List UInt8) : Option String := String.fromUTF8? ⟨bytes.toArray⟩

theorem fromUtf8_utf8 (s : String) : fromUtf8 (utf8 s) = some s := by
  unfold fromUtf8 utf8
  rw [Array.toArray_toList]
  show String.fromUTF8? s.toByteArray = some s
  rw [String.fromUTF8?, dif_pos s.isValidUTF8]
  rfl

theorem utf8_of_fromUtf8 {bytes : List UInt8} {s : String} (h : fromUtf8 bytes = some s) :
    utf8 s = bytes := by
  unfold fromUtf8 String.fromUTF8? at h
  split at h
  · cases h
    rfl
  · cases h

theorem zero_mem_utf8EncodeChar (c : Char) :
    0 ∈ String.utf8EncodeChar c ↔ c = Char.ofNat 0 := by
  have hc : c = Char.ofNat 0 ↔ c.toNat = 0 := by
    constructor
    · rintro rfl
      rfl
    · intro h
      exact Char.toNat_inj.mp h
  rw [hc]
  have hzero (n : Nat) : (0 : UInt8) = UInt8.ofNat n ↔ n % 256 = 0 := by
    rw [← UInt8.toNat_inj, UInt8.toNat_ofNat']
    exact eq_comm
  have hval : c.val.toNat = c.toNat := rfl
  unfold String.utf8EncodeChar
  rw [hval]
  dsimp only
  split
  · simp only [List.mem_singleton, hzero]
    omega
  split
  · simp only [List.mem_cons, List.not_mem_nil, or_false, hzero]
    omega
  split
  · simp only [List.mem_cons, List.not_mem_nil, or_false, hzero]
    omega
  · simp only [List.mem_cons, List.not_mem_nil, or_false, hzero]
    omega

/-- NUL is the one character with a zero octet in it. -/
theorem zero_mem_utf8 (s : String) : 0 ∈ utf8 s ↔ Char.ofNat 0 ∈ s.toList := by
  have hutf8 : utf8 s = s.toList.flatMap String.utf8EncodeChar := by
    show s.toByteArray.data.toList = _
    rw [← String.utf8Encode_toList]
    simp [List.utf8Encode]
  rw [hutf8, List.mem_flatMap]
  simp [zero_mem_utf8EncodeChar]

inductive Cbor where
  | integer (n : Int)
  | bytes (b : List UInt8)
  | float (bits : UInt64)
  | text (s : String)
  | bool (b : Bool)
  | null
  | tag (n : Nat) (v : Cbor)
  | array (vs : List Cbor)
  | map (entries : List (Cbor × Cbor))
  deriving Repr

namespace Cbor

/-- The value is nested no more than `depth` deep, its numbers have 64 bits and a sign, and no tag
says that octets are a number. -/
def FitsWithin : Nat → Cbor → Prop
  | _, .integer n => -(2 ^ 64) ≤ n ∧ n < 2 ^ 64
  | depth + 1, .tag n v => n < 2 ^ 64 ∧ n ≠ 2 ∧ n ≠ 3 ∧ FitsWithin depth v
  | depth + 1, .array vs => ∀ v ∈ vs, FitsWithin depth v
  | depth + 1, .map entries => ∀ e ∈ entries, FitsWithin depth e.1 ∧ FitsWithin depth e.2
  | 0, .tag _ _ | 0, .array _ | 0, .map _ => False
  | _, .bytes _ | _, .float _ | _, .text _ | _, .bool _ | _, .null => True

/-- A value that `ciborium` writes and takes back: its reader recurses 256 deep. -/
def Writable (v : Cbor) : Prop := FitsWithin 256 v

section FitsWithin

variable (depth : Nat)

@[simp] theorem fitsWithin_integer (n : Int) :
    FitsWithin depth (.integer n) ↔ -(2 ^ 64) ≤ n ∧ n < 2 ^ 64 := by
  cases depth <;> rfl

@[simp] theorem fitsWithin_bytes (b : List UInt8) : FitsWithin depth (.bytes b) := by
  cases depth <;> trivial

@[simp] theorem fitsWithin_text (s : String) : FitsWithin depth (.text s) := by
  cases depth <;> trivial

@[simp] theorem fitsWithin_bool (b : Bool) : FitsWithin depth (.bool b) := by
  cases depth <;> trivial

@[simp] theorem fitsWithin_null : FitsWithin depth .null := by
  cases depth <;> trivial

@[simp] theorem fitsWithin_array (vs : List Cbor) :
    FitsWithin (depth + 1) (.array vs) ↔ ∀ v ∈ vs, FitsWithin depth v := Iff.rfl

@[simp] theorem fitsWithin_map (entries : List (Cbor × Cbor)) :
    FitsWithin (depth + 1) (.map entries) ↔
      ∀ e ∈ entries, FitsWithin depth e.1 ∧ FitsWithin depth e.2 := Iff.rfl

end FitsWithin

end Cbor

/-- `ciborium::de::from_reader` and `ciborium::ser::into_writer`. -/
structure CborCodec where
  fromReader : List UInt8 → Except String (Cbor × List UInt8)
  intoWriter : Cbor → List UInt8

/-- The value at the front of a byte string; bytes after it are ignored. -/
def CborCodec.read (codec : CborCodec) (bytes : List UInt8) : Except String Cbor :=
  (codec.fromReader bytes).map Prod.fst

/-- What is left after a value is the end of the input. -/
def CborCodec.ReadsPrefix (codec : CborCodec) : Prop :=
  ∀ bytes v rest, codec.fromReader bytes = .ok (v, rest) → rest <:+ bytes

structure CborCodec.Lawful (codec : CborCodec) : Prop where
  /-- What is written is read back, whatever follows it. -/
  read_back : ∀ v rest, v.Writable →
    codec.fromReader (codec.intoWriter v ++ rest) = .ok (v, rest)
  /-- Nothing is no value. -/
  eof : ∃ e, codec.fromReader [] = .error e

theorem CborCodec.Lawful.read_append {codec : CborCodec} (h : codec.Lawful) {v : Cbor}
    (hv : v.Writable) (rest : List UInt8) : codec.read (codec.intoWriter v ++ rest) = .ok v := by
  rw [CborCodec.read, h.read_back v rest hv]
  rfl

theorem CborCodec.Lawful.read_intoWriter {codec : CborCodec} (h : codec.Lawful) {v : Cbor}
    (hv : v.Writable) : codec.read (codec.intoWriter v) = .ok v := by
  have hread := h.read_append hv []
  rwa [List.append_nil] at hread

/-- No value is written as nothing. -/
theorem CborCodec.Lawful.intoWriter_ne_nil {codec : CborCodec} (h : codec.Lawful) {v : Cbor}
    (hv : v.Writable) : codec.intoWriter v ≠ [] := by
  intro hnil
  obtain ⟨e, heof⟩ := h.eof
  have hread := h.read_back v [] hv
  rw [hnil, List.append_nil, heof] at hread
  cases hread

namespace Cbor

def asInteger : Cbor → Option Int
  | .integer n => some n
  | _ => none

def asBytes : Cbor → Option (List UInt8)
  | .bytes b => some b
  | _ => none

def asText : Cbor → Option String
  | .text s => some s
  | _ => none

def asBool : Cbor → Option Bool
  | .bool b => some b
  | _ => none

def asArray : Cbor → Option (List Cbor)
  | .array vs => some vs
  | _ => none

def asMap : Cbor → Option (List (Cbor × Cbor))
  | .map entries => some entries
  | _ => none

theorem asText_eq_some_iff {v : Cbor} {s : String} : v.asText = some s ↔ v = .text s := by
  cases v <;> simp [asText]

theorem asBool_eq_some_iff {v : Cbor} {b : Bool} : v.asBool = some b ↔ v = .bool b := by
  cases v <;> simp [asBool]

theorem asBytes_eq_some_iff {v : Cbor} {b : List UInt8} : v.asBytes = some b ↔ v = .bytes b := by
  cases v <;> simp [asBytes]

theorem asArray_eq_some_iff {v : Cbor} {vs : List Cbor} : v.asArray = some vs ↔ v = .array vs := by
  cases v <;> simp [asArray]

theorem asMap_eq_some_iff {v : Cbor} {entries : List (Cbor × Cbor)} :
    v.asMap = some entries ↔ v = .map entries := by
  cases v <;> simp [asMap]

/-- `i64::try_from(i).ok()` -/
def toI64 (n : Int) : Option Int :=
  if -(2 ^ 63) ≤ n ∧ n < 2 ^ 63 then some n else none

/-- The number is one of an `i64`. -/
def IsI64 (n : Int) : Prop := -(2 ^ 63) ≤ n ∧ n < 2 ^ 63

instance (n : Int) : Decidable (IsI64 n) := inferInstanceAs (Decidable (_ ∧ _))

theorem IsI64.toI64_eq {n : Int} (h : IsI64 n) : toI64 n = some n := if_pos h

theorem IsI64.fitsWithin {n : Int} (h : IsI64 n) (depth : Nat) :
    FitsWithin depth (.integer n) := by
  obtain ⟨hlow, hhigh⟩ := h
  rw [fitsWithin_integer]
  omega

/-- `u32::try_from(i).ok()` -/
def toU32 (n : Int) : Option Nat := if 0 ≤ n ∧ n < 2 ^ 32 then some n.toNat else none

/-- `u16::try_from(i).ok()` -/
def toU16 (n : Int) : Option Nat := if 0 ≤ n ∧ n < 2 ^ 16 then some n.toNat else none

/-- The value of the first entry under an integer key. -/
def getValueByInt (entries : List (Cbor × Cbor)) (key : Int) : Option Cbor :=
  (entries.find? fun e => e.1.asInteger = some key).map Prod.snd

/-- The bytes of the first entry under an integer key; none when that entry is no byte
string, also when a later one is. -/
def getBytesByInt (entries : List (Cbor × Cbor)) (key : Int) : Option (List UInt8) :=
  (getValueByInt entries key).bind asBytes

/-- The value of the first entry under a text key. -/
def getValueByText (entries : List (Cbor × Cbor)) (key : String) : Option Cbor :=
  (entries.find? fun e => e.1.asText = some key).map Prod.snd

/-- The first byte string under an integer key, other entries under it skipped: the lookup
of the COSE key decoders. -/
def findBytesByInt (entries : List (Cbor × Cbor)) (key : Int) : Option (List UInt8) :=
  entries.findSome? fun e => if e.1.asInteger = some key then e.2.asBytes else none

/-! ## Lookups in a map that is written out -/

variable {rest : List (Cbor × Cbor)}

@[simp] theorem getValueByInt_nil (key : Int) : getValueByInt [] key = none := rfl

@[simp] theorem getValueByInt_integer (n key : Int) (v : Cbor) :
    getValueByInt ((.integer n, v) :: rest) key =
      if n = key then some v else getValueByInt rest key := by
  by_cases h : n = key <;> simp [getValueByInt, asInteger, h]

theorem getValueByInt_append (entries : List (Cbor × Cbor)) (key : Int) :
    getValueByInt (entries ++ rest) key =
      (getValueByInt entries key).or (getValueByInt rest key) := by
  unfold getValueByInt
  rw [List.find?_append]
  cases entries.find? fun e => e.1.asInteger = some key <;> rfl

@[simp] theorem getValueByText_nil (key : String) : getValueByText [] key = none := rfl

@[simp] theorem getValueByText_text (s key : String) (v : Cbor) :
    getValueByText ((.text s, v) :: rest) key =
      if s = key then some v else getValueByText rest key := by
  by_cases h : s = key <;> simp [getValueByText, asText, h]

/-- The first entry of a map under the key `k` has the value `v`. -/
def FirstUnder (k v : Cbor) (entries : List (Cbor × Cbor)) : Prop :=
  ∃ before after, entries = before ++ (k, v) :: after ∧ ∀ e ∈ before, e.1 ≠ k

/-- A lookup by a reader that sees the key `k` alone. -/
theorem find?_eq_some_iff_firstUnder {p : Cbor × Cbor → Bool} {k : Cbor}
    (hp : ∀ e, p e = true ↔ e.1 = k) (entries : List (Cbor × Cbor)) (v : Cbor) :
    (entries.find? p).map Prod.snd = some v ↔ FirstUnder k v entries := by
  rw [Option.map_eq_some_iff]
  simp only [List.find?_eq_some_iff_append, hp, FirstUnder]
  constructor
  · rintro ⟨⟨k', v'⟩, ⟨rfl, before, after, rfl, hbefore⟩, rfl⟩
    exact ⟨before, after, rfl, fun e he heq => by simpa [(hp e).mpr heq] using hbefore e he⟩
  · rintro ⟨before, after, rfl, hbefore⟩
    refine ⟨(k, v), ⟨rfl, before, after, rfl, fun e he => ?_⟩, rfl⟩
    rw [Bool.not_eq_true', ← Bool.not_eq_true, hp]
    exact hbefore e he

theorem getValueByInt_eq_some_iff (entries : List (Cbor × Cbor)) (key : Int) (v : Cbor) :
    getValueByInt entries key = some v ↔ FirstUnder (.integer key) v entries :=
  find?_eq_some_iff_firstUnder (fun e => by cases h : e.1 <;> simp [asInteger]) entries v

theorem findBytesByInt_eq_some_iff (entries : List (Cbor × Cbor)) (key : Int) (b : List UInt8) :
    findBytesByInt entries key = some b ↔ ∃ before after,
      entries = before ++ (.integer key, .bytes b) :: after ∧
        ∀ b', (.integer key, .bytes b') ∉ before := by
  have hread (e : Cbor × Cbor) (b : List UInt8) :
      (if e.1.asInteger = some key then e.2.asBytes else none) = some b ↔
        e = (.integer key, .bytes b) := by
    rcases e with ⟨k, v⟩
    cases k <;> cases v <;> simp [asInteger, asBytes]
  have hnone (e : Cbor × Cbor) : (if e.1.asInteger = some key then e.2.asBytes else none) = none ↔
      ∀ b', e ≠ (.integer key, .bytes b') := by
    rw [Option.eq_none_iff_forall_ne_some]
    simp only [ne_eq, hread]
  unfold findBytesByInt
  rw [List.findSome?_eq_some_iff]
  simp only [hread, hnone]
  constructor
  · rintro ⟨before, e, after, rfl, rfl, hbefore⟩
    exact ⟨before, after, rfl, fun b' hb' => hbefore _ hb' b' rfl⟩
  · rintro ⟨before, after, rfl, hbefore⟩
    refine ⟨before, _, after, rfl, rfl, fun e he b' => ?_⟩
    rintro rfl
    exact hbefore b' he

theorem getValueByText_eq_some_iff (entries : List (Cbor × Cbor)) (key : String) (v : Cbor) :
    getValueByText entries key = some v ↔ FirstUnder (.text key) v entries :=
  find?_eq_some_iff_firstUnder (fun e => by simp [asText_eq_some_iff]) entries v

end Cbor

end Wscd
