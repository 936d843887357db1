import Wscd.Cbor

/-!
# CBOR as bytes

A codec that reads back what it writes, for the results that need one: headers with the
argument in the fewest octets, then the content. An argument beyond 64 bits, which no value
of a real encoder has, goes under an information value CBOR leaves unassigned.

Results:
1. `decodeHead_head`, `decodeItem_encode`: a header, then a value, read back off the front of
   any byte string.
2. `decodeItem_suffix`: what is left is the end of the input.
3. `cborWire_lawful`, `cborWire_readsPrefix`: the codec is lawful.
-/

namespace Wscd

/-! ## Big-endian numbers -/

/-- The lowest `len` octets of `n`, most significant first. -/
def beBytes : Nat → Nat → List UInt8
  | 0, _ => []
  | len + 1, n => beBytes len (n / 256) ++ [UInt8.ofNat n]

def beNat (bytes : List UInt8) : Nat := bytes.foldl (fun n b => 256 * n + b.toNat) 0

theorem length_beBytes (len n : Nat) : (beBytes len n).length = len := by
  induction len generalizing n with
  | zero => rfl
  | succ len ih => rw [beBytes, List.length_append, ih, List.length_singleton]

theorem beNat_beBytes {len n : Nat} (h : n < 256 ^ len) : beNat (beBytes len n) = n := by
  induction len generalizing n with
  | zero =>
    obtain rfl : n = 0 := by omega
    rfl
  | succ len ih =>
    have hdiv : n / 256 < 256 ^ len := by
      rw [Nat.pow_succ] at h
      omega
    have hhigh : (beBytes len (n / 256)).foldl (fun n b => 256 * n + b.toNat) 0 = n / 256 :=
      ih hdiv
    rw [beNat, beBytes, List.foldl_append, hhigh]
    simp only [List.foldl_cons, List.foldl_nil, UInt8.toNat_ofNat']
    omega

namespace Cbor

/-! ## Headers -/

/-- Octets of an argument, for the information values that say so. -/
def argumentLen (info : Nat) : Nat :=
  if info = 24 then 1 else if info = 25 then 2 else if info = 26 then 4 else 8

def head (major n : Nat) : List UInt8 :=
  let tagged (info : Nat) : UInt8 := UInt8.ofNat (32 * major + info)
  if n < 24 then [tagged n]
  else if n < 256 ^ 1 then tagged 24 :: beBytes 1 n
  else if n < 256 ^ 2 then tagged 25 :: beBytes 2 n
  else if n < 256 ^ 4 then tagged 26 :: beBytes 4 n
  else if n < 256 ^ 8 then tagged 27 :: beBytes 8 n
  else tagged 28 :: (List.replicate n 1 ++ [0])

/-- A number in unary. -/
def decodeUnary : List UInt8 → Option (Nat × List UInt8)
  | [] => none
  | b :: rest =>
    if b = 0 then some (0, rest) else (decodeUnary rest).map fun (n, rest) => (n + 1, rest)

/-- The major type and the argument of a header. -/
def decodeHead (b : UInt8) (rest : List UInt8) : Option (Nat × Nat × List UInt8) :=
  let major := b.toNat / 32
  let info := b.toNat % 32
  if info < 24 then some (major, info, rest)
  else if info < 28 then
    if rest.length < argumentLen info then none
    else some (major, beNat (rest.take (argumentLen info)), rest.drop (argumentLen info))
  else if info = 28 then (decodeUnary rest).map fun (n, rest) => (major, n, rest)
  else none

theorem decodeUnary_replicate (n : Nat) (rest : List UInt8) :
    decodeUnary (List.replicate n 1 ++ 0 :: rest) = some (n, rest) := by
  induction n with
  | zero => rfl
  | succ n ih =>
    rw [List.replicate_succ, List.cons_append, decodeUnary, if_neg (by decide), ih]
    rfl

theorem toNat_tagged {major info : Nat} (hmajor : major < 8) (hinfo : info < 32) :
    (UInt8.ofNat (32 * major + info)).toNat / 32 = major ∧
      (UInt8.ofNat (32 * major + info)).toNat % 32 = info := by
  rw [UInt8.toNat_ofNat']
  omega

theorem decodeHead_argument {major n info : Nat} (hmajor : major < 8) (hlow : 24 ≤ info)
    (hhigh : info < 28) (hn : n < 256 ^ argumentLen info) (rest : List UInt8) :
    decodeHead (UInt8.ofNat (32 * major + info)) (beBytes (argumentLen info) n ++ rest) =
      some (major, n, rest) := by
  obtain ⟨hm, hi⟩ := toNat_tagged hmajor (show info < 32 by omega)
  unfold decodeHead
  have hlength := length_beBytes (argumentLen info) n
  simp only [hm, hi]
  rw [if_neg (by omega), if_pos hhigh, if_neg (by rw [List.length_append, hlength]; omega),
    List.take_left' hlength, List.drop_left' hlength, beNat_beBytes hn]

/-- A header whose argument follows in octets of its own. -/
theorem decodeHead_tagged {major n info : Nat} (hmajor : major < 8) (hlow : 24 ≤ info)
    (hhigh : info < 28) (hn : n < 256 ^ argumentLen info) (rest : List UInt8) :
    ∃ b tail, UInt8.ofNat (32 * major + info) :: beBytes (argumentLen info) n ++ rest = b :: tail ∧
      b.toNat / 32 = major ∧ decodeHead b tail = some (major, n, rest) :=
  ⟨_, _, rfl, (toNat_tagged hmajor (by omega)).1, decodeHead_argument hmajor hlow hhigh hn rest⟩

/-- A header is read back, and its first octet says the major type. -/
theorem decodeHead_head {major : Nat} (hmajor : major < 8) (n : Nat) (rest : List UInt8) :
    ∃ b tail, head major n ++ rest = b :: tail ∧ b.toNat / 32 = major ∧
      decodeHead b tail = some (major, n, rest) := by
  unfold head
  dsimp only
  split
  · rename_i hn
    obtain ⟨hm, hi⟩ := toNat_tagged hmajor (show n < 32 by omega)
    refine ⟨_, rest, rfl, hm, ?_⟩
    simp only [decodeHead, hm, hi, if_pos hn]
  split
  · rename_i hn
    exact decodeHead_tagged hmajor (by decide) (by decide) hn rest
  split
  · rename_i hn
    exact decodeHead_tagged hmajor (by decide) (by decide) hn rest
  split
  · rename_i hn
    exact decodeHead_tagged hmajor (by decide) (by decide) hn rest
  split
  · rename_i hn
    exact decodeHead_tagged hmajor (by decide) (by decide) hn rest
  · obtain ⟨hm, hi⟩ := toNat_tagged hmajor (show 28 < 32 by decide)
    refine ⟨_, List.replicate n 1 ++ [0] ++ rest, rfl, hm, ?_⟩
    have hunary : decodeUnary (List.replicate n 1 ++ [0] ++ rest) = some (n, rest) := by
      rw [List.append_assoc]
      exact decodeUnary_replicate n rest
    simp only [decodeHead, hm, hi, hunary]
    rfl

theorem head_length_pos (major n : Nat) : 0 < (head major n).length := by
  unfold head
  dsimp only
  repeat' split
  all_goals exact Nat.succ_pos _

/-! ## Values -/

mutual

def encode : Cbor → List UInt8
  | .integer n => if 0 ≤ n then head 0 n.toNat else head 1 (-1 - n).toNat
  | .bytes b => head 2 b.length ++ b
  | .text s => head 3 (utf8 s).length ++ utf8 s
  | .array vs => head 4 vs.length ++ encodeAll vs
  | .map entries => head 5 entries.length ++ encodeEntries entries
  | .tag n v => head 6 n ++ encode v
  | .bool b => [if b then 0xf5 else 0xf4]
  | .null => [0xf6]
  | .float bits => 0xfb :: beBytes 8 bits.toNat

def encodeAll : List Cbor → List UInt8
  | [] => []
  | v :: vs => encode v ++ encodeAll vs

def encodeEntries : List (Cbor × Cbor) → List UInt8
  | [] => []
  | (k, v) :: entries => encode k ++ (encode v ++ encodeEntries entries)

end

/-- A value without content of its own. -/
def decodeSimple (b : UInt8) (rest : List UInt8) : Option (Cbor × List UInt8) :=
  if b = 0xf4 then some (.bool false, rest)
  else if b = 0xf5 then some (.bool true, rest)
  else if b = 0xf6 then some (.null, rest)
  else if b = 0xfb then
    if rest.length < 8 then none
    else some (.float (UInt64.ofNat (beNat (rest.take 8))), rest.drop 8)
  else none

/-- `n` octets off the front. -/
def splitOff (n : Nat) (rest : List UInt8) : Option (List UInt8 × List UInt8) :=
  if rest.length < n then none else some (rest.take n, rest.drop n)

/-- `n` values, one after another. -/
def decodeMany (item : List UInt8 → Option (Cbor × List UInt8)) :
    Nat → List UInt8 → Option (List Cbor × List UInt8)
  | 0, input => some ([], input)
  | n + 1, input => do
    let (v, input) ← item input
    let (vs, input) ← decodeMany item n input
    return (v :: vs, input)

/-- `n` entries, a key and a value each. -/
def decodeEntries (item : List UInt8 → Option (Cbor × List UInt8)) :
    Nat → List UInt8 → Option (List (Cbor × Cbor) × List UInt8)
  | 0, input => some ([], input)
  | n + 1, input => do
    let (k, input) ← item input
    let (v, input) ← item input
    let (entries, input) ← decodeEntries item n input
    return ((k, v) :: entries, input)

/-- The content after a header, values in it read by `item`. -/
def decodeContent (item : List UInt8 → Option (Cbor × List UInt8)) (major n : Nat)
    (rest : List UInt8) : Option (Cbor × List UInt8) :=
  match major with
  | 0 => some (.integer n, rest)
  | 1 => some (.integer (-1 - n), rest)
  | 2 => (splitOff n rest).map fun (b, rest) => (.bytes b, rest)
  | 3 => do
    let (b, rest) ← splitOff n rest
    let s ← fromUtf8 b
    return (.text s, rest)
  | 4 => (decodeMany item n rest).map fun (vs, rest) => (.array vs, rest)
  | 5 => (decodeEntries item n rest).map fun (entries, rest) => (.map entries, rest)
  | 6 => (item rest).map fun (v, rest) => (.tag n v, rest)
  | _ => none

/-- One value off the front; `fuel` bounds how deep it is nested. -/
def decodeItem : Nat → List UInt8 → Option (Cbor × List UInt8)
  | 0, _ => none
  | _ + 1, [] => none
  | fuel + 1, b :: rest =>
    if 7 ≤ b.toNat / 32 then decodeSimple b rest
    else
      match decodeHead b rest with
      | none => none
      | some (major, n, rest) => decodeContent (decodeItem fuel) major n rest

theorem splitOff_append (b rest : List UInt8) : splitOff b.length (b ++ rest) = some (b, rest) := by
  unfold splitOff
  rw [if_neg (by simp), List.take_left, List.drop_left]

/-- A header and what its content comes to. -/
theorem decodeItem_head {major : Nat} (hmajor : major < 7) (n fuel : Nat) (rest : List UInt8) :
    decodeItem (fuel + 1) (head major n ++ rest) =
      decodeContent (decodeItem fuel) major n rest := by
  obtain ⟨b, tail, happend, hb, hhead⟩ := decodeHead_head (show major < 8 by omega) n rest
  rw [happend, decodeItem, if_neg (by omega), hhead]

theorem encode_length_pos (v : Cbor) : 0 < (encode v).length := by
  have happend (major n : Nat) (rest : List UInt8) : 0 < (head major n ++ rest).length := by
    rw [List.length_append]
    exact Nat.add_pos_left (head_length_pos major n) _
  cases v with
  | integer n =>
    unfold encode
    split
    · exact head_length_pos _ _
    · exact head_length_pos _ _
  | bytes b => exact happend _ _ _
  | text s => exact happend _ _ _
  | array vs => exact happend _ _ _
  | map entries => exact happend _ _ _
  | tag n v => exact happend _ _ _
  | bool b => exact Nat.one_pos
  | null => exact Nat.one_pos
  | float bits => exact Nat.succ_pos _

/-- The content after a header is shorter than the value. -/
theorem length_content_le {major n fuel : Nat} {content : List UInt8}
    (h : (head major n ++ content).length ≤ fuel + 1) : content.length ≤ fuel := by
  have hhead := head_length_pos major n
  rw [List.length_append] at h
  omega

mutual

/-- A value is read back off the front, with fuel for its length. -/
theorem decodeItem_encode (v : Cbor) (fuel : Nat) (rest : List UInt8)
    (hfuel : (encode v).length ≤ fuel) :
    decodeItem fuel (encode v ++ rest) = some (v, rest) := by
  -- one unit of fuel for this item, the rest is enough for what it contains
  obtain ⟨fuel, rfl⟩ : ∃ f, fuel = f + 1 :=
    Nat.exists_eq_succ_of_ne_zero (by have := encode_length_pos v; omega)
  match v with
  | .integer n =>
    unfold encode
    split
    · rw [decodeItem_head (by decide)]
      simp only [decodeContent]
      congr 3
      omega
    · rw [decodeItem_head (by decide)]
      simp only [decodeContent]
      congr 3
      omega
  | .bytes b =>
    rw [encode, List.append_assoc, decodeItem_head (by decide), decodeContent, splitOff_append]
    rfl
  | .text s =>
    rw [encode, List.append_assoc, decodeItem_head (by decide)]
    simp only [decodeContent, splitOff_append, fromUtf8_utf8, Option.bind_eq_bind,
      Option.bind_some]
    rfl
  | .array vs =>
    rw [encode] at hfuel ⊢
    rw [List.append_assoc, decodeItem_head (by decide), decodeContent,
      decodeMany_encodeAll vs fuel rest (length_content_le hfuel)]
    rfl
  | .map entries =>
    rw [encode] at hfuel ⊢
    rw [List.append_assoc, decodeItem_head (by decide), decodeContent,
      decodeEntries_encodeEntries entries fuel rest (length_content_le hfuel)]
    rfl
  | .tag n v =>
    rw [encode] at hfuel ⊢
    rw [List.append_assoc, decodeItem_head (by decide), decodeContent,
      decodeItem_encode v fuel rest (length_content_le hfuel)]
    rfl
  | .bool true => rfl
  | .bool false => rfl
  | .null => rfl
  | .float bits =>
    have hlength := length_beBytes 8 bits.toNat
    have hbits : bits.toNat < 256 ^ 8 := bits.toNat_lt
    rw [encode, List.cons_append, decodeItem, if_pos (by decide), decodeSimple, if_neg (by decide),
      if_neg (by decide), if_neg (by decide), if_pos rfl,
      if_neg (by rw [List.length_append, hlength]; omega), List.take_left' hlength,
      List.drop_left' hlength, beNat_beBytes hbits, UInt64.ofNat_toNat]

theorem decodeMany_encodeAll (vs : List Cbor) (fuel : Nat) (rest : List UInt8)
    (hfuel : (encodeAll vs).length ≤ fuel) :
    decodeMany (decodeItem fuel) vs.length (encodeAll vs ++ rest) = some (vs, rest) := by
  match vs with
  | [] => rfl
  | v :: vs =>
    rw [encodeAll] at hfuel ⊢
    rw [List.length_append] at hfuel
    have hv := decodeItem_encode v fuel (encodeAll vs ++ rest) (by omega)
    have hvs := decodeMany_encodeAll vs fuel rest (by omega)
    rw [List.append_assoc, List.length_cons, decodeMany, hv]
    simp only [Option.bind_eq_bind, Option.bind_some, hvs]
    rfl

theorem decodeEntries_encodeEntries (entries : List (Cbor × Cbor)) (fuel : Nat)
    (rest : List UInt8) (hfuel : (encodeEntries entries).length ≤ fuel) :
    decodeEntries (decodeItem fuel) entries.length (encodeEntries entries ++ rest) =
      some (entries, rest) := by
  match entries with
  | [] => rfl
  | (k, v) :: entries =>
    rw [encodeEntries] at hfuel ⊢
    rw [List.length_append, List.length_append] at hfuel
    have hk := decodeItem_encode k fuel (encode v ++ (encodeEntries entries ++ rest)) (by omega)
    have hv := decodeItem_encode v fuel (encodeEntries entries ++ rest) (by omega)
    have hentries := decodeEntries_encodeEntries entries fuel rest (by omega)
    rw [List.append_assoc, List.append_assoc, List.length_cons, decodeEntries, hk]
    simp only [Option.bind_eq_bind, Option.bind_some, hv, hentries]
    rfl

end

/-! ## What is left -/

theorem decodeUnary_suffix {input rest : List UInt8} {n : Nat}
    (h : decodeUnary input = some (n, rest)) : rest <:+ input := by
  induction input generalizing n with
  | nil => cases h
  | cons b tail ih =>
    rw [decodeUnary] at h
    split at h
    · cases h
      exact List.suffix_cons b rest
    · obtain ⟨⟨m, rest'⟩, hm, heq⟩ := Option.map_eq_some_iff.mp h
      cases heq
      exact (ih hm).trans (List.suffix_cons b tail)

theorem decodeHead_suffix {b : UInt8} {input rest : List UInt8} {major n : Nat}
    (h : decodeHead b input = some (major, n, rest)) : rest <:+ input := by
  unfold decodeHead at h
  dsimp only at h
  split at h
  · cases h
    exact List.suffix_refl _
  split at h
  · split at h
    · cases h
    · cases h
      exact List.drop_suffix _ _
  split at h
  · obtain ⟨⟨m, rest'⟩, hm, heq⟩ := Option.map_eq_some_iff.mp h
    cases heq
    exact decodeUnary_suffix hm
  · cases h

theorem splitOff_suffix {n : Nat} {input b rest : List UInt8}
    (h : splitOff n input = some (b, rest)) : rest <:+ input := by
  unfold splitOff at h
  split at h
  · cases h
  · cases h
    exact List.drop_suffix _ _

theorem decodeSimple_suffix {b : UInt8} {input rest : List UInt8} {v : Cbor}
    (h : decodeSimple b input = some (v, rest)) : rest <:+ input := by
  unfold decodeSimple at h
  split at h
  · cases h
    exact List.suffix_refl _
  split at h
  · cases h
    exact List.suffix_refl _
  split at h
  · cases h
    exact List.suffix_refl _
  split at h
  · split at h
    · cases h
    · cases h
      exact List.drop_suffix _ _
  · cases h

section

variable {item : List UInt8 → Option (Cbor × List UInt8)}
  (hitem : ∀ input v rest, item input = some (v, rest) → rest <:+ input)

include hitem

theorem decodeMany_suffix {n : Nat} {input rest : List UInt8} {vs : List Cbor}
    (h : decodeMany item n input = some (vs, rest)) : rest <:+ input := by
  induction n generalizing input vs with
  | zero =>
    cases h
    exact List.suffix_refl _
  | succ n ih =>
    obtain ⟨⟨v, input₁⟩, hv, h₁⟩ := Option.bind_eq_some_iff.mp h
    obtain ⟨⟨vs', input₂⟩, hvs, h₂⟩ := Option.bind_eq_some_iff.mp h₁
    cases h₂
    exact (ih hvs).trans (hitem _ _ _ hv)

theorem decodeEntries_suffix {n : Nat} {input rest : List UInt8} {entries : List (Cbor × Cbor)}
    (h : decodeEntries item n input = some (entries, rest)) : rest <:+ input := by
  induction n generalizing input entries with
  | zero =>
    cases h
    exact List.suffix_refl _
  | succ n ih =>
    obtain ⟨⟨k, input₁⟩, hk, h₁⟩ := Option.bind_eq_some_iff.mp h
    obtain ⟨⟨v, input₂⟩, hv, h₂⟩ := Option.bind_eq_some_iff.mp h₁
    obtain ⟨⟨entries', input₃⟩, hentries, h₃⟩ := Option.bind_eq_some_iff.mp h₂
    cases h₃
    exact ((ih hentries).trans (hitem _ _ _ hv)).trans (hitem _ _ _ hk)

theorem decodeContent_suffix {major n : Nat} {input rest : List UInt8} {v : Cbor}
    (h : decodeContent item major n input = some (v, rest)) : rest <:+ input := by
  unfold decodeContent at h
  split at h
  · cases h
    exact List.suffix_refl _
  · cases h
    exact List.suffix_refl _
  · obtain ⟨⟨b, rest'⟩, hb, heq⟩ := Option.map_eq_some_iff.mp h
    cases heq
    exact splitOff_suffix hb
  · obtain ⟨⟨b, rest'⟩, hb, h₁⟩ := Option.bind_eq_some_iff.mp h
    obtain ⟨s, -, h₂⟩ := Option.bind_eq_some_iff.mp h₁
    cases h₂
    exact splitOff_suffix hb
  · obtain ⟨⟨vs, rest'⟩, hvs, heq⟩ := Option.map_eq_some_iff.mp h
    cases heq
    exact decodeMany_suffix hitem hvs
  · obtain ⟨⟨entries, rest'⟩, hentries, heq⟩ := Option.map_eq_some_iff.mp h
    cases heq
    exact decodeEntries_suffix hitem hentries
  · obtain ⟨⟨v', rest'⟩, hv, heq⟩ := Option.map_eq_some_iff.mp h
    cases heq
    exact hitem _ _ _ hv
  · cases h

end

theorem decodeItem_suffix {fuel : Nat} (input : List UInt8) (v : Cbor) (rest : List UInt8)
    (h : decodeItem fuel input = some (v, rest)) : rest <:+ input := by
  induction fuel generalizing input v rest with
  | zero => cases h
  | succ fuel ih =>
    cases input with
    | nil => cases h
    | cons b tail =>
      rw [decodeItem] at h
      split at h
      · exact (decodeSimple_suffix h).trans (List.suffix_cons b tail)
      · split at h
        · cases h
        · rename_i hhead
          exact ((decodeContent_suffix ih h).trans (decodeHead_suffix hhead)).trans
            (List.suffix_cons b tail)

end Cbor

/-- CBOR in its shortest form. -/
def cborWire : CborCodec where
  fromReader bytes :=
    match Cbor.decodeItem bytes.length bytes with
    | some (v, rest) => .ok (v, rest)
    | none => .error "invalid CBOR"
  intoWriter := Cbor.encode

theorem cborWire_fromReader (v : Cbor) (rest : List UInt8) :
    cborWire.fromReader (cborWire.intoWriter v ++ rest) = .ok (v, rest) := by
  show (match Cbor.decodeItem _ (Cbor.encode v ++ rest) with
    | some (v, rest) => Except.ok (v, rest)
    | none => .error "invalid CBOR") = _
  rw [Cbor.decodeItem_encode v _ rest (by simp [cborWire])]

theorem cborWire_lawful : cborWire.Lawful where
  read_back v rest _ := cborWire_fromReader v rest
  eof := ⟨_, rfl⟩

/-- This codec reads back whatever it writes. -/
theorem cborWire_read (v : Cbor) : cborWire.read (cborWire.intoWriter v) = .ok v := by
  have hread := cborWire_fromReader v []
  rw [List.append_nil] at hread
  rw [CborCodec.read, hread]
  rfl

theorem cborWire_readsPrefix : cborWire.ReadsPrefix := by
  intro bytes v rest h
  simp only [cborWire] at h
  split at h
  · cases h
    exact Cbor.decodeItem_suffix _ _ _ ‹_›
  · cases h

end Wscd
