import Wscd.Cbor
import Wscd.Lib.Serde
import Wscd.Plugins.Thumbprint

/-!
# JSON as bytes

`JsonText` is the text layer of `serde_json`, third-party code, and what is relied on of it.
`jsonWire` is such a layer, for the results that need one: the compact form
`serde_json::to_vec` writes, read back without white space, fractions or exponents.

Results:
1. `charsOff_flatMap`, `natOff_toDigits`, `manyOff_intercalate`: a string, a number and a list
   read back off the front of any text.
2. `valueOff_render`: a document read back off the front of any text.
3. `jsonWire_lawful`: the layer is lawful.
-/

namespace Wscd

open Lib

/-- The text layer of `serde_json`: what it writes for a document, the document it presents
of a text, and what it says of one that is no list of records. -/
structure JsonText where
  toVec : Content → List UInt8
  fromSlice : List UInt8 → Option Content
  complaint : List UInt8 → String

namespace JsonText

/-- How many containers `serde_json` opens inside each other. -/
def maxDepth : Nat := 127

/-- A document is read back as it was written. -/
def Lawful (json : JsonText) : Prop :=
  ∀ c : Content, c.Writable maxDepth → json.fromSlice (json.toVec c) = some c

end JsonText

namespace JsonWire

/-! ## Writing -/

def renderInt (n : Int) : List Char :=
  if 0 ≤ n then Nat.toDigits 10 n.toNat else '-' :: Nat.toDigits 10 (-n).toNat

def renderString (s : String) : List Char := (Json.quote s).toList

mutual

def render : Content → List Char
  | .null => "null".toList
  | .bool true => "true".toList
  | .bool false => "false".toList
  | .int n => renderInt n
  | .float lexeme => lexeme.toList
  | .str s => renderString s
  | .seq [] => "[]".toList
  | .seq (c :: cs) => '[' :: (render c ++ renderItems cs)
  | .map [] => ['\x7b', '\x7d']
  | .map ((name, c) :: ms) =>
    '\x7b' :: (renderString name ++ ':' :: render c ++ renderMembers ms)

/-- The items after the first, and the bracket. -/
def renderItems : List Content → List Char
  | [] => [']']
  | c :: cs => ',' :: (render c ++ renderItems cs)

/-- The members after the first, and the bracket. -/
def renderMembers : List (String × Content) → List Char
  | [] => ['\x7d']
  | (name, c) :: ms => ',' :: (renderString name ++ ':' :: render c ++ renderMembers ms)

end

def renderMember (m : String × Content) : List Char := renderString m.1 ++ ':' :: render m.2

theorem renderItems_eq (cs : List Content) :
    renderItems cs = PrefixFree.separatedTail render ',' ']' cs := by
  induction cs with
  | nil => rfl
  | cons c cs ih =>
    rw [renderItems, ih]
    simp [PrefixFree.separatedTail]

theorem renderMembers_eq (ms : List (String × Content)) :
    renderMembers ms = PrefixFree.separatedTail renderMember ',' '\x7d' ms := by
  induction ms with
  | nil => rfl
  | cons m ms ih =>
    rw [renderMembers, ih]
    simp [PrefixFree.separatedTail, renderMember]

theorem render_seq (cs : List Content) :
    render (.seq cs) = '[' :: ([','].intercalate (cs.map render) ++ [']']) := by
  cases cs with
  | nil => rfl
  | cons c cs => rw [PrefixFree.intercalate_eq, ← renderItems_eq, render]

theorem render_map (ms : List (String × Content)) :
    render (.map ms) = '\x7b' :: ([','].intercalate (ms.map renderMember) ++ ['\x7d']) := by
  cases ms with
  | nil => rfl
  | cons m ms =>
    rw [PrefixFree.intercalate_eq, ← renderMembers_eq, render]
    rfl

/-! ## Reading -/

/-- The character of a one-letter escape. -/
def simpleEscape : Char → Option Char
  | '"' => some '"'
  | '\\' => some '\\'
  | '/' => some '/'
  | 'b' => some (Char.ofNat 8)
  | 't' => some (Char.ofNat 9)
  | 'n' => some (Char.ofNat 10)
  | 'f' => some (Char.ofNat 12)
  | 'r' => some (Char.ofNat 13)
  | _ => none

def hexDigit (c : Char) : Option Nat :=
  if c.isDigit then some (c.toNat - 48)
  else if 'a' ≤ c ∧ c ≤ 'f' then some (c.toNat - 87)
  else none

/-- The character of `\uabcd`. -/
def hexEscape (a b c d : Char) : Option Char := do
  let digits ← [a, b, c, d].mapM hexDigit
  return Char.ofNat (digits.foldl (fun n d => 16 * n + d) 0)

/-- One character of a string. -/
def charOff : List Char → Option (Char × List Char)
  | '\\' :: 'u' :: a :: b :: c :: d :: rest => (hexEscape a b c d).map fun e => (e, rest)
  | '\\' :: c :: rest => (simpleEscape c).map fun e => (e, rest)
  | c :: rest => some (c, rest)
  | [] => none

/-- The characters up to the closing quote; `fuel` bounds their number. -/
def charsOff : Nat → List Char → Option (List Char × List Char)
  | 0, _ => none
  | fuel + 1, input =>
    match input with
    | '"' :: rest => some ([], rest)
    | _ => do
      let (c, rest) ← charOff input
      let (cs, rest) ← charsOff fuel rest
      return (c :: cs, rest)

def stringOff : List Char → Option (String × List Char)
  | '"' :: rest => (charsOff (rest.length + 1) rest).map fun (cs, rest) => (String.ofList cs, rest)
  | _ => none

def natOff (input : List Char) : Option (Nat × List Char) :=
  match input.takeWhile Char.isDigit with
  | [] => none
  | digits => some (Nat.ofDigitChars 10 digits 0, input.dropWhile Char.isDigit)

/-- A number, if it has one of the two 64-bit types. -/
def ofInt (n : Int) : Content :=
  if -(2 ^ 63) ≤ n ∧ n < 2 ^ 64 then .int n else .float (toString n)

def scalarOff (input : List Char) : Option (Content × List Char) :=
  match input with
  | 'n' :: 'u' :: 'l' :: 'l' :: rest => some (.null, rest)
  | 't' :: 'r' :: 'u' :: 'e' :: rest => some (.bool true, rest)
  | 'f' :: 'a' :: 'l' :: 's' :: 'e' :: rest => some (.bool false, rest)
  | '"' :: _ => (stringOff input).map fun (s, rest) => (.str s, rest)
  | '-' :: rest =>
    (natOff rest).map fun (n, rest) => (if n = 0 then .float "-0" else ofInt (-n), rest)
  | _ => (natOff input).map fun (n, rest) => (ofInt n, rest)

variable {α : Type}

/-- The words after the first, up to the bracket. -/
def tailOff (item : List Char → Option (α × List Char)) (stop : Char) :
    Nat → List Char → Option (List α × List Char)
  | 0, _ => none
  | _ + 1, [] => none
  | fuel + 1, c :: rest =>
    if c = stop then some ([], rest)
    else if c = ',' then do
      let (a, rest) ← item rest
      let (as, rest) ← tailOff item stop fuel rest
      return (a :: as, rest)
    else none

/-- Words with commas between them, up to the bracket. -/
def manyOff (item : List Char → Option (α × List Char)) (stop : Char) :
    List Char → Option (List α × List Char)
  | [] => none
  | c :: rest =>
    if c = stop then some ([], rest)
    else do
      let (a, rest) ← item (c :: rest)
      let (as, rest) ← tailOff item stop (rest.length + 1) rest
      return (a :: as, rest)

def memberOff (item : List Char → Option (Content × List Char)) (input : List Char) :
    Option ((String × Content) × List Char) := do
  let (name, rest) ← stringOff input
  match rest with
  | ':' :: rest =>
    let (c, rest) ← item rest
    return ((name, c), rest)
  | _ => none

/-- One document, with at most so many containers inside each other. -/
def valueOff : Nat → List Char → Option (Content × List Char)
  | 0, input => scalarOff input
  | depth + 1, input =>
    match input with
    | '[' :: rest => (manyOff (valueOff depth) ']' rest).map fun (cs, rest) => (.seq cs, rest)
    | '\x7b' :: rest =>
      (manyOff (memberOff (valueOff depth)) '\x7d' rest).map fun (ms, rest) => (.map ms, rest)
    | _ => scalarOff input

/-! ## Reading back strings -/

/-- The word of a character with an escape of its own. -/
def EscapeWord (c : Char) : List Char → Prop
  | ['\\', e] => e ≠ 'u' ∧ simpleEscape e = some c
  | ['\\', 'u', x, y, z, w] => hexEscape x y z w = some c
  | _ => False

instance (c : Char) (word : List Char) : Decidable (EscapeWord c word) := by
  unfold EscapeWord
  split
  · infer_instance
  · infer_instance
  · infer_instance

theorem escapeWord_of_mem : ∀ c ∈ Json.escaped, EscapeWord c (Json.escapeChar c).toList := by
  refine List.all_iff_forall_prop.mp ?_
  simp only [Json.toList_escapeChar]
  decide +kernel

theorem charOff_escapeChar (c : Char) (rest : List Char) :
    charOff ((Json.escapeChar c).toList ++ rest) = some (c, rest) := by
  by_cases hc : c ∈ Json.escaped
  · have hword := escapeWord_of_mem c hc
    generalize (Json.escapeChar c).toList = word at hword
    unfold EscapeWord at hword
    split at hword
    · rename_i e
      obtain ⟨hu, he⟩ := hword
      simp [charOff, hu, he]
    · simp [charOff, hword]
    · exact hword.elim
  · obtain ⟨hword, -, hslash⟩ := Json.toList_escapeChar_of_not_mem hc
    rw [hword]
    simp [charOff, hslash]

theorem escapeChar_head (c : Char) (rest : List Char) :
    ∃ d tail, (Json.escapeChar c).toList ++ rest = d :: tail ∧ d ≠ '"' := by
  rcases Json.toList_escapeChar_eq c with ⟨-, second, tail, hlist⟩ | ⟨hlist, hquote, -⟩
  · exact ⟨'\\', second :: tail ++ rest, by rw [hlist]; rfl, by decide⟩
  · exact ⟨c, rest, by rw [hlist]; rfl, hquote⟩

theorem charsOff_flatMap (cs : List Char) (fuel : Nat) (hfuel : cs.length < fuel)
    (rest : List Char) :
    charsOff fuel (cs.flatMap (fun c => (Json.escapeChar c).toList) ++ '"' :: rest) =
      some (cs, rest) := by
  induction cs generalizing fuel with
  | nil =>
    obtain ⟨fuel, rfl⟩ := Nat.exists_eq_succ_of_ne_zero (Nat.ne_of_gt hfuel)
    rfl
  | cons c cs ih =>
    obtain ⟨fuel, rfl⟩ := Nat.exists_eq_succ_of_ne_zero (Nat.ne_of_gt (Nat.zero_lt_of_lt hfuel))
    have hcs := ih fuel (Nat.lt_of_succ_lt_succ hfuel)
    rw [List.flatMap_cons, List.append_assoc]
    obtain ⟨d, tail, happend, hquote⟩ := escapeChar_head c
      (cs.flatMap (fun c => (Json.escapeChar c).toList) ++ '"' :: rest)
    have hoff := charOff_escapeChar c
      (cs.flatMap (fun c => (Json.escapeChar c).toList) ++ '"' :: rest)
    rw [happend] at hoff ⊢
    simp [charsOff, hquote, hoff, hcs]

theorem length_le_flatMap (cs : List Char) :
    cs.length ≤ (cs.flatMap fun c => (Json.escapeChar c).toList).length := by
  induction cs with
  | nil => exact Nat.le_refl 0
  | cons c cs ih =>
    obtain ⟨d, tail, happend, -⟩ := escapeChar_head c []
    rw [List.append_nil] at happend
    rw [List.flatMap_cons, List.length_append, happend, List.length_cons, List.length_cons]
    omega

theorem renderString_append (s : String) (rest : List Char) :
    renderString s ++ rest =
      '"' :: (s.toList.flatMap (fun c => (Json.escapeChar c).toList) ++ '"' :: rest) := by
  rw [renderString, Json.toList_quote]
  simp

theorem stringOff_renderString (s : String) (rest : List Char) :
    stringOff (renderString s ++ rest) = some (s, rest) := by
  rw [renderString_append, stringOff, charsOff_flatMap]
  · simp
  · have hle := length_le_flatMap s.toList
    rw [List.length_append]
    omega

/-! ## Reading back numbers -/

theorem takeWhile_toDigits (n : Nat) {sep : Char} (hsep : sep.isDigit = false)
    (rest : List Char) :
    (Nat.toDigits 10 n ++ sep :: rest).takeWhile Char.isDigit = Nat.toDigits 10 n ∧
      (Nat.toDigits 10 n ++ sep :: rest).dropWhile Char.isDigit = sep :: rest := by
  have hdigits : ∀ c ∈ Nat.toDigits 10 n, c.isDigit = true := fun c hc =>
    Nat.isDigit_of_mem_toDigits (by decide) (by decide) hc
  refine ⟨?_, ?_⟩
  · rw [List.takeWhile_append_of_pos hdigits]
    simp [hsep]
  · rw [List.dropWhile_append_of_pos hdigits]
    simp [hsep]

theorem natOff_toDigits (n : Nat) {sep : Char} (hsep : sep.isDigit = false) (rest : List Char) :
    natOff (Nat.toDigits 10 n ++ sep :: rest) = some (n, sep :: rest) := by
  obtain ⟨htake, hdrop⟩ := takeWhile_toDigits n hsep rest
  unfold natOff
  rw [htake, hdrop]
  split
  · exact absurd ‹_› Nat.toDigits_ne_nil
  · rw [Nat.ofDigitChars_ten_toDigits]

theorem toDigits_head (n : Nat) (rest : List Char) :
    ∃ d tail, Nat.toDigits 10 n ++ rest = d :: tail ∧ d.isDigit = true := by
  cases hdigits : Nat.toDigits 10 n with
  | nil => exact absurd hdigits Nat.toDigits_ne_nil
  | cons d tail =>
    refine ⟨d, tail ++ rest, rfl, Nat.isDigit_of_mem_toDigits (b := 10) (n := n) ?_ ?_ ?_⟩
    · decide
    · decide
    · rw [hdigits]
      exact List.mem_cons_self

theorem scalarOff_of_isDigit {d : Char} (hd : d.isDigit = true) (rest : List Char) :
    scalarOff (d :: rest) = (natOff (d :: rest)).map fun (n, rest) => (ofInt n, rest) := by
  unfold scalarOff
  split
  · exact absurd hd (by rename_i h; cases h; decide)
  · exact absurd hd (by rename_i h; cases h; decide)
  · exact absurd hd (by rename_i h; cases h; decide)
  · exact absurd hd (by rename_i h; cases h; decide)
  · exact absurd hd (by rename_i h; cases h; decide)
  · rfl

theorem scalarOff_renderInt {n : Int} (hn : -(2 ^ 63) ≤ n ∧ n < 2 ^ 64) {sep : Char}
    (hsep : sep.isDigit = false) (rest : List Char) :
    scalarOff (renderInt n ++ sep :: rest) = some (.int n, sep :: rest) := by
  unfold renderInt
  by_cases hneg : 0 ≤ n
  · rw [if_pos hneg]
    obtain ⟨d, tail, happend, hd⟩ := toDigits_head n.toNat (sep :: rest)
    have hoff := natOff_toDigits n.toNat hsep rest
    rw [happend] at hoff ⊢
    rw [scalarOff_of_isDigit hd, hoff, Option.map_some]
    dsimp only
    rw [Int.toNat_of_nonneg hneg, ofInt, if_pos hn]
  · rw [if_neg hneg]
    have hoff := natOff_toDigits (-n).toNat hsep rest
    have habs : -((-n).toNat : Int) = n := by omega
    simp only [List.cons_append, scalarOff, hoff, Option.map_some]
    rw [if_neg (by omega), habs, ofInt, if_pos hn]

/-! ## Reading back lists -/

/-- What may follow a word of a list. -/
def Follows (stop sep : Char) : Prop := sep = ',' ∨ sep = stop

theorem separatedTail_head (f : α → List Char) (stop : Char) (as : List α) (rest : List Char) :
    ∃ sep tail, PrefixFree.separatedTail f ',' stop as ++ rest = sep :: tail ∧
      Follows stop sep := by
  cases as with
  | nil => exact ⟨stop, rest, rfl, .inr rfl⟩
  | cons a as =>
    refine ⟨',', f a ++ (PrefixFree.separatedTail f ',' stop as ++ rest), ?_, .inl rfl⟩
    simp [PrefixFree.separatedTail]

theorem tailOff_separatedTail {item : List Char → Option (α × List Char)} {f : α → List Char}
    {stop : Char} (hstop : stop ≠ ',') {as : List α}
    (hitem : ∀ a ∈ as, ∀ sep rest, Follows stop sep →
      item (f a ++ sep :: rest) = some (a, sep :: rest))
    (fuel : Nat) (hfuel : as.length < fuel) (rest : List Char) :
    tailOff item stop fuel (PrefixFree.separatedTail f ',' stop as ++ rest) = some (as, rest) := by
  induction as generalizing fuel with
  | nil =>
    obtain ⟨fuel, rfl⟩ := Nat.exists_eq_succ_of_ne_zero (Nat.ne_of_gt hfuel)
    simp [PrefixFree.separatedTail, tailOff]
  | cons a as ih =>
    obtain ⟨fuel, rfl⟩ := Nat.exists_eq_succ_of_ne_zero (Nat.ne_of_gt (Nat.zero_lt_of_lt hfuel))
    have has := ih (fun b hb => hitem b (List.mem_cons_of_mem a hb)) fuel
      (Nat.lt_of_succ_lt_succ hfuel)
    obtain ⟨sep, tail, htail, hsep⟩ := separatedTail_head f stop as rest
    have ha := hitem a List.mem_cons_self sep tail hsep
    have hsplit : PrefixFree.separatedTail f ',' stop (a :: as) ++ rest =
        ',' :: (f a ++ sep :: tail) := by
      rw [← htail]
      simp [PrefixFree.separatedTail]
    rw [hsplit, tailOff, if_neg hstop.symm, if_pos rfl, ha]
    rw [htail] at has
    simp only [Option.bind_eq_bind, Option.bind_some, has]
    rfl

theorem length_lt_separatedTail (f : α → List Char) (stop : Char) (as : List α) :
    as.length < (PrefixFree.separatedTail f ',' stop as).length := by
  have hlength : as.length ≤ (as.flatMap fun a => ',' :: f a).length := by
    induction as with
    | nil => exact Nat.le_refl 0
    | cons a as ih =>
      rw [List.flatMap_cons, List.length_append, List.length_cons, List.length_cons]
      omega
  rw [PrefixFree.separatedTail, List.length_append, List.length_singleton]
  omega

theorem manyOff_intercalate (item : List Char → Option (α × List Char)) (f : α → List Char)
    {stop : Char} (hstop : stop ≠ ',') {as : List α}
    (hitem : ∀ a ∈ as, ∀ sep rest, Follows stop sep →
      item (f a ++ sep :: rest) = some (a, sep :: rest))
    (hhead : ∀ a ∈ as, ∃ c tail, f a = c :: tail ∧ c ≠ stop) (rest : List Char) :
    manyOff item stop ([','].intercalate (as.map f) ++ [stop] ++ rest) = some (as, rest) := by
  cases as with
  | nil => simp [manyOff]
  | cons a as =>
    rw [PrefixFree.intercalate_eq, List.append_assoc]
    have htail := tailOff_separatedTail hstop
      (fun b hb => hitem b (List.mem_cons_of_mem a hb))
      ((PrefixFree.separatedTail f ',' stop as ++ rest).length + 1)
      (by
        have hlength := length_lt_separatedTail f stop as
        rw [List.length_append]
        omega) rest
    obtain ⟨sep, tail, hsplit, hsep⟩ := separatedTail_head f stop as rest
    have ha := hitem a List.mem_cons_self sep tail hsep
    rw [hsplit] at htail ⊢
    obtain ⟨c, word, hword, hc⟩ := hhead a List.mem_cons_self
    rw [hword, List.cons_append] at ha ⊢
    rw [manyOff, if_neg hc, ha]
    simp only [Option.bind_eq_bind, Option.bind_some, htail]
    rfl

/-! ## Reading back documents -/

theorem renderString_head (s : String) : ∃ tail, renderString s = '"' :: tail := by
  have happend := renderString_append s []
  rw [List.append_nil] at happend
  exact ⟨_, happend⟩

theorem renderInt_head (n : Int) :
    ∃ c tail, renderInt n = c :: tail ∧ (c = '-' ∨ c.isDigit = true) := by
  unfold renderInt
  by_cases hneg : 0 ≤ n
  · obtain ⟨d, tail, hdigits, hd⟩ := toDigits_head n.toNat []
    rw [List.append_nil] at hdigits
    exact ⟨d, tail, by rw [if_pos hneg, hdigits], .inr hd⟩
  · exact ⟨'-', _, if_neg hneg, .inl rfl⟩

/-- A document begins neither with a closing bracket nor with a comma. -/
theorem render_head {depth : Nat} {c : Content} (hc : c.Writable depth) :
    ∃ d tail, render c = d :: tail ∧ d ≠ ']' := by
  cases c with
  | null => exact ⟨'n', _, rfl, by decide⟩
  | bool b => cases b <;> exact ⟨_, _, rfl, by decide⟩
  | int n =>
    obtain ⟨d, tail, hd, hhead⟩ := renderInt_head n
    refine ⟨d, tail, hd, ?_⟩
    rintro rfl
    rcases hhead with h | h
    · exact absurd h (by decide)
    · exact absurd h (by decide)
  | float lexeme => cases depth <;> exact hc.elim
  | str s =>
    obtain ⟨tail, htail⟩ := renderString_head s
    exact ⟨'"', tail, htail, by decide⟩
  | seq cs => exact ⟨'[', _, render_seq cs, by decide⟩
  | map ms => exact ⟨'\x7b', _, render_map ms, by decide⟩

/-- A scalar is read as one at any depth. -/
theorem valueOff_of_head {depth : Nat} {d : Char} {tail : List Char} (hseq : d ≠ '[')
    (hmap : d ≠ '\x7b') : valueOff depth (d :: tail) = scalarOff (d :: tail) := by
  cases depth with
  | zero => rfl
  | succ depth =>
    unfold valueOff
    split
    · rename_i h
      exact absurd (List.cons.inj h).1 hseq
    · rename_i h
      exact absurd (List.cons.inj h).1 hmap
    · rfl

theorem valueOff_renderString (depth : Nat) (s : String) (rest : List Char) :
    valueOff depth (renderString s ++ rest) = some (.str s, rest) := by
  have hoff := stringOff_renderString s rest
  rw [renderString_append] at hoff ⊢
  rw [valueOff_of_head (by decide) (by decide)]
  simp only [scalarOff, hoff, Option.map_some]

theorem valueOff_renderInt (depth : Nat) {n : Int} (hn : -(2 ^ 63) ≤ n ∧ n < 2 ^ 64)
    {sep : Char} (hsep : sep.isDigit = false) (rest : List Char) :
    valueOff depth (renderInt n ++ sep :: rest) = some (.int n, sep :: rest) := by
  have hoff := scalarOff_renderInt hn hsep rest
  obtain ⟨d, tail, hd, hhead⟩ := renderInt_head n
  have hnot {c : Char} (hc : c.isDigit = false) (hminus : '-' ≠ c) : d ≠ c := by
    rintro rfl
    rcases hhead with h | h
    · exact hminus h.symm
    · rw [hc] at h
      cases h
  rw [hd, List.cons_append] at hoff ⊢
  rw [valueOff_of_head (hnot (by decide) (by decide)) (hnot (by decide) (by decide)), hoff]

theorem Follows.not_isDigit {stop sep : Char} (h : Follows stop sep)
    (hstop : stop.isDigit = false) : sep.isDigit = false := by
  rcases h with rfl | rfl
  · decide
  · exact hstop

/-- A document is read back off the front of a text that does not go on with a digit. -/
theorem valueOff_render (depth : Nat) (c : Content) (hc : c.Writable depth) {sep : Char}
    (hsep : sep.isDigit = false) (rest : List Char) :
    valueOff depth (render c ++ sep :: rest) = some (c, sep :: rest) := by
  -- at depth zero there are no lists and maps, by `Writable`
  induction depth generalizing c sep rest with
  | zero =>
    cases c with
    | null => rfl
    | bool b => cases b <;> rfl
    | int n => exact valueOff_renderInt 0 hc hsep rest
    | float lexeme => exact hc.elim
    | str s => exact valueOff_renderString 0 s _
    | seq cs => exact hc.elim
    | map ms => exact hc.elim
  | succ depth ih =>
    cases c with
    | null => rfl
    | bool b => cases b <;> rfl
    | int n => exact valueOff_renderInt (depth + 1) hc hsep rest
    | float lexeme => exact hc.elim
    | str s => exact valueOff_renderString (depth + 1) s _
    | seq cs =>
      have hmany := manyOff_intercalate (valueOff depth) render (show ']' ≠ ',' by decide)
        (fun a ha sep rest h => ih a (hc a ha) (h.not_isDigit (by decide)) rest)
        (fun a ha => render_head (hc a ha)) (sep :: rest)
      rw [render_seq]
      simp only [List.cons_append, valueOff, hmany, Option.map_some]
    | map ms =>
      have hmember (m : String × Content) (hm : m ∈ ms) (sep : Char) (rest : List Char)
          (h : Follows '\x7d' sep) :
          memberOff (valueOff depth) (renderMember m ++ sep :: rest) = some (m, sep :: rest) := by
        have hvalue := ih m.2 (hc m hm) (h.not_isDigit (by decide)) rest
        rw [renderMember, List.append_assoc, memberOff, stringOff_renderString]
        simp only [Option.bind_eq_bind, Option.bind_some, List.cons_append, hvalue]
        rfl
      have hhead (m : String × Content) (_ : m ∈ ms) :
          ∃ c tail, renderMember m = c :: tail ∧ c ≠ '\x7d' := by
        obtain ⟨tail, htail⟩ := renderString_head m.1
        exact ⟨'"', tail ++ ':' :: render m.2, by rw [renderMember, htail]; rfl, by decide⟩
      have hmany := manyOff_intercalate (memberOff (valueOff depth)) renderMember
        (show '\x7d' ≠ ',' by decide) hmember hhead (sep :: rest)
      rw [render_map]
      simp only [List.cons_append, valueOff, hmany, Option.map_some]

end JsonWire

open JsonWire in
/-- JSON in its compact form. White space may follow a document. -/
def jsonWire : JsonText where
  toVec c := utf8 (String.ofList (render c))
  fromSlice bytes := do
    let text ← fromUtf8 bytes
    let (c, rest) ← valueOff JsonText.maxDepth (text.toList ++ [' '])
    if rest.all Char.isWhitespace then some c else none
  complaint _ := "invalid type"

open JsonWire in
theorem jsonWire_lawful : jsonWire.Lawful := by
  intro c hc
  have hvalue := valueOff_render JsonText.maxDepth c hc (show ' '.isDigit = false by decide) []
  simp only [jsonWire, fromUtf8_utf8, Option.bind_eq_bind, Option.bind_some, String.toList_ofList,
    hvalue]
  rfl

end Wscd
