/-!
# Prefix-free codes

A code is prefix-free when the word of one value can be told off the front of whatever
follows it. What is put together from such words with fixed marks in between can be taken
apart in one way only.

Results:
1. `PrefixFree.pair`: two words with a fixed mark between them.
2. `PrefixFree.delimited`: any number of words up to a mark no word begins with.
3. `PrefixFree.separated`: the same with a separator between the words.
-/

namespace Lib

variable {α α' β : Type}

/-- The word of a value, and what follows it, can be read off their concatenation. -/
def PrefixFree (f : α → List β) : Prop :=
  ∀ a a' t t', f a ++ t = f a' ++ t' → a = a' ∧ t = t'

/-- No word of the code begins with `stop`. -/
def NeverBegins (f : α → List β) (stop : β) : Prop := ∀ a t t', f a ++ t ≠ stop :: t'

namespace PrefixFree

variable {f : α → List β} {g : α' → List β} {sep stop : β}

theorem injective (hf : PrefixFree f) {a a' : α} (h : f a = f a') : a = a' :=
  (hf a a' [] [] (by rw [h])).1

/-- A fixed beginning. -/
theorem after (hf : PrefixFree f) (pre : List β) : PrefixFree fun a => pre ++ f a := by
  intro a a' t t' h
  dsimp only at h
  rw [List.append_assoc, List.append_assoc] at h
  exact hf a a' t t' (List.append_cancel_left h)

theorem pair (hf : PrefixFree f) (hg : PrefixFree g) (mid : List β) :
    PrefixFree fun p : α × α' => f p.1 ++ (mid ++ g p.2) := by
  rintro ⟨a, b⟩ ⟨a', b'⟩ t t' h
  simp only [List.append_assoc] at h
  obtain ⟨rfl, hrest⟩ := hf a a' _ _ h
  obtain ⟨rfl, rfl⟩ := hg b b' t t' (List.append_cancel_left hrest)
  exact ⟨rfl, rfl⟩

theorem delimited (hf : PrefixFree f) (hstop : NeverBegins f stop) :
    PrefixFree fun as : List α => as.flatMap f ++ [stop] := by
  intro as
  induction as with
  | nil =>
    intro bs t t' h
    cases bs with
    | nil => exact ⟨rfl, List.tail_eq_of_cons_eq h⟩
    | cons b bs =>
      refine absurd h.symm ?_
      dsimp only
      rw [List.flatMap_cons, List.append_assoc, List.append_assoc]
      exact hstop b _ _
  | cons a as ih =>
    intro bs t t' h
    dsimp only at h
    rw [List.flatMap_cons, List.append_assoc, List.append_assoc] at h
    cases bs with
    | nil => exact absurd h (hstop a _ _)
    | cons b bs =>
      rw [List.flatMap_cons, List.append_assoc, List.append_assoc] at h
      obtain ⟨rfl, hrest⟩ := hf a b _ _ h
      rw [← List.append_assoc, ← List.append_assoc] at hrest
      obtain ⟨rfl, rfl⟩ := ih bs t t' hrest
      exact ⟨rfl, rfl⟩

/-- The words of `as`, a separator in front of each. -/
def separatedTail (f : α → List β) (sep stop : β) (as : List α) : List β :=
  as.flatMap (fun a => sep :: f a) ++ [stop]

theorem intercalate_eq (f : α → List β) (sep stop : β) (a : α) (as : List α) :
    [sep].intercalate ((a :: as).map f) ++ [stop] = f a ++ separatedTail f sep stop as := by
  induction as generalizing a with
  | nil => simp [separatedTail]
  | cons b as ih =>
    have hb := ih b
    rw [List.map_cons] at hb
    rw [List.map_cons, List.map_cons, List.intercalate_cons_cons, List.append_assoc,
      List.append_assoc, hb]
    simp [separatedTail]

theorem separated (hf : PrefixFree f) (hstop : NeverBegins f stop) (hne : sep ≠ stop) :
    PrefixFree fun as : List α => [sep].intercalate (as.map f) ++ [stop] := by
  have htail : PrefixFree (separatedTail f sep stop) := by
    refine (hf.after [sep]).delimited ?_
    intro a t t' h
    exact hne (List.head_eq_of_cons_eq h)
  intro as bs t t' h
  dsimp only at h
  cases as with
  | nil =>
    cases bs with
    | nil => exact ⟨rfl, List.tail_eq_of_cons_eq h⟩
    | cons b bs =>
      refine absurd h.symm ?_
      rw [intercalate_eq, List.append_assoc]
      exact hstop b _ _
  | cons a as =>
    rw [intercalate_eq, List.append_assoc] at h
    cases bs with
    | nil => exact absurd h (hstop a _ _)
    | cons b bs =>
      rw [intercalate_eq, List.append_assoc] at h
      obtain ⟨rfl, hrest⟩ := hf a b _ _ h
      obtain ⟨rfl, rfl⟩ := htail as bs t t' hrest
      exact ⟨rfl, rfl⟩

end PrefixFree

end Lib
