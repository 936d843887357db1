import Mathlib.Data.Finset.Card

/-!
# Lists without repetitions

The loop that pushes an element unless it is there already, and what it leaves: every element
at its first occurrence (`foldl_pushNew`). Whether the result has two elements depends only on
which elements there were.
-/

namespace Lib

variable {α β : Type} [DecidableEq α]

/-- One pass of the loop: an element that is there already is not pushed again. -/
def pushNew (acc : List α) (a : α) : List α :=
  if a ∈ acc then acc else acc ++ [a]

theorem filter_not_mem_append (as acc : List α) (a : α) :
    as.filter (· ∉ acc ++ [a]) = (as.filter (· ∉ acc)).filter fun b => !b == a := by
  rw [List.filter_filter]
  refine List.filter_congr fun b _ => ?_
  by_cases hb : b = a
  · simp [hb]
  · simp [hb]

/-- The loop started with `acc` appends what is not in `acc`, each at its first occurrence. -/
theorem foldl_pushNew (as acc : List α) :
    as.foldl pushNew acc = acc ++ (as.filter (· ∉ acc)).eraseDups := by
  induction as generalizing acc with
  | nil => simp
  | cons a as ih =>
    rw [List.foldl_cons, ih]
    by_cases hmem : a ∈ acc
    · rw [pushNew, if_pos hmem, List.filter_cons_of_neg (by simpa using hmem)]
    · rw [pushNew, if_neg hmem, List.filter_cons_of_pos (by simpa using hmem),
        List.eraseDups_cons, filter_not_mem_append, List.append_assoc]
      rfl

theorem foldl_pushNew_nil (as : List α) : as.foldl pushNew [] = as.eraseDups := by
  rw [foldl_pushNew]
  simp

theorem pushNew_nodup {acc : List α} (h : acc.Nodup) (a : α) : (pushNew acc a).Nodup := by
  unfold pushNew
  split
  · exact h
  · rename_i hmem
    exact List.nodup_append.mpr ⟨h, List.nodup_singleton a, by
      rintro b hb c hc rfl
      exact hmem (List.mem_singleton.mp hc ▸ hb)⟩

theorem nodup_eraseDups (as : List α) : as.eraseDups.Nodup := by
  have hrun : ∀ acc : List α, acc.Nodup → (as.foldl pushNew acc).Nodup := by
    induction as with
    | nil => exact fun _ h => h
    | cons a as ih => exact fun acc h => ih _ (pushNew_nodup h a)
  rw [← foldl_pushNew_nil]
  exact hrun [] List.nodup_nil

/-- A list without repetitions goes through the loop as it is. -/
theorem eraseDups_of_nodup {as : List α} (h : as.Nodup) : as.eraseDups = as := by
  induction as with
  | nil => rfl
  | cons a as ih =>
    obtain ⟨hmem, hrest⟩ := List.nodup_cons.mp h
    have hfilter : as.filter (fun b => !b == a) = as := by
      refine List.filter_eq_self.mpr fun b hb => ?_
      have hne : b ≠ a := by
        rintro rfl
        exact hmem hb
      simp [hne]
    rw [List.eraseDups_cons, hfilter, ih hrest]

/-- Two elements are left exactly when two different ones were there. -/
theorem two_le_length_eraseDups {as : List α} :
    2 ≤ as.eraseDups.length ↔ ∃ a ∈ as, ∃ b ∈ as, a ≠ b := by
  rw [← List.toFinset_card_of_nodup (nodup_eraseDups as)]
  show 1 < as.eraseDups.toFinset.card ↔ _
  rw [Finset.one_lt_card]
  simp only [List.mem_toFinset, List.mem_eraseDups]

end Lib
