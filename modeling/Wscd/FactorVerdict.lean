import Wscd.Factors
import Wscd.Lib.FirstOccurrences

/-!
# The verdict on the factors of a signature

`AuthFactors.new` checks, deduplicates and rewrites the reason in one loop, and reads the
verdict off another one. Here each loop is what it computes: the factors kept are those of the
vocabulary at their first occurrence, and the verdict asks for two of different categories.

Results:
1. `new_factors_eq`: what is kept.
2. `new_shortfall_eq`: the reason, which is the last factor not counted if there is one.
3. `new_is_normal_form`: the verdict and the reason agree, building again changes nothing, and
   the verdict is a matter of which factors of the vocabulary there are.
-/

namespace Wscd

open Lib

namespace AuthFactors

/-- The list has factors of two different categories. -/
def SpansTwo (factors : List AuthFactor) : Prop :=
  ∃ f ∈ factors, ∃ g ∈ factors, f.category ≠ g.category

/-- The factors `new` counts, at their first occurrence. -/
def kept (factors : List AuthFactor) : List AuthFactor :=
  (factors.filter fun f => f.InVocabulary).eraseDups

/-- What `new` says of a factor outside the vocabulary. -/
def notCounted (f : AuthFactor) : String :=
  s!"'{f.method}' is not a TS12 {f.category.asStr} method and was not counted"

theorem SpansTwo.mono {factors others : List AuthFactor} (hsub : factors ⊆ others)
    (h : SpansTwo factors) : SpansTwo others := by
  obtain ⟨f, hf, g, hg, hne⟩ := h
  exact ⟨f, hsub hf, g, hsub hg, hne⟩

/-! ## The loops -/

/-- The loop of `satisfiesTwoCategories` keeps the categories at their first occurrence. -/
theorem satisfiesTwoCategories_iff (factors : List AuthFactor) :
    satisfiesTwoCategories factors = true ↔ SpansTwo factors := by
  have hseen : (factors.foldl (fun seen (f : AuthFactor) =>
      if f.category ∈ seen then seen else seen ++ [f.category]) []) =
      (factors.map AuthFactor.category).eraseDups := by
    rw [← foldl_pushNew_nil, List.foldl_map]
    rfl
  rw [satisfiesTwoCategories, hseen, decide_eq_true_iff, two_le_length_eraseDups]
  constructor
  · rintro ⟨a, ha, b, hb, hne⟩
    obtain ⟨f, hf, rfl⟩ := List.mem_map.mp ha
    obtain ⟨g, hg, rfl⟩ := List.mem_map.mp hb
    exact ⟨f, hf, g, hg, hne⟩
  · rintro ⟨f, hf, g, hg, hne⟩
    exact ⟨_, List.mem_map_of_mem hf, _, List.mem_map_of_mem hg, hne⟩

theorem count_fst (acc : List AuthFactor × Option String) (f : AuthFactor) :
    (count acc f).1 = if f.InVocabulary then pushNew acc.1 f else acc.1 := by
  unfold count
  by_cases hf : f.InVocabulary
  · rw [if_pos hf, if_neg (show ¬ f.method ∉ f.category.methods from not_not_intro hf), pushNew]
    split <;> rfl
  · rw [if_neg hf, if_pos (show f.method ∉ f.category.methods from hf)]

theorem count_snd (acc : List AuthFactor × Option String) (f : AuthFactor) :
    (count acc f).2 = if f.InVocabulary then acc.2 else some (notCounted f) := by
  unfold count
  by_cases hf : f.InVocabulary
  · rw [if_pos hf, if_neg (show ¬ f.method ∉ f.category.methods from not_not_intro hf)]
    split <;> rfl
  · rw [if_neg hf, if_pos (show f.method ∉ f.category.methods from hf)]
    rfl

/-- The list the loop builds, whatever becomes of the reason. -/
theorem foldl_count_fst (factors : List AuthFactor) (acc : List AuthFactor × Option String) :
    (factors.foldl count acc).1 =
      (factors.filter fun f => f.InVocabulary).foldl pushNew acc.1 := by
  rw [List.foldl_filter]
  induction factors generalizing acc with
  | nil => rfl
  | cons f factors ih =>
    rw [List.foldl_cons, List.foldl_cons, ih, count_fst]
    simp only [decide_eq_true_eq]

/-- The reason the loop ends with: the last factor not counted replaces what was there. -/
theorem foldl_count_snd (factors : List AuthFactor) (acc : List AuthFactor × Option String) :
    (factors.foldl count acc).2 =
      ((factors.filter fun f => ¬ f.InVocabulary).getLast?.map notCounted).or acc.2 := by
  induction factors generalizing acc with
  | nil => rfl
  | cons f factors ih =>
    rw [List.foldl_cons, ih, count_snd]
    by_cases hf : f.InVocabulary
    · rw [if_pos hf, List.filter_cons_of_neg (by simpa using hf)]
    · rw [if_neg hf, List.filter_cons_of_pos (by simpa using hf), List.getLast?_cons]
      cases (factors.filter fun f => ¬ f.InVocabulary).getLast? <;> rfl

/-! ## What `new` yields -/

theorem new_factors_eq (factors : List AuthFactor) (shortfall : Option String) :
    (new factors shortfall).factors = kept factors := by
  rw [new_factors, foldl_count_fst, foldl_pushNew_nil, kept]

theorem new_shortfall_eq (factors : List AuthFactor) (shortfall : Option String) :
    (new factors shortfall).shortfall =
      if satisfiesTwoCategories (kept factors) then none
      else some ((((factors.filter fun f => ¬ f.InVocabulary).getLast?.map notCounted).or
        shortfall).getD "fewer than two distinct authentication categories were applied") := by
  have hkept := new_factors_eq factors shortfall
  rw [new_factors] at hkept
  unfold new
  dsimp only
  rw [hkept, foldl_count_snd]
  split <;> rfl

theorem mem_kept {factors : List AuthFactor} {f : AuthFactor} :
    f ∈ kept factors ↔ f ∈ factors ∧ f.InVocabulary := by
  rw [kept, List.mem_eraseDups, List.mem_filter, decide_eq_true_iff]

theorem kept_kept (factors : List AuthFactor) : kept (kept factors) = kept factors := by
  have hfilter : (kept factors).filter (fun f => f.InVocabulary) = kept factors :=
    List.filter_eq_self.mpr fun f hf => decide_eq_true (mem_kept.mp hf).2
  rw [kept, hfilter]
  exact eraseDups_of_nodup (nodup_eraseDups _)

theorem new_shortfall_eq_none_iff (factors : List AuthFactor) (shortfall : Option String) :
    (new factors shortfall).shortfall = none ↔ SpansTwo (kept factors) := by
  rw [← satisfiesTwoCategories_iff, new_shortfall_eq]
  split
  · rename_i h
    exact iff_of_true rfl h
  · rename_i h
    exact iff_of_false nofun h

/-- Nothing is dropped when the kept factors are counted again, so the reason given stays. -/
theorem new_kept (factors : List AuthFactor) (shortfall : Option String) :
    new (new factors shortfall).factors (new factors shortfall).shortfall =
      new factors shortfall := by
  have hnone : (kept factors).filter (fun f => ¬ f.InVocabulary) = [] :=
    List.filter_eq_nil_iff.mpr fun f hf => by simpa using (mem_kept.mp hf).2
  have hfactors : (new (kept factors) (new factors shortfall).shortfall).factors =
      (new factors shortfall).factors := by
    rw [new_factors_eq, new_factors_eq, kept_kept]
  have hshortfall : (new (kept factors) (new factors shortfall).shortfall).shortfall =
      (new factors shortfall).shortfall := by
    rw [new_shortfall_eq, kept_kept, hnone, new_shortfall_eq factors shortfall]
    split <;> rfl
  rw [new_factors_eq factors shortfall]
  exact AuthFactors.ext hfactors hshortfall

/-- Fewer factors of the vocabulary never give a better verdict. -/
theorem satisfies_kept_mono {factors others : List AuthFactor}
    (h : ∀ f, f.InVocabulary → f ∈ factors → f ∈ others)
    (hsatisfied : satisfiesTwoCategories (kept factors) = true) :
    satisfiesTwoCategories (kept others) = true := by
  rw [satisfiesTwoCategories_iff] at hsatisfied ⊢
  refine hsatisfied.mono fun f hf => ?_
  obtain ⟨hmem, hvocabulary⟩ := mem_kept.mp hf
  exact mem_kept.mpr ⟨h f hvocabulary hmem, hvocabulary⟩

theorem satisfies_kept_congr {factors others : List AuthFactor}
    (h : ∀ f, f.InVocabulary → (f ∈ factors ↔ f ∈ others)) :
    satisfiesTwoCategories (kept factors) = satisfiesTwoCategories (kept others) :=
  Bool.eq_iff_iff.mpr ⟨satisfies_kept_mono fun f hf => (h f hf).mp,
    satisfies_kept_mono fun f hf => (h f hf).mpr⟩

/-- `new` keeps the factors of the vocabulary at their first occurrence; its reason is absent
exactly when they span two categories; building again from the result gives the result; and
the verdict is that of the set of factors of the vocabulary, so neither their order nor
repetitions matter and more factors never hurt. -/
theorem new_is_normal_form (factors : List AuthFactor) (shortfall : Option String) :
    let built := new factors shortfall
    let verdict := fun fs reason => satisfiesTwoCategories (new fs reason).factors
    built.factors = (factors.filter fun f => f.InVocabulary).eraseDups ∧
    (built.shortfall = none ↔
      ∃ f ∈ built.factors, ∃ g ∈ built.factors, f.category ≠ g.category) ∧
    (built.shortfall = none ↔ satisfiesTwoCategories built.factors = true) ∧
    new built.factors built.shortfall = built ∧
    ∀ others reason,
      ((∀ f, f.InVocabulary → (f ∈ factors ↔ f ∈ others)) →
        verdict factors shortfall = verdict others reason) ∧
      (factors.Perm others → verdict factors shortfall = verdict others reason) ∧
      (others ⊆ factors → verdict (factors ++ others) reason = verdict factors shortfall) ∧
      (factors ⊆ others → verdict factors shortfall = true → verdict others reason = true) := by
  intro built verdict
  have hkept : ∀ fs reason, verdict fs reason = satisfiesTwoCategories (kept fs) := by
    intro fs reason
    show satisfiesTwoCategories (new fs reason).factors = _
    rw [new_factors_eq]
  refine ⟨new_factors_eq factors shortfall, ?_, ?_, new_kept factors shortfall, ?_⟩
  · rw [new_shortfall_eq_none_iff, new_factors_eq]
    rfl
  · rw [new_shortfall_eq_none_iff, new_factors_eq, satisfiesTwoCategories_iff]
  · intro others reason
    simp only [hkept]
    refine ⟨satisfies_kept_congr, ?_, ?_, ?_⟩
    · intro hperm
      exact satisfies_kept_congr fun f _ => hperm.mem_iff
    · intro hsub
      refine satisfies_kept_congr fun f _ => ?_
      rw [List.mem_append, or_iff_left_of_imp fun h => hsub h]
    · intro hsub
      exact satisfies_kept_mono fun f _ => fun h => hsub h

/-- A forged method is not counted and takes the reason's place, wherever it stands. -/
example : new [⟨.knowledge, "forged"⟩, ⟨.possession, "other"⟩, ⟨.possession, "other"⟩] none =
    ⟨[⟨.possession, "other"⟩],
      some "'forged' is not a TS12 knowledge method and was not counted"⟩ := by
  decide

end AuthFactors

end Wscd
