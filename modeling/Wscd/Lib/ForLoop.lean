/-!
# A `for` loop that can return

`forLoop body xs s` is `for x in xs { .. }` over a loop state, where a pass either
goes on with a new state (`Ctl.next`) or returns from the enclosing function
(`Ctl.ret`).

Results:
1. `forLoop_cases`: the loop ran through, or it split the list at the pass that
   returned.
2. `forLoop_last`: a loop over a non-empty list ends the way its last pass ends.
3. `forLoop_invariant`: the rule for a loop with an invariant and a postcondition.
4. `Passes.invariant`: the passes before a given element.
-/

namespace Lib

/-- What one pass of a loop body ends with. -/
inductive Ctl (σ ρ : Type) where
  | ret (r : ρ)
  | next (s : σ)

variable {α σ ρ : Type}

/-- `for x in xs { body }` -/
def forLoop (body : α → σ → Ctl σ ρ) : List α → σ → Ctl σ ρ
  | [], s => .next s
  | x :: xs, s =>
    match body x s with
    | .ret r => .ret r
    | .next s' => forLoop body xs s'

/-- `Passes body xs s s'`: every pass over `xs` goes on, and they lead from `s` to `s'`. -/
inductive Passes (body : α → σ → Ctl σ ρ) : List α → σ → σ → Prop
  | nil {s : σ} : Passes body [] s s
  | cons {x : α} {xs : List α} {s s' s'' : σ} :
      body x s = .next s' → Passes body xs s' s'' → Passes body (x :: xs) s s''

variable {body : α → σ → Ctl σ ρ}

theorem forLoop_cons_ret {x : α} {xs : List α} {s : σ} {r : ρ} (h : body x s = .ret r) :
    forLoop body (x :: xs) s = .ret r := by
  simp only [forLoop, h]

theorem forLoop_cons_next {x : α} {xs : List α} {s s' : σ} (h : body x s = .next s') :
    forLoop body (x :: xs) s = forLoop body xs s' := by
  simp only [forLoop, h]

/-- The loop runs through, or it stops at the first pass that returns. -/
theorem forLoop_cases (body : α → σ → Ctl σ ρ) (xs : List α) (s : σ) :
    (∃ s', Passes body xs s s' ∧ forLoop body xs s = .next s') ∨
    (∃ pre x post s' r, xs = pre ++ x :: post ∧ Passes body pre s s' ∧
      body x s' = .ret r ∧ forLoop body xs s = .ret r) := by
  induction xs generalizing s with
  | nil => exact .inl ⟨s, .nil, rfl⟩
  | cons x xs ih =>
    cases h : body x s with
    | ret r => exact .inr ⟨[], x, xs, s, r, rfl, .nil, h, forLoop_cons_ret h⟩
    | next s' =>
      rw [forLoop_cons_next h]
      obtain ⟨s'', hpass, heq⟩ | ⟨pre, y, post, t, r, rfl, hpass, hret, heq⟩ := ih s'
      · exact .inl ⟨s'', .cons h hpass, heq⟩
      · exact .inr ⟨x :: pre, y, post, t, r, rfl, .cons h hpass, hret, heq⟩

/-- The loop ends the way its last pass ends: the pass that returns, or the one over the
last element. -/
theorem forLoop_last (body : α → σ → Ctl σ ρ) {xs : List α} (hne : xs ≠ []) (s : σ) :
    ∃ pre x post s', xs = pre ++ x :: post ∧ Passes body pre s s' ∧
      forLoop body xs s = body x s' ∧ (∀ s'', body x s' = .next s'' → post = []) := by
  induction xs generalizing s with
  | nil => exact absurd rfl hne
  | cons x xs ih =>
    cases h : body x s with
    | ret r =>
      refine ⟨[], x, xs, s, rfl, .nil, (forLoop_cons_ret h).trans h.symm, ?_⟩
      rw [h]
      nofun
    | next s' =>
      rw [forLoop_cons_next h]
      by_cases hxs : xs = []
      · subst hxs
        exact ⟨[], x, [], s, rfl, .nil, h.symm, fun _ _ => rfl⟩
      · obtain ⟨pre, y, post, t, rfl, hpass, heq, hlast⟩ := ih hxs s'
        exact ⟨x :: pre, y, post, t, rfl, .cons h hpass, heq, hlast⟩

/-- A loop goes on where the passes over a first part of its list have led. -/
theorem Passes.forLoop_append {pre : List α} {s s' : σ} (h : Passes body pre s s')
    (xs : List α) : forLoop body (pre ++ xs) s = forLoop body xs s' := by
  induction h with
  | nil => rfl
  | cons hx _ ih => exact (forLoop_cons_next hx).trans ih

/-- What every pass over `xs` keeps, all of them together keep. -/
theorem Passes.invariant {I : σ → Prop} {xs : List α} {s s' : σ} (h : Passes body xs s s')
    (hstep : ∀ x s s', x ∈ xs → I s → body x s = .next s' → I s') (hs : I s) : I s' := by
  induction h with
  | nil => exact hs
  | cons hx _ ih =>
    refine ih (fun y t t' hy => hstep y t t' (List.mem_cons_of_mem _ hy)) ?_
    exact hstep _ _ _ List.mem_cons_self hs hx

/-- The loop rule: the body keeps `I` when it goes on and ends in `Q` when it returns. -/
theorem forLoop_invariant {I : σ → Prop} {Q : ρ → Prop} (body : α → σ → Ctl σ ρ) {xs : List α}
    {s : σ} (hnext : ∀ x s s', x ∈ xs → I s → body x s = .next s' → I s')
    (hret : ∀ x s r, x ∈ xs → I s → body x s = .ret r → Q r) (hs : I s) :
    (∀ s', forLoop body xs s = .next s' → I s') ∧ (∀ r, forLoop body xs s = .ret r → Q r) := by
  obtain ⟨s', hpass, heq⟩ | ⟨pre, x, post, s', r, rfl, hpass, hx, heq⟩ := forLoop_cases body xs s
  · refine ⟨fun t ht => ?_, fun r hr => ?_⟩
    · cases heq.symm.trans ht
      exact hpass.invariant hnext hs
    · cases heq.symm.trans hr
  · refine ⟨fun t ht => ?_, fun r' hr => ?_⟩
    · cases heq.symm.trans ht
    · cases heq.symm.trans hr
      refine hret x s' r (by simp) (hpass.invariant ?_ hs) hx
      intro y t t' hy
      exact hnext y t t' (List.mem_append_left _ hy)

end Lib
