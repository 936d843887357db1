import Mathlib.Data.List.Induction

/-!
# Runs of a state machine

A machine is a step function `σ → α → σ`; what a step does not decide by itself
(an answer from outside, a fresh name) is part of the action `α`. `run step s as`
is the state after the actions `as`. `Along step C s as` says that every action
meets the condition `C` in the state it is taken in.

Results:
1. `run_invariant`: what a step under `C` keeps, a run along `C` keeps.
2. `run_invariant_of_mem`: what every step of a run keeps, the run keeps.
3. `exists_step_of_not_along`: a run that is not along a condition has a step that breaks it.
4. `exists_last_step_of_run`: a property that a run brings about is brought about by one
   of its steps and holds from then on.
-/

namespace Lib

variable {α σ τ : Type}

def run (step : σ → α → σ) (s : σ) (as : List α) : σ := as.foldl step s

@[simp] theorem run_nil (step : σ → α → σ) (s : σ) : run step s [] = s := rfl

@[simp] theorem run_cons (step : σ → α → σ) (s : σ) (a : α) (as : List α) :
    run step s (a :: as) = run step (step s a) as := rfl

theorem run_append (step : σ → α → σ) (s : σ) (as bs : List α) :
    run step s (as ++ bs) = run step (run step s as) bs :=
  List.foldl_append

/-- Every action of the run meets `C` in the state it is taken in. -/
def Along (step : σ → α → σ) (C : σ → α → Prop) : σ → List α → Prop
  | _, [] => True
  | s, a :: as => C s a ∧ Along step C (step s a) as

instance decidableAlong (step : σ → α → σ) (C : σ → α → Prop) [∀ s a, Decidable (C s a)] :
    (s : σ) → (as : List α) → Decidable (Along step C s as)
  | _, [] => .isTrue trivial
  | s, a :: as =>
    have : Decidable (Along step C (step s a) as) := decidableAlong step C (step s a) as
    inferInstanceAs (Decidable (C s a ∧ Along step C (step s a) as))

variable {step : σ → α → σ} {C : σ → α → Prop}

theorem along_append {s : σ} {as bs : List α} :
    Along step C s (as ++ bs) ↔ Along step C s as ∧ Along step C (run step s as) bs := by
  induction as generalizing s with
  | nil => simp [Along]
  | cons a as ih => simp only [List.cons_append, Along, run_cons, ih, and_assoc]

/-- A run that is not along `C` has a step that does not meet it. -/
theorem exists_step_of_not_along {s : σ} {as : List α} (h : ¬ Along step C s as) :
    ∃ pre a post, as = pre ++ a :: post ∧ ¬ C (run step s pre) a := by
  induction as generalizing s with
  | nil => exact absurd trivial h
  | cons a as ih =>
    by_cases ha : C s a
    · obtain ⟨pre, b, post, rfl, hb⟩ := ih fun has => h ⟨ha, has⟩
      exact ⟨a :: pre, b, post, rfl, hb⟩
    · exact ⟨[], a, as, rfl, ha⟩

/-- What every step under `C` keeps, every run along `C` keeps. -/
theorem run_invariant {I : σ → Prop} (hstep : ∀ s a, I s → C s a → I (step s a))
    {s : σ} {as : List α} (hs : I s) (ha : Along step C s as) : I (run step s as) := by
  induction as generalizing s with
  | nil => exact hs
  | cons a as ih => exact ih (hstep s a hs ha.1) ha.2

/-- What every step keeps, every run keeps. -/
theorem run_keeps {I : σ → Prop} (hstep : ∀ s a, I s → I (step s a)) {s : σ} (as : List α)
    (hs : I s) : I (run step s as) := by
  induction as generalizing s with
  | nil => exact hs
  | cons a as ih => exact ih (hstep s a hs)

/-- What every step of a run keeps, the run keeps. -/
theorem run_invariant_of_mem {I : σ → Prop} {s : σ} {as : List α}
    (hstep : ∀ s a, a ∈ as → I s → I (step s a)) (hs : I s) : I (run step s as) := by
  induction as generalizing s with
  | nil => exact hs
  | cons a as ih =>
    refine ih (fun s b hb => hstep s b (List.mem_cons_of_mem a hb)) ?_
    exact hstep s a List.mem_cons_self hs

/-- A property that a run brings about has a last time it is brought about: a step that does,
after which it holds for the rest of the run. -/
theorem exists_last_step_of_run {P : σ → Prop} {s : σ} {as : List α} (hs : ¬ P s)
    (h : P (run step s as)) :
    ∃ pre a post, as = pre ++ a :: post ∧ ¬ P (run step s pre) ∧
      ∀ mid rest, post = mid ++ rest → P (run step s (pre ++ a :: mid)) := by
  induction as using List.reverseRecOn with
  | nil => exact absurd h hs
  | append_singleton as b ih =>
    by_cases hP : P (run step s as)
    · obtain ⟨pre, a, post, rfl, hpre, hpost⟩ := ih hP
      refine ⟨pre, a, post ++ [b], by simp, hpre, fun mid rest heq => ?_⟩
      rcases List.eq_nil_or_concat rest with rfl | ⟨rest, c, rfl⟩
      · rw [List.append_nil] at heq
        rw [← heq]
        simpa using h
      · rw [List.concat_eq_append, ← List.append_assoc] at heq
        exact hpost mid rest (List.append_inj_left' heq rfl)
    · refine ⟨as, b, [], rfl, hP, fun mid rest heq => ?_⟩
      obtain ⟨rfl, rfl⟩ := List.append_eq_nil_iff.mp heq.symm
      exact h

end Lib
