import Mathlib.Logic.Function.Basic
import Wscd.Lib.Run

/-!
# Threads over a shared state

A thread's next atomic step is a function of the thread and of the shared state. A pool is
the shared state and the threads; a schedule names the thread that takes the next step, so
`run (Pool.step f)` ranges over the interleavings.

Results:
1. `Pool.run_replicate`: a thread that runs alone.
2. `Pool.kept_by_step`, `Pool.held_before_step`: a property of threads across a step, from
   what happens to the stepping thread.
3. `Pool.Exclusive.step`: a lock that is only taken when it is free has one holder.
-/

namespace Lib

structure Pool (ι T S : Type) where
  shared : S
  threads : ι → T

namespace Pool

variable {ι T S : Type} [DecidableEq ι]

/-- Thread `i` takes a step. -/
def step (f : T → S → T × S) (p : Pool ι T S) (i : ι) : Pool ι T S where
  shared := (f (p.threads i) p.shared).2
  threads := Function.update p.threads i (f (p.threads i) p.shared).1

/-- A thread on its own, for `n` steps. -/
def alone (f : T → S → T × S) : Nat → T → S → T × S
  | 0, t, s => (t, s)
  | n + 1, t, s => alone f n (f t s).1 (f t s).2

variable {f : T → S → T × S} {p : Pool ι T S} {i : ι}

/-- Thread `i` scheduled `n` times in a row runs alone. -/
theorem run_replicate (n : Nat) (p : Pool ι T S) (i : ι) :
    run (step f) p (List.replicate n i) =
      ⟨(alone f n (p.threads i) p.shared).2,
        Function.update p.threads i (alone f n (p.threads i) p.shared).1⟩ := by
  induction n generalizing p with
  | zero => rw [List.replicate_zero, run_nil, alone, Function.update_eq_self]
  | succ n ih =>
    rw [List.replicate_succ, run_cons, ih]
    simp [step, alone]

@[simp] theorem step_threads_self : (p.step f i).threads i = (f (p.threads i) p.shared).1 :=
  Function.update_self ..

theorem step_threads_of_ne {j : ι} (h : j ≠ i) : (p.step f i).threads j = p.threads j :=
  Function.update_of_ne h ..

/-- What the stepping thread keeps, every thread keeps. -/
theorem kept_by_step {Q : T → Prop} (hQ : Q (p.threads i) → Q (f (p.threads i) p.shared).1)
    (j : ι) (h : Q (p.threads j)) : Q ((p.step f i).threads j) := by
  rcases eq_or_ne j i with rfl | hne
  · rw [step_threads_self]
    exact hQ h
  · rwa [step_threads_of_ne hne]

/-- What holds of a thread after the step held of it before, if this is so for the stepping
thread. -/
theorem held_before_step {Q : T → Prop}
    (hQ : Q (f (p.threads i) p.shared).1 → Q (p.threads i)) (j : ι)
    (h : Q ((p.step f i).threads j)) : Q (p.threads j) := by
  rcases eq_or_ne j i with rfl | hne
  · rw [step_threads_self] at h
    exact hQ h
  · rwa [step_threads_of_ne hne] at h

/-- At most one thread `holds` the lock, and only while it is `locked`. -/
structure Exclusive (holds : T → Prop) (locked : S → Prop) (p : Pool ι T S) : Prop where
  taken : ∀ i, holds (p.threads i) → locked p.shared
  unique : ∀ i j, holds (p.threads i) → holds (p.threads j) → i = j

/-- A thread takes the lock only when it is free, and has it then; only the holder frees it. -/
theorem Exclusive.step {holds : T → Prop} {locked : S → Prop} (h : Exclusive holds locked p)
    (htakes : holds (f (p.threads i) p.shared).1 → ¬ holds (p.threads i) → ¬ locked p.shared)
    (hhas : holds (f (p.threads i) p.shared).1 → locked (f (p.threads i) p.shared).2)
    (hfrees : ¬ holds (p.threads i) → locked p.shared → locked (f (p.threads i) p.shared).2) :
    Exclusive holds locked (p.step f i) := by
  -- a holder other than the stepping thread keeps the stepping thread out
  have hother : ∀ j, j ≠ i → holds (p.threads j) →
      ¬ holds (f (p.threads i) p.shared).1 ∧ locked (f (p.threads i) p.shared).2 := by
    intro j hne hj
    have hi : ¬ holds (p.threads i) := fun hi => hne (h.unique j i hj hi)
    exact ⟨fun hi' => htakes hi' hi (h.taken j hj), hfrees hi (h.taken j hj)⟩
  constructor
  · intro j hj
    rcases eq_or_ne j i with rfl | hne
    · rw [step_threads_self] at hj
      exact hhas hj
    · rw [step_threads_of_ne hne] at hj
      exact (hother j hne hj).2
  · intro j k hj hk
    rcases eq_or_ne j i with rfl | hj'
    · rcases eq_or_ne k j with rfl | hk'
      · rfl
      · rw [step_threads_self] at hj
        rw [step_threads_of_ne hk'] at hk
        exact absurd hj (hother k hk' hk).1
    · rw [step_threads_of_ne hj'] at hj
      rcases eq_or_ne k i with rfl | hk'
      · rw [step_threads_self] at hk
        exact absurd hk (hother j hj' hj).1
      · rw [step_threads_of_ne hk'] at hk
        exact h.unique j k hj hk

end Pool

end Lib
