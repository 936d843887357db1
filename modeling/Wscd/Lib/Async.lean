import Mathlib.Logic.Relation
import Wscd.Lib.Pool
import Wscd.Lib.Traced

/-!
# Asynchronous calls

An `Async` is a call between two of its sections: it has returned, or its next section changes
the shared state and the call goes on from what the section found. Between two sections the
state is everybody's, so a pool of calls ranges over the interleavings of the calls. Which call
logged an event is kept with the event.

A call is verified on its own against what the others may do: `Meets` is rely and guarantee,
the rely of a call being that every other step keeps the guarantee of its own call.

Results:
1. `toTraced_bind` and its siblings, `run_start_replicate`: a call that nothing interrupts is
   the computation of its sections in order.
2. `Meets.atomic`, `Meets.bind`, `Meets.attemptBind`: the rules for one call.
3. `AllMeet.run`: calls that meet their specifications meet them in every interleaving, which
   goes by guaranteed steps.
-/

namespace Lib

inductive Async (E S ε α : Type) where
  | returned (result : Except ε α)
  | act (effect : S → S × List E) (resume : S → Async E S ε α)

namespace Async

variable {E S ε α β : Type}

protected def bind : Async E S ε α → (α → Async E S ε β) → Async E S ε β
  | returned (.ok a), f => f a
  | returned (.error e), _ => returned (.error e)
  | act effect resume, f => act effect fun s => (resume s).bind f

instance : Monad (Async E S ε) where
  pure a := returned (.ok a)
  bind := Async.bind

/-- One section: a computation that nothing interrupts. -/
def atomic (m : Traced E S ε α) : Async E S ε α :=
  act (fun s => (m s).2) fun s => returned (m s).1

/-- An outcome that needs no section. -/
def lift (r : Except ε α) : Async E S ε α := returned r

/-- The outcome of a call as a value. -/
def attempt : Async E S ε α → Async E S ε (Except ε α)
  | returned r => returned (.ok r)
  | act effect resume => act effect fun s => (resume s).attempt

def result : Async E S ε α → Option (Except ε α)
  | returned r => some r
  | act _ _ => none

/-! ## A call on its own -/

/-- The sections in order, with nothing in between. -/
def toTraced : Async E S ε α → Traced E S ε α
  | returned r => Traced.lift r
  | act effect resume => fun s =>
    let rest := (resume s).toTraced (effect s).1
    (rest.1, rest.2.1, (effect s).2 ++ rest.2.2)

@[simp] theorem toTraced_atomic (m : Traced E S ε α) : (atomic m).toTraced = m := by
  funext s
  show ((m s).1, (m s).2.1, (m s).2.2 ++ []) = m s
  rw [List.append_nil]

@[simp] theorem toTraced_bind (t : Async E S ε α) (f : α → Async E S ε β) :
    (t >>= f).toTraced = t.toTraced >>= fun a => (f a).toTraced := by
  show (t.bind f).toTraced = Traced.bind t.toTraced fun a => (f a).toTraced
  induction t with
  | returned r => cases r <;> rfl
  | act effect resume ih =>
    funext s
    simp only [Async.bind, toTraced, ih, Traced.bind]
    rcases (resume s).toTraced (effect s).1 with ⟨e | a, s', l⟩
    · rfl
    · simp only [List.append_assoc]

/-- Two calls in order, each known on its own. -/
theorem toTraced_bind_eq {t : Async E S ε α} {f : α → Async E S ε β} {m : Traced E S ε α}
    {g : α → Traced E S ε β} (ht : t.toTraced = m) (hf : ∀ a, (f a).toTraced = g a) :
    (t >>= f).toTraced = m >>= g := by
  rw [toTraced_bind, ht]
  exact congrArg _ (funext hf)

@[simp] theorem toTraced_attempt (t : Async E S ε α) :
    t.attempt.toTraced = Traced.attempt t.toTraced := by
  induction t with
  | returned r => rfl
  | act effect resume ih =>
    funext s
    simp only [attempt, toTraced, ih, Traced.attempt]

theorem toTraced_attempt_atomic (m : Traced E S ε α) :
    (attempt (atomic m)).toTraced = Traced.attempt m := by
  rw [toTraced_attempt, toTraced_atomic]

/-! ## Calls that interleave -/

variable {ι : Type}

/-- The state after a section of call `i`, with its events under the name of the call. -/
def enter (i : ι) (effect : S → S × List E) (s : S × List (ι × E)) : S × List (ι × E) :=
  ((effect s.1).1, s.2 ++ (effect s.1).2.map (i, ·))

/-- The next section of a call that knows its name. -/
def step (t : ι × Async E S ε α) (s : S × List (ι × E)) :
    (ι × Async E S ε α) × S × List (ι × E) :=
  match t.2 with
  | returned r => ((t.1, returned r), s)
  | act effect resume => ((t.1, resume s.1), enter t.1 effect s)

/-- The shared state and the log, and the calls. -/
abbrev Calls (ι E S ε α : Type) : Type := Pool ι (ι × Async E S ε α) (S × List (ι × E))

/-- All calls are about to begin. -/
def start (s : S) (calls : ι → Async E S ε α) : Calls ι E S ε α := ⟨(s, []), fun i => (i, calls i)⟩

/-- A call that nothing interrupts is the computation of its sections. -/
theorem alone_eq (i : ι) (t : Async E S ε α) (s : S) (l : List (ι × E)) :
    ∃ n, Pool.alone step n (i, t) (s, l) =
      ((i, returned (t.toTraced s).1), (t.toTraced s).2.1,
        l ++ (t.toTraced s).2.2.map (i, ·)) := by
  induction t generalizing s l with
  | returned r => exact ⟨0, by simp [Pool.alone, toTraced, Traced.lift]⟩
  | act effect resume ih =>
    obtain ⟨n, hn⟩ := ih s (effect s).1 (l ++ (effect s).2.map (i, ·))
    refine ⟨n + 1, ?_⟩
    simp only [Pool.alone, step, enter, hn, toTraced, List.map_append, List.append_assoc]

section Interleaving

variable [DecidableEq ι]

/-- A call that has its sections to itself returns what the computation of them does. -/
theorem run_start_replicate (s : S) (calls : ι → Async E S ε α) (i : ι) :
    ∃ n, (run (Pool.step step) (start s calls) (List.replicate n i)).shared =
        (((calls i).toTraced s).2.1, ((calls i).toTraced s).2.2.map (i, ·)) ∧
      ((run (Pool.step step) (start s calls) (List.replicate n i)).threads i).2 =
        returned ((calls i).toTraced s).1 := by
  obtain ⟨n, hn⟩ := alone_eq i (calls i) s []
  refine ⟨n, ?_⟩
  rw [Pool.run_replicate]
  simp only [start, Function.update_self, hn, List.nil_append, and_self]

theorem step_log (p : Calls ι E S ε α) (i : ι) :
    ∃ l, (p.step step i).shared.2 = p.shared.2 ++ l := by
  unfold Pool.step step
  cases (p.threads i).2 with
  | returned r => exact ⟨[], (List.append_nil _).symm⟩
  | act effect resume => exact ⟨_, rfl⟩

/-- The events of call `i`. -/
def eventsOf (i : ι) (log : List (ι × E)) : List E :=
  log.filterMap fun e => if e.1 = i then some e.2 else none

theorem mem_eventsOf {i : ι} {log : List (ι × E)} {e : E} :
    e ∈ eventsOf i log ↔ (i, e) ∈ log := by
  simp [eventsOf, List.mem_filterMap]

theorem eventsOf_append (i : ι) (l₁ l₂ : List (ι × E)) :
    eventsOf i (l₁ ++ l₂) = eventsOf i l₁ ++ eventsOf i l₂ := List.filterMap_append

@[simp] theorem eventsOf_self (i : ι) (l : List E) : eventsOf i (l.map (i, ·)) = l := by
  induction l with
  | nil => rfl
  | cons e l ih =>
    rw [List.map_cons, eventsOf]
    refine (List.filterMap_cons_some (b := e) ?_).trans (congrArg (e :: ·) ih)
    exact if_pos rfl

@[simp] theorem eventsOf_of_ne {i j : ι} (h : j ≠ i) (l : List E) :
    eventsOf j (l.map (i, ·)) = [] := by
  refine List.filterMap_eq_nil_iff.mpr fun e he => ?_
  obtain ⟨_, -, rfl⟩ := List.mem_map.mp he
  exact if_neg h.symm

/-- A run only adds to the log. -/
theorem run_log (p : Calls ι E S ε α) (schedule : List ι) :
    ∃ l, (run (Pool.step step) p schedule).shared.2 = p.shared.2 ++ l := by
  induction schedule generalizing p with
  | nil => exact ⟨[], (List.append_nil _).symm⟩
  | cons i schedule ih =>
    obtain ⟨l, hl⟩ := step_log p i
    obtain ⟨l', hl'⟩ := ih (p.step step i)
    exact ⟨l ++ l', by rw [run_cons, hl', hl, List.append_assoc]⟩

end Interleaving

/-! ## Rely and guarantee -/

section Logic

-- `A` is what is assumed of the log; `G i` relates the states around a section of call `i`
variable (A : List (ι × E) → Prop) (G : ι → S × List (ι × E) → S × List (ι × E) → Prop) (i : ι)

/-- A step of another call, which keeps its guarantee. -/
def Others (s s' : S × List (ι × E)) : Prop := A s'.2 ∧ ∃ j, j ≠ i ∧ G j s s'

/-- What the others do not change. -/
def Stable (P : S × List (ι × E) → Prop) : Prop := ∀ s s', Others A G i s s' → P s → P s'

/-- Whatever the others do in between, every section of the call keeps its guarantee and the
call returns what satisfies `Q`, and goes on doing so. -/
def Meets : Async E S ε α → (Except ε α → S × List (ι × E) → Prop) → S × List (ι × E) → Prop
  | returned r, Q, s => ∀ s', Relation.ReflTransGen (Others A G i) s s' → Q r s'
  | act effect resume, Q, s => ∀ s', Relation.ReflTransGen (Others A G i) s s' →
    A (enter i effect s').2 →
      G i s' (enter i effect s') ∧ (resume s'.1).Meets Q (enter i effect s')

variable {A G i} {P : S × List (ι × E) → Prop} {s : S × List (ι × E)}
  {Q Q' : Except ε α → S × List (ι × E) → Prop} {t : Async E S ε α}

theorem Stable.star (hP : Stable A G i P) {s' : S × List (ι × E)}
    (h : Relation.ReflTransGen (Others A G i) s s') (hs : P s) : P s' := by
  induction h with
  | refl => exact hs
  | tail _ hstep ih => exact hP _ _ hstep ih

theorem Meets.ofReturned {r : Except ε α} (hQ : Stable A G i (Q r)) (h : Q r s) :
    (returned r).Meets A G i Q s := fun _ hs' => hQ.star hs' h

/-- One section: what it does in every state the others may leave it. -/
theorem Meets.atomic {m : Traced E S ε α} (hP : Stable A G i P) (hQ : ∀ r, Stable A G i (Q r))
    (h : ∀ s, P s → A (enter i (fun s => (m s).2) s).2 →
      G i s (enter i (fun s => (m s).2) s) ∧ Q (m s.1).1 (enter i (fun s => (m s).2) s))
    (hs : P s) : (atomic m).Meets A G i Q s := by
  intro s' hs' hA
  obtain ⟨hG, hq⟩ := h s' (hP.star hs' hs) hA
  exact ⟨hG, .ofReturned (hQ _) hq⟩

theorem Meets.imp (h : t.Meets A G i Q s) (hQ : ∀ r s, Q r s → Q' r s) :
    t.Meets A G i Q' s := by
  induction t generalizing s with
  | returned r => exact fun s' hs' => hQ _ _ (h s' hs')
  | act effect resume ih =>
    intro s' hs' hA
    obtain ⟨hG, hrest⟩ := h s' hs' hA
    exact ⟨hG, ih _ hrest⟩

theorem Meets.bind {f : α → Async E S ε β} {R : Except ε β → S × List (ι × E) → Prop}
    (h : t.Meets A G i Q s) (hok : ∀ a s, Q (.ok a) s → (f a).Meets A G i R s)
    (herror : ∀ e s, Q (.error e) s → R (.error e) s) : (t >>= f).Meets A G i R s := by
  show (t.bind f).Meets A G i R s
  induction t generalizing s with
  | returned r =>
    cases r with
    | ok a => exact hok a s (h s .refl)
    | error e => exact fun s' hs' => herror e s' (h s' hs')
  | act effect resume ih =>
    intro s' hs' hA
    obtain ⟨hG, hrest⟩ := h s' hs' hA
    exact ⟨hG, ih _ hrest⟩

/-- What needs no section is looked at at once. -/
theorem Meets.liftBind {r : Except ε α} {f : α → Async E S ε β}
    {R : Except ε β → S × List (ι × E) → Prop} (hok : ∀ a, r = .ok a → (f a).Meets A G i R s)
    (herror : ∀ e, r = .error e → (returned (.error e) : Async E S ε β).Meets A G i R s) :
    (lift r >>= f).Meets A G i R s := by
  cases r with
  | ok a => exact hok a rfl
  | error e => exact herror e rfl

theorem Meets.attempt {R : Except ε (Except ε α) → S × List (ι × E) → Prop}
    (h : t.Meets A G i (fun r => R (.ok r)) s) : t.attempt.Meets A G i R s := by
  induction t generalizing s with
  | returned r => exact h
  | act effect resume ih =>
    intro s' hs' hA
    obtain ⟨hG, hrest⟩ := h s' hs' hA
    exact ⟨hG, ih _ hrest⟩

/-- A call whose outcome is looked at. -/
theorem Meets.attemptBind {f : Except ε α → Async E S ε β}
    {R : Except ε β → S × List (ι × E) → Prop} (h : t.Meets A G i Q s)
    (hf : ∀ r s, Q r s → (f r).Meets A G i R s) : (t.attempt >>= f).Meets A G i R s := by
  refine Meets.bind (Q := fun r s => ∃ r', r = .ok r' ∧ Q r' s) ?_ ?_ ?_
  · exact .attempt (h.imp fun r _ hr => ⟨r, rfl, hr⟩)
  · rintro r s ⟨_, ⟨⟩, hr⟩
    exact hf r s hr
  · rintro e s ⟨_, ⟨⟩, -⟩

/-- The others' steps are among those a call has been verified against. -/
theorem Meets.weaken {s' : S × List (ι × E)} (h : t.Meets A G i Q s)
    (hs' : Relation.ReflTransGen (Others A G i) s s') : t.Meets A G i Q s' := by
  cases t with
  | returned r => exact fun s'' hs'' => h s'' (hs'.trans hs'')
  | act effect resume => exact fun s'' hs'' => h s'' (hs'.trans hs'')

/-! ## Every interleaving -/

/-- Every call goes by its own name and meets its specification from here on. -/
def AllMeet (A : List (ι × E) → Prop) (G : ι → S × List (ι × E) → S × List (ι × E) → Prop)
    (R : ι → Except ε α → S × List (ι × E) → Prop) (p : Calls ι E S ε α) : Prop :=
  ∀ i, (p.threads i).1 = i ∧ (p.threads i).2.Meets A G i (R i) p.shared

variable {p : Calls ι E S ε α} {R : ι → Except ε α → S × List (ι × E) → Prop}

/-- What a call has returned satisfies its specification. -/
theorem AllMeet.result (h : AllMeet A G R p) {r : Except ε α}
    (hr : (p.threads i).2.result = some r) : R i r p.shared := by
  obtain ⟨-, hi⟩ := h i
  cases ht : (p.threads i).2 with
  | returned r' =>
    rw [ht] at hr hi
    cases hr
    exact hi p.shared .refl
  | act effect resume =>
    rw [ht] at hr
    cases hr

variable [DecidableEq ι]

/-- The calls still meet their specifications after a step, which is a guaranteed one. -/
theorem AllMeet.next (h : AllMeet A G R p) (hA : A (p.step step i).shared.2) :
    AllMeet A G R (p.step step i) ∧
      ((p.step step i).shared = p.shared ∨ G i p.shared (p.step step i).shared) := by
  obtain ⟨hname, hi⟩ := h i
  cases ht : (p.threads i).2 with
  | returned r =>
    have hstep : p.step step i = p := by
      unfold Pool.step step
      rw [ht]
      dsimp only
      rw [show ((p.threads i).1, returned r) = p.threads i from Prod.ext rfl ht.symm,
        Function.update_eq_self]
    rw [hstep]
    exact ⟨h, .inl rfl⟩
  | act effect resume =>
    have hout : step (p.threads i) p.shared =
        ((i, resume p.shared.1), enter i effect p.shared) := by
      unfold step
      rw [ht, hname]
    have hshared : (p.step step i).shared = enter i effect p.shared := by
      show (step (p.threads i) p.shared).2 = _
      rw [hout]
    rw [ht] at hi
    rw [hshared] at hA
    obtain ⟨hG, hrest⟩ := hi p.shared .refl hA
    refine ⟨fun j => ?_, .inr (by rwa [hshared])⟩
    rw [hshared]
    rcases eq_or_ne j i with rfl | hne
    · rw [Pool.step_threads_self, hout]
      exact ⟨rfl, hrest⟩
    · rw [Pool.step_threads_of_ne hne]
      exact ⟨(h j).1, (h j).2.weaken (.single ⟨hA, i, hne.symm, hG⟩)⟩

/-- Calls that meet their specifications meet them in every interleaving, as long as what is
assumed of the log holds at the end; and every state is reached by guaranteed steps. -/
theorem AllMeet.run (hA : ∀ l l', A (l ++ l') → A l) (h : AllMeet A G R p) (schedule : List ι)
    (hend : A (run (Pool.step step) p schedule).shared.2) :
    AllMeet A G R (run (Pool.step step) p schedule) ∧
      Relation.ReflTransGen (fun s s' => A s'.2 ∧ ∃ i, G i s s') p.shared
        (run (Pool.step step) p schedule).shared := by
  induction schedule generalizing p with
  | nil => exact ⟨h, .refl⟩
  | cons i schedule ih =>
    rw [run_cons] at hend ⊢
    obtain ⟨l, hl⟩ := run_log (p.step step i) schedule
    have hnext : A (p.step step i).shared.2 := by
      rw [hl] at hend
      exact hA _ _ hend
    obtain ⟨hmeet, hstep⟩ := h.next hnext
    obtain ⟨hall, hreached⟩ := ih hmeet hend
    refine ⟨hall, ?_⟩
    rcases hstep with hshared | hG
    · rwa [hshared] at hreached
    · exact .head ⟨hnext, i, hG⟩ hreached

end Logic

end Async

end Lib
