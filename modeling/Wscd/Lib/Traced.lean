/-!
# Computations that log what they ask

A computation of type `Traced E S ε α` runs in a state `S`, ends with a value or an error,
and logs an event `E` for everything it asks the outside. The state is what the outside may
change at every question, so a statement about all states is one about all its behaviours,
and the log is what a run did.

Results:
1. `bind_ok_iff` and its siblings: a run that ends with a value, taken apart along its steps,
   the log with it.
2. `Lifts.bind`: a part of the state that is left alone.
3. `Follows.bind`: a part of the state that goes along with the log.
4. `everywhere_append`: what is true of every event of a log by what comes before it and after.
5. `Logs.bind`: what is true of every event a computation logs.
6. `Maintains.bind`: what is true of the state before and after.
7. `PassesOn.bind`: errors raised outside that a computation ends with.
-/

namespace Lib

def Traced (E S ε α : Type) : Type := S → Except ε α × S × List E

namespace Traced

variable {E S ε α β : Type}

protected def pure (a : α) : Traced E S ε α := fun s => (.ok a, s, [])

protected def bind (x : Traced E S ε α) (f : α → Traced E S ε β) : Traced E S ε β := fun s =>
  match x s with
  | (.ok a, s', l) => ((f a s').1, (f a s').2.1, l ++ (f a s').2.2)
  | (.error e, s', l) => (.error e, s', l)

instance : Monad (Traced E S ε) where
  pure := Traced.pure
  bind := Traced.bind

/-- An outcome that does not depend on the outside. -/
def lift (r : Except ε α) : Traced E S ε α := fun s => (r, s, [])

/-- A question to the outside, logged with its answer. -/
def ask (f : S → Except ε α × S) (event : Except ε α → E) : Traced E S ε α := fun s =>
  ((f s).1, (f s).2, [event (f s).1])

/-- A question that always has an answer. -/
def draw (f : S → α × S) (event : α → E) : Traced E S ε α := fun s =>
  (.ok (f s).1, (f s).2, [event (f s).1])

/-- Something done to the outside that leaves no trace. -/
def modify (f : S → S) : Traced E S ε Unit := fun s => (.ok (), f s, [])

/-- Something done to the outside that has a result and leaves no trace. -/
def update (f : S → α × S) : Traced E S ε α := fun s => (.ok (f s).1, (f s).2, [])

/-- The state, read. -/
def get (f : S → α) : Traced E S ε α := fun s => (.ok (f s), s, [])

/-- The outcome of a computation as a value. -/
def attempt (x : Traced E S ε α) : Traced E S ε (Except ε α) := fun s =>
  (.ok (x s).1, (x s).2)

/-- A computation on a state with a part of its own, which starts as `t` and is handed back. -/
def withLocal {T : Type} (t : T) (x : Traced E (S × T) ε α) : Traced E S ε (α × T) := fun s =>
  ((x (s, t)).1.map fun a => (a, (x (s, t)).2.1.2), (x (s, t)).2.1.1, (x (s, t)).2.2)

/-- A computation on the first part of a state, its events under the name `event`. -/
def embed {E' T : Type} (event : E → E') (x : Traced E S ε α) : Traced E' (S × T) ε α := fun s =>
  ((x s.1).1, ((x s.1).2.1, s.2), (x s.1).2.2.map event)

variable {s s' : S} {l : List E} {x : Traced E S ε α} {f : α → Traced E S ε β} {a : α} {b : β}

theorem bind_ok_iff :
    (x >>= f) s = (.ok b, s', l) ↔
      ∃ a s₁ l₁ l₂, x s = (.ok a, s₁, l₁) ∧ f a s₁ = (.ok b, s', l₂) ∧ l = l₁ ++ l₂ := by
  show Traced.bind x f s = _ ↔ _
  unfold Traced.bind
  constructor
  · intro h
    rcases hx : x s with ⟨e | a, s₁, l₁⟩
    · simp [hx] at h
    · simp only [hx, Prod.mk.injEq] at h
      obtain ⟨hb, hs, rfl⟩ := h
      exact ⟨a, s₁, l₁, _, rfl, by rw [← hb, ← hs], rfl⟩
  · rintro ⟨a, s₁, l₁, l₂, hx, hf, rfl⟩
    rw [hx]
    simp only [hf]

/-- A run ends in its first step, with an error, or goes on from its value. -/
theorem bind_cases {r : Except ε β} (h : (x >>= f) s = (r, s', l)) :
    (∃ e, r = .error e ∧ x s = (.error e, s', l)) ∨
      ∃ a s₁ l₁ l₂, x s = (.ok a, s₁, l₁) ∧ f a s₁ = (r, s', l₂) ∧ l = l₁ ++ l₂ := by
  have h : Traced.bind x f s = _ := h
  unfold Traced.bind at h
  rcases hx : x s with ⟨e | a, s₁, l₁⟩
  · rw [hx] at h
    obtain ⟨rfl, rfl, rfl⟩ : _ ∧ _ ∧ _ := by simpa [eq_comm] using h
    exact .inl ⟨e, rfl, rfl⟩
  · rw [hx] at h
    simp only [Prod.mk.injEq] at h
    obtain ⟨hr, hs, rfl⟩ := h
    exact .inr ⟨a, s₁, l₁, _, rfl, Prod.ext hr (Prod.ext hs rfl), rfl⟩

/-- A first step that never fails is gone through. -/
theorem bind_cases_of_total {r : Except ε β} (hx : ∀ s, ∃ a, (x s).1 = .ok a)
    (h : (x >>= f) s = (r, s', l)) :
    ∃ a s₁ l₁ l₂, x s = (.ok a, s₁, l₁) ∧ f a s₁ = (r, s', l₂) ∧ l = l₁ ++ l₂ := by
  rcases bind_cases h with ⟨e, -, herror⟩ | hgoes
  · obtain ⟨a, ha⟩ := hx s
    rw [herror] at ha
    cases ha
  · exact hgoes

theorem bind_of_ok {s₁ : S} {l₁ : List E} {r : Except ε β} (hx : x s = (.ok a, s₁, l₁))
    (hf : f a s₁ = (r, s', l)) : (x >>= f) s = (r, s', l₁ ++ l) := by
  show Traced.bind x f s = _
  unfold Traced.bind
  rw [hx]
  dsimp only
  rw [hf]

theorem bind_of_error {e : ε} (hx : x s = (.error e, s', l)) :
    (x >>= f) s = (.error e, s', l) := by
  show Traced.bind x f s = _
  unfold Traced.bind
  rw [hx]

/-- What has a value goes on with it. -/
theorem lift_ok_bind (a : α) (f : α → Traced E S ε β) :
    ((lift (.ok a) : Traced E S ε α) >>= f) = f a := rfl

theorem pure_ok_iff {a' : α} :
    (pure a : Traced E S ε α) s = (.ok a', s', l) ↔ a = a' ∧ s = s' ∧ l = [] := by
  show (Except.ok a, s, ([] : List E)) = _ ↔ _
  simp [eq_comm]

theorem pure_cases {r : Except ε α} (h : (pure a : Traced E S ε α) s = (r, s', l)) :
    r = .ok a ∧ s' = s ∧ l = [] := by
  cases h
  exact ⟨rfl, rfl, rfl⟩

/-- A last step that only renames the value. -/
theorem bind_pure_cases {g : α → β} {r : Except ε β}
    (h : (x >>= fun a => pure (g a)) s = (r, s', l)) : ∃ r₀, x s = (r₀, s', l) ∧ r = r₀.map g := by
  rcases bind_cases h with ⟨e, rfl, hx⟩ | ⟨a, s₁, l₁, l₂, hx, hpure, rfl⟩
  · exact ⟨.error e, hx, rfl⟩
  · obtain ⟨rfl, rfl, rfl⟩ := pure_cases hpure
    exact ⟨.ok a, by rw [List.append_nil, hx], rfl⟩

theorem lift_cases {r r' : Except ε α} (h : (lift r' : Traced E S ε α) s = (r, s', l)) :
    r = r' ∧ s' = s ∧ l = [] := by
  cases h
  exact ⟨rfl, rfl, rfl⟩

theorem ask_cases {g : S → Except ε α × S} {event : Except ε α → E} {r : Except ε α}
    (h : ask g event s = (r, s', l)) : g s = (r, s') ∧ l = [event r] := by
  cases h
  exact ⟨rfl, rfl⟩

theorem modify_cases {g : S → S} {r : Except ε Unit}
    (h : (modify g : Traced E S ε Unit) s = (r, s', l)) : r = .ok () ∧ s' = g s ∧ l = [] := by
  cases h
  exact ⟨rfl, rfl, rfl⟩

theorem draw_cases {g : S → α × S} {event : α → E} {r : Except ε α}
    (h : (draw g event : Traced E S ε α) s = (r, s', l)) :
    r = .ok (g s).1 ∧ s' = (g s).2 ∧ l = [event (g s).1] := by
  cases h
  exact ⟨rfl, rfl, rfl⟩

theorem embed_cases {E' T : Type} {event : E → E'} {r : Except ε α} {t : S × T} {t' : S × T}
    {l' : List E'} (h : embed event x t = (r, t', l')) :
    ∃ l, x t.1 = (r, t'.1, l) ∧ t'.2 = t.2 ∧ l' = l.map event := by
  cases h
  exact ⟨_, rfl, rfl, rfl⟩

theorem lift_ok_iff {r : Except ε α} :
    (lift r : Traced E S ε α) s = (.ok a, s', l) ↔ r = .ok a ∧ s = s' ∧ l = [] := by
  show (r, s, ([] : List E)) = _ ↔ _
  simp [eq_comm]

theorem ask_ok_iff {g : S → Except ε α × S} {event : Except ε α → E} :
    ask g event s = (.ok a, s', l) ↔ g s = (.ok a, s') ∧ l = [event (.ok a)] := by
  unfold ask
  constructor
  · intro h
    simp only [Prod.mk.injEq] at h
    obtain ⟨ha, hs, rfl⟩ := h
    exact ⟨Prod.ext ha hs, by rw [ha]⟩
  · rintro ⟨hg, rfl⟩
    rw [hg]

theorem draw_ok_iff {g : S → α × S} {event : α → E} :
    (draw g event : Traced E S ε α) s = (.ok a, s', l) ↔ g s = (a, s') ∧ l = [event a] := by
  unfold draw
  constructor
  · intro h
    simp only [Prod.mk.injEq, Except.ok.injEq] at h
    obtain ⟨ha, hs, rfl⟩ := h
    exact ⟨Prod.ext ha hs, by rw [ha]⟩
  · rintro ⟨hg, rfl⟩
    rw [hg]

theorem modify_ok_iff {g : S → S} :
    (modify g : Traced E S ε Unit) s = (.ok (), s', l) ↔ g s = s' ∧ l = [] := by
  unfold modify
  simp [eq_comm]

theorem update_ok_iff {g : S → α × S} :
    (update g : Traced E S ε α) s = (.ok a, s', l) ↔ g s = (a, s') ∧ l = [] := by
  unfold update
  rcases g s with ⟨a', s₁⟩
  simp [eq_comm, and_assoc]

theorem get_ok_iff {g : S → α} :
    (get g : Traced E S ε α) s = (.ok a, s', l) ↔ g s = a ∧ s = s' ∧ l = [] := by
  unfold get
  simp [eq_comm]

theorem attempt_ok_iff {r : Except ε α} :
    attempt x s = (.ok r, s', l) ↔ x s = (r, s', l) := by
  unfold attempt
  rcases x s with ⟨r', s₁, l₁⟩
  simp

theorem withLocal_ok_iff {T : Type} {t t' : T} {y : Traced E (S × T) ε α} :
    withLocal t y s = (.ok (a, t'), s', l) ↔ y (s, t) = (.ok a, (s', t'), l) := by
  unfold withLocal
  rcases y (s, t) with ⟨e | a', ⟨s₁, t₁⟩, l₁⟩
  · simp [Except.map]
  · simp only [Except.map, Prod.mk.injEq, Except.ok.injEq]
    exact ⟨fun ⟨⟨ha, ht⟩, hs, hl⟩ => ⟨ha, ⟨hs, ht⟩, hl⟩,
      fun ⟨ha, ⟨hs, ht⟩, hl⟩ => ⟨⟨ha, ht⟩, hs, hl⟩⟩

theorem withLocal_of_error {T : Type} {t t' : T} {y : Traced E (S × T) ε α} {e : ε}
    (h : y (s, t) = (.error e, (s', t'), l)) : withLocal t y s = (.error e, s', l) := by
  unfold withLocal
  rw [h]
  rfl

/-! ## A part of the state that is left alone -/

/-- `x` does on the first part of its state what `y` does, and leaves the second alone. -/
def Lifts {T : Type} (x : Traced E (S × T) ε α) (y : Traced E S ε α) : Prop :=
  ∀ s t, x (s, t) = ((y s).1, ((y s).2.1, t), (y s).2.2)

theorem Lifts.bind {T : Type} {x : Traced E (S × T) ε α} {y : Traced E S ε α}
    {f : α → Traced E (S × T) ε β} {g : α → Traced E S ε β} (hx : Lifts x y)
    (hf : ∀ a, Lifts (f a) (g a)) : Lifts (x >>= f) (y >>= g) := by
  intro s t
  have hxs := hx s t
  rcases hy : y s with ⟨e | a, s₁, l₁⟩
  · rw [hy] at hxs
    rw [bind_of_error hxs, bind_of_error hy]
  · rw [hy] at hxs
    rw [bind_of_ok hxs (hf a s₁ t), bind_of_ok hy rfl]

/-! ## A part of the state that follows the log -/

/-- The part `g` of the state goes with `f` along the events logged. -/
def Follows {T : Type} (g : S → T) (f : T → E → T) (x : Traced E S ε α) : Prop :=
  ∀ s, g (x s).2.1 = (x s).2.2.foldl f (g s)

section Follows

variable {T : Type} {g : S → T} {step : T → E → T}

theorem follows_of_unchanged (hstate : ∀ s, g (x s).2.1 = g s)
    (hlog : ∀ s, ∀ e ∈ (x s).2.2, ∀ t, step t e = t) : Follows g step x := by
  intro s
  have hfold : ∀ (l : List E) (t : T), (∀ e ∈ l, ∀ t, step t e = t) → l.foldl step t = t := by
    intro l
    induction l with
    | nil =>
      intro t _
      rfl
    | cons e l ih =>
      intro t hl
      rw [List.foldl_cons, hl e List.mem_cons_self t]
      exact ih t fun e' he' => hl e' (List.mem_cons_of_mem e he')
  rw [hstate, hfold _ _ (hlog s)]

theorem follows_of_silent (hstate : ∀ s, g (x s).2.1 = g s) (hlog : ∀ s, (x s).2.2 = []) :
    Follows g step x := by
  intro s
  rw [hstate, hlog]
  rfl

theorem Follows.bind (hx : Follows g step x) (hf : ∀ a, Follows g step (f a)) :
    Follows g step (x >>= f) := by
  intro s
  show g (Traced.bind x f s).2.1 = (Traced.bind x f s).2.2.foldl step (g s)
  have hs := hx s
  unfold Traced.bind
  rcases hxs : x s with ⟨e | a, s₁, l₁⟩
  · rw [hxs] at hs
    exact hs
  · rw [hxs] at hs
    dsimp only at hs ⊢
    rw [hf a s₁, hs, List.foldl_append]

theorem follows_pure (a : α) : Follows g step (pure a : Traced E S ε α) :=
  follows_of_silent (fun _ => rfl) fun _ => rfl

theorem follows_lift (r : Except ε α) : Follows g step (lift r : Traced E S ε α) :=
  follows_of_silent (fun _ => rfl) fun _ => rfl

theorem follows_get (h : S → α) : Follows g step (get h : Traced E S ε α) :=
  follows_of_silent (fun _ => rfl) fun _ => rfl

theorem Follows.attempt (hx : Follows g step x) : Follows g step (attempt x) := hx

end Follows

/-! ## Where in a log an event stands -/

/-- Every event of `l` has the property, by what was logged before it and after it. -/
def Everywhere (P : List E → E → List E → Prop) (l : List E) : Prop :=
  ∀ before e after, l = before ++ e :: after → P before e after

section Everywhere

variable {P : List E → E → List E → Prop}

theorem everywhere_nil : Everywhere P [] := by
  intro before e after h
  simp at h

theorem everywhere_cons {e : E} :
    Everywhere P (e :: l) ↔ P [] e l ∧ Everywhere (fun before => P (e :: before)) l := by
  constructor
  · intro h
    refine ⟨h [] e l rfl, fun before e' after hl => ?_⟩
    exact h (e :: before) e' after (by rw [hl, List.cons_append])
  · rintro ⟨hfirst, hrest⟩ before e' after hl
    cases before with
    | nil =>
      obtain ⟨rfl, rfl⟩ := List.cons.inj hl
      exact hfirst
    | cons e₁ before =>
      obtain ⟨rfl, hrest'⟩ := List.cons.inj hl
      exact hrest before e' after hrest'

theorem everywhere_append {l₁ l₂ : List E} :
    Everywhere P (l₁ ++ l₂) ↔
      Everywhere (fun before e after => P before e (after ++ l₂)) l₁ ∧
        Everywhere (fun before => P (l₁ ++ before)) l₂ := by
  induction l₁ generalizing P with
  | nil => simp [everywhere_nil]
  | cons e l₁ ih => simp only [List.cons_append, everywhere_cons, ih, and_assoc]

end Everywhere

/-! ## What a log consists of -/

/-- Whatever the state, every event logged has the property. -/
def Logs (P : E → Prop) (x : Traced E S ε α) : Prop := ∀ s, ∀ e ∈ (x s).2.2, P e

section Logs

variable {P : E → Prop}

theorem logs_of_silent (h : ∀ s, (x s).2.2 = []) : Logs P x := by
  intro s e he
  rw [h] at he
  exact absurd he List.not_mem_nil

theorem Logs.bind (hx : Logs P x) (hf : ∀ a, Logs P (f a)) : Logs P (x >>= f) := by
  intro s
  show ∀ e ∈ (Traced.bind x f s).2.2, P e
  have hs := hx s
  unfold Traced.bind
  rcases hxs : x s with ⟨e | a, s₁, l₁⟩
  · rw [hxs] at hs
    exact hs
  · rw [hxs] at hs
    intro e he
    rcases List.mem_append.mp he with he | he
    · exact hs e he
    · exact hf a s₁ e he

theorem Logs.attempt (hx : Logs P x) : Logs P (attempt x) := hx

end Logs

/-! ## What a computation maintains of the state -/

/-- If the state is as `I` says before, it is after. -/
def Maintains (I : S → Prop) (x : Traced E S ε α) : Prop := ∀ s, I s → I (x s).2.1

section Maintains

variable {I : S → Prop}

theorem Maintains.bind (hx : Maintains I x) (hf : ∀ a, Maintains I (f a)) :
    Maintains I (x >>= f) := by
  intro s hs
  show I (Traced.bind x f s).2.1
  have hs₁ := hx s hs
  unfold Traced.bind
  rcases hxs : x s with ⟨e | a, s₁, l₁⟩
  · rw [hxs] at hs₁
    exact hs₁
  · rw [hxs] at hs₁
    exact hf a s₁ hs₁

theorem Maintains.attempt (hx : Maintains I x) : Maintains I (attempt x) := hx

theorem maintains_pure (a : α) : Maintains I (pure a : Traced E S ε α) := fun _ h => h

theorem maintains_lift (r : Except ε α) : Maintains I (lift r : Traced E S ε α) := fun _ h => h

theorem maintains_get (g : S → α) : Maintains I (get g : Traced E S ε α) := fun _ h => h

end Maintains

/-! ## Errors from outside that are passed on -/

/-- The part `g` of the state is left alone. -/
def Keeps {T : Type} (g : S → T) (x : Traced E S ε α) : Prop := ∀ s, g (x s).2.1 = g s

/-- The list `g` of what the outside has raised grows by one at most, and where it does the
computation ends with that as its error, under `err`. -/
def PassesOn {R : Type} (g : S → List R) (err : R → ε) (x : Traced E S ε α) : Prop :=
  ∀ s, g (x s).2.1 = g s ∨ ∃ r, g (x s).2.1 = g s ++ [r] ∧ (x s).1 = .error (err r)

section PassesOn

variable {T R : Type} {h : S → T} {g : S → List R} {err : R → ε}

theorem Keeps.bind (hx : Keeps h x) (hf : ∀ a, Keeps h (f a)) : Keeps h (x >>= f) := by
  intro s
  show h (Traced.bind x f s).2.1 = h s
  have hs := hx s
  unfold Traced.bind
  rcases hxs : x s with ⟨e | a, s₁, l₁⟩
  · rw [hxs] at hs
    exact hs
  · rw [hxs] at hs
    exact (hf a s₁).trans hs

theorem Keeps.attempt (hx : Keeps h x) : Keeps h (attempt x) := hx

theorem Keeps.passesOn (hx : Keeps g x) : PassesOn g err x := fun s => .inl (hx s)

/-- An error that was raised ends the computation there. -/
theorem PassesOn.bind (hx : PassesOn g err x) (hf : ∀ a, PassesOn g err (f a)) :
    PassesOn g err (x >>= f) := by
  intro s
  show g (Traced.bind x f s).2.1 = g s ∨ ∃ r, g (Traced.bind x f s).2.1 = g s ++ [r] ∧
    (Traced.bind x f s).1 = .error (err r)
  unfold Traced.bind
  rcases hxs : x s with ⟨e | a, s₁, l₁⟩
  · rcases hx s with hs | ⟨r, hs, herror⟩
    · rw [hxs] at hs
      exact .inl hs
    · rw [hxs] at hs herror
      exact .inr ⟨r, hs, congrArg _ (Except.error.inj herror)⟩
  · have hs₁ : g s₁ = g s := by
      rcases hx s with hs | ⟨r, -, herror⟩
      · rw [hxs] at hs
        exact hs
      · rw [hxs] at herror
        cases herror
    have ha := hf a s₁
    rw [hs₁] at ha
    exact ha

theorem Keeps.bind_passesOn (hx : Keeps g x) (hf : ∀ a, PassesOn g err (f a)) :
    PassesOn g err (x >>= f) := hx.passesOn.bind hf

theorem PassesOn.embed {E' T' : Type} {event : E → E'} (hx : PassesOn g err x) :
    PassesOn (fun s : S × T' => g s.1) err (embed event x) := fun s => hx s.1

end PassesOn

end Traced

end Lib
