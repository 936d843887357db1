import Wscd.Lib.Custody

/-!
# Resources outside and a register of them

The custody of named resources where the shared state has two parts: the outside, in which the
resources are alive, and a register that the calls keep of them. The events of the log say which
call drew which name and under which names something may have been created.

Results:
1. `distinct_of_fresh`: names are told apart if none is drawn twice.
2. `meets_silent`, `meets_gone`, `meets_insert`, `meets_erase`: the kinds of sections.
-/

namespace Lib

structure Keeper (ι E W P N V K R : Type) where
  live : W → N → Option V
  lookup : P → K → Option R
  /-- The name an event has drawn. -/
  draws : E → Option N
  /-- The name under which an event may have created something. -/
  tries : E → Option N
  earlier : List N
  name : R → N
  key : V → Option K
  belongs : K → N → Prop
  unique : ∀ k n n', belongs k n → belongs k n' → n = n'
  erases : ι → K → Prop

namespace Keeper

variable {ι E W P N V K R : Type} (x : Keeper ι E W P N V K R)

/-- No name is drawn that was drawn, or there, before. -/
def Fresh (log : List (ι × E)) : Prop := (x.earlier ++ log.filterMap fun e => x.draws e.2).Nodup

/-- Nothing happens to what is alive under the name, or it goes away. -/
def Fades (w w' : W) (n : N) : Prop := x.live w' n = x.live w n ∨ x.live w' n = none

/-- A section that leaves the register alone and brings nothing to life. -/
structure Silent {ε α : Type} (m : Traced E (W × P) ε α) : Prop where
  register : ∀ s, (m s).2.1.2 = s.2
  draws : ∀ s, (m s).2.2.filterMap x.draws = []
  tries : ∀ s, (m s).2.2.filterMap x.tries = []
  fades : ∀ s n, x.Fades s.1 (m s).2.1.1 n

variable {x} {i : ι} {s : (W × P) × List (ι × E)} {n : N} {ε α : Type}
  {m : Traced E (W × P) ε α}

theorem Fresh.prefix {l l' : List (ι × E)} (h : x.Fresh (l ++ l')) : x.Fresh l := by
  unfold Fresh at h ⊢
  rw [List.filterMap_append, ← List.append_assoc] at h
  exact (List.nodup_append.mp h).1

/-- A name that is drawn was not known before. -/
theorem Fresh.last {l : List (ι × E)} {e : E} (h : x.Fresh (l ++ [(i, e)]))
    (hdraws : x.draws e = some n) :
    n ∉ x.earlier ∧ ∀ j e', (j, e') ∈ l → x.draws e' ≠ some n := by
  unfold Fresh at h
  rw [List.filterMap_append, ← List.append_assoc, List.nodup_append] at h
  have hnew : ∀ n' ∈ x.earlier ++ l.filterMap fun e => x.draws e.2, n' ≠ n := by
    intro n' hn'
    refine h.2.2 n' hn' n ?_
    simp [hdraws]
  refine ⟨fun hn => hnew n (List.mem_append_left _ hn) rfl, fun j e' he' hn => ?_⟩
  exact hnew n (List.mem_append_right _ (List.mem_filterMap.mpr ⟨_, he', hn⟩)) rfl

/-- A name was drawn once. -/
theorem eq_of_draws {log : List (ι × E)} (h : (log.filterMap fun e => x.draws e.2).Nodup)
    {a b : ι × E} (ha : a ∈ log) (hb : b ∈ log) (hna : x.draws a.2 = some n)
    (hnb : x.draws b.2 = some n) : a = b := by
  induction log with
  | nil => cases ha
  | cons e log ih =>
    have hhead : ∀ c ∈ log, x.draws c.2 = some n → x.draws e.2 ≠ some n := by
      intro c hc hnc hne
      rw [List.filterMap_cons_some (f := fun e : ι × E => x.draws e.2) hne] at h
      exact (List.nodup_cons.mp h).1 (List.mem_filterMap.mpr ⟨c, hc, hnc⟩)
    rcases List.mem_cons.mp ha with rfl | ha'
    · rcases List.mem_cons.mp hb with rfl | hb'
      · rfl
      · exact absurd hna (hhead b hb' hnb)
    · rcases List.mem_cons.mp hb with rfl | hb'
      · exact absurd hnb (hhead a ha' hna)
      · exact ih (h.sublist ((List.sublist_cons_self e log).filterMap _)) ha' hb'

section Custody

variable [DecidableEq ι]

variable (x) in
def custody : Custody ι ((W × P) × List (ι × E)) N V K R where
  live s := x.live s.1.1
  register s := x.lookup s.1.2
  drawn s i := (Async.eventsOf i s.2).filterMap x.draws
  tried s := s.2.filterMap fun e => x.tries e.2
  earlier := x.earlier
  name := x.name
  key := x.key
  belongs := x.belongs
  unique := x.unique
  erases := x.erases

variable (x) in
/-- Whatever the other calls do, the call keeps the guarantee and returns what satisfies `Q`. -/
abbrev Meets (i : ι) (t : Async E (W × P) ε α)
    (Q : Except ε α → (W × P) × List (ι × E) → Prop) (s : (W × P) × List (ι × E)) : Prop :=
  t.Meets x.Fresh x.custody.Guarantee i Q s

theorem mem_drawn :
    n ∈ x.custody.drawn s i ↔ ∃ e, (i, e) ∈ s.2 ∧ x.draws e = some n := by
  simp only [custody, List.mem_filterMap, Async.mem_eventsOf]

theorem distinct_of_fresh (s : (W × P) × List (ι × E)) (h : x.Fresh s.2) :
    x.custody.Distinct s := by
  obtain ⟨-, hnodup, hdisjoint⟩ := List.nodup_append.mp h
  constructor
  · intro i j n hi hj
    obtain ⟨e, he, hn⟩ := mem_drawn.mp hi
    obtain ⟨e', he', hn'⟩ := mem_drawn.mp hj
    exact (Prod.mk.inj (eq_of_draws hnodup he he' hn hn')).1
  · intro i n hn hearlier
    obtain ⟨e, he, hn⟩ := mem_drawn.mp hn
    exact hdisjoint n hearlier n (List.mem_filterMap.mpr ⟨_, he, hn⟩) rfl

/-- A name that is drawn was not known, and is not registered. -/
theorem Fresh.unknown {e : E} (h : x.Fresh (s.2 ++ [(i, e)])) (hdraws : x.draws e = some n)
    (hsound : x.custody.Sound s) : ¬ x.custody.Known s n ∧ ¬ x.custody.Registered s n := by
  obtain ⟨hearlier, hnew⟩ := h.last hdraws
  have hunknown : ¬ x.custody.Known s n := by
    rintro (htried | hn)
    · obtain ⟨j, hj⟩ := hsound.tried n htried
      obtain ⟨e', he', hn'⟩ := mem_drawn.mp hj
      exact hnew j e' he' hn'
    · exact hearlier hn
  refine ⟨hunknown, ?_⟩
  rintro ⟨k, r, hr, hname⟩
  exact hunknown (hname ▸ (hsound.owned k r hr).2)

/-! ## The kinds of sections -/

theorem drawn_enter (j : ι) :
    x.custody.drawn (Async.enter i (fun s => (m s).2) s) j =
      x.custody.drawn s j ++ if j = i then (m s.1).2.2.filterMap x.draws else [] := by
  show (Async.eventsOf j (s.2 ++ _)).filterMap x.draws = _
  rw [Async.eventsOf_append, List.filterMap_append]
  split_ifs with h
  · rw [h, Async.eventsOf_self]
    rfl
  · rw [Async.eventsOf_of_ne h]
    rfl

theorem drawn_enter_of_nil (h : (m s.1).2.2.filterMap x.draws = []) :
    x.custody.drawn (Async.enter i (fun s => (m s).2) s) = x.custody.drawn s := by
  funext j
  rw [drawn_enter, h]
  simp

theorem tried_enter :
    x.custody.tried (Async.enter i (fun s => (m s).2) s) =
      x.custody.tried s ++ (m s.1).2.2.filterMap x.tries := by
  simp only [custody, Async.enter, List.filterMap_append, List.filterMap_map, Function.comp_def]

theorem tried_enter_of_nil (h : (m s.1).2.2.filterMap x.tries = []) :
    x.custody.tried (Async.enter i (fun s => (m s).2) s) = x.custody.tried s := by
  rw [tried_enter, h, List.append_nil]

theorem Silent.quiet (hm : x.Silent m) (s : (W × P) × List (ι × E)) :
    x.custody.Quiet s (Async.enter i (fun s => (m s).2) s) where
  drawn := drawn_enter_of_nil (hm.draws s.1)
  tried := tried_enter_of_nil (hm.tries s.1)
  register := congrArg x.lookup (hm.register s.1)
  fades n := hm.fades s.1 n

variable {A : (W × P) × List (ι × E) → Prop} {Q : Except ε α → (W × P) × List (ι × E) → Prop}

theorem meets_returned {r : Except ε α} (hQ : x.custody.Kept i (Q r))
    (hsound : x.custody.Sound s) (h : Q r s) :
    x.Meets i (.returned r) (fun r s => x.custody.Sound s ∧ Q r s) s :=
  .ofReturned (hQ.stable distinct_of_fresh) ⟨hsound, h⟩

theorem meets_silent (hm : x.Silent m) (hA : x.custody.Kept i A)
    (hQ : ∀ r, x.custody.Kept i (Q r))
    (h : ∀ s, x.custody.Sound s → A s → Q (m s.1).1 (Async.enter i (fun s => (m s).2) s))
    (hsound : x.custody.Sound s) (hs : A s) :
    x.Meets i (.atomic m) (fun r s => x.custody.Sound s ∧ A s ∧ Q r s) s :=
  Custody.meets_quiet distinct_of_fresh hA hQ hm.quiet h hsound hs

/-- A section that finds nothing out. -/
theorem meets_passing (hm : x.Silent m) (hok : ∀ s, ∃ a, (m s).1 = .ok a)
    (hA : x.custody.Kept i A) (hsound : x.custody.Sound s) (hs : A s) :
    x.Meets i (.atomic m) (fun r s => x.custody.Sound s ∧ A s ∧ ∃ a, r = .ok a) s :=
  meets_silent hm hA (fun _ => .const _) (fun s _ _ => hok s.1) hsound hs

/-- A section that deletes, if its outcome confirms it. -/
theorem meets_gone (hm : x.Silent m) {confirms : Except ε α → Prop}
    (hgone : ∀ s, confirms (m s).1 → x.live (m s).2.1.1 n = none) (hA : x.custody.Kept i A)
    (hknown : ∀ s, A s → x.custody.Known s n) (hsound : x.custody.Sound s) (hs : A s) :
    x.Meets i (.atomic m) (fun r s => x.custody.Sound s ∧ A s ∧
      (confirms r → x.custody.Gone n s)) s :=
  meets_silent hm hA (fun _ => Custody.kept_gone.imp)
    (fun s _ hs hconfirms => ⟨((hm.quiet s).leaves i).known (hknown s hs), hgone s.1 hconfirms⟩)
    hsound hs

theorem files_modify (f : P → P) (s : (W × P) × List (ι × E)) :
    x.custody.Files s (Async.enter i (fun s =>
      ((Traced.modify fun s => (s.1, f s.2) : Traced E (W × P) ε Unit) s).2) s) :=
  ⟨drawn_enter_of_nil rfl, tried_enter_of_nil rfl, rfl⟩

variable [DecidableEq K] {f : P → P} {k : K}

/-- What is in hand is filed under the key it goes by. -/
theorem meets_insert {r : R} {v : V}
    (hf : ∀ p k', x.lookup (f p) k' = if k' = k then some r else x.lookup p k')
    (hkey : x.key v = some k) (hbelongs : x.belongs k (x.name r)) (hsound : x.custody.Sound s)
    (hs : x.custody.Holds i (x.name r) s) (htried : x.name r ∈ x.custody.tried s)
    (hshows : x.custody.Shows i (x.name r) v s) :
    x.Meets i (.atomic (Traced.modify fun s => (s.1, f s.2) : Traced E (W × P) ε Unit))
      (fun r' s => x.custody.Sound s ∧ x.custody.Settled i s ∧ x.custody.Filed k r s ∧
        r' = .ok ()) s := by
  refine Custody.meets_atomic distinct_of_fresh
    (Custody.kept_holds.and (Custody.kept_tried.and Custody.kept_shows))
    (fun r' => Custody.kept_settled.and (Custody.kept_filed.and (.const _))) ?_ hsound
    ⟨hs, htried, hshows⟩
  rintro s hsound ⟨hs, htried, hshows⟩ -
  obtain ⟨hg, hs, hfiled⟩ := (files_modify f s).guarantee (hf s.1.2) hsound hs htried hbelongs
    fun v' hv' => (congrArg x.key (hshows.2 v' hv')).trans hkey
  exact ⟨hg, hs, hfiled, rfl⟩

/-- What is gone is taken from the register. -/
theorem meets_erase (hf : ∀ p k', x.lookup (f p) k' = if k' = k then none else x.lookup p k')
    (hbelongs : x.belongs k n) (herases : x.erases i k) (hsound : x.custody.Sound s)
    (hs : x.custody.Settled i s) (hgone : x.custody.Gone n s) :
    x.Meets i (.atomic (Traced.modify fun s => (s.1, f s.2) : Traced E (W × P) ε Unit))
      (fun _ s => x.custody.Sound s ∧ x.custody.Settled i s ∧ x.custody.Gone n s) s := by
  refine Custody.meets_atomic distinct_of_fresh (Custody.kept_settled.and Custody.kept_gone)
    (fun r => Custody.kept_settled.and Custody.kept_gone) ?_ hsound ⟨hs, hgone⟩
  rintro s hsound ⟨hs, hgone⟩ -
  exact (files_modify f s).erase (hf s.1.2) hsound hbelongs hgone herases hs

end Custody

end Keeper

end Lib
