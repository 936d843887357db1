import Wscd.Lib.Async

/-!
# Named resources and their register

Calls draw names, create resources under them, file them in a register and remove them again,
each of these in a section of its own. A resource that is alive has to be on the register, or
some call must still have it in hand.

`Guarantee i` is what a section of call `i` may do: it brings to life, and files, only what
stands under names that call `i` drew, each of them once, and it takes from the register only
what is dead. `Leaves i` is what call `i` can count on meanwhile.

Results:
1. `Sound.step`: the register is sound across every guaranteed section.
2. `Guarantee.leaves`: what the others guarantee is what a call can count on.
3. `kept_settled`, `kept_holds` and their siblings: assertions that are kept.
4. `meets_atomic`, `meets_quiet`: the sections of a call.
-/

namespace Lib

/-- What there is to see of named resources. -/
structure Custody (ι σ N V K R : Type) where
  /-- What is alive under a name. -/
  live : σ → N → Option V
  register : σ → K → Option R
  /-- The names a call has drawn. -/
  drawn : σ → ι → List N
  /-- The names under which something may have been created. -/
  tried : σ → List N
  /-- The names of what there was before. -/
  earlier : List N
  name : R → N
  /-- The key that something alive goes by in the register. -/
  key : V → Option K
  /-- The key is that of something created under the name. -/
  belongs : K → N → Prop
  unique : ∀ k n n', belongs k n → belongs k n' → n = n'
  /-- The keys a call may take from the register. -/
  erases : ι → K → Prop

namespace Custody

variable {ι σ N V K R : Type} (c : Custody ι σ N V K R)

/-- Nothing happens to what is alive under a name, or it goes away. -/
def Fades (s s' : σ) (n : N) : Prop := c.live s' n = c.live s n ∨ c.live s' n = none

/-- Something was or may have been created under the name. -/
def Known (s : σ) (n : N) : Prop := n ∈ c.tried s ∨ n ∈ c.earlier

def Registered (s : σ) (n : N) : Prop := ∃ k r, c.register s k = some r ∧ c.name r = n

/-- No name is drawn twice. -/
structure Distinct (s : σ) : Prop where
  drawn : ∀ i j n, n ∈ c.drawn s i → n ∈ c.drawn s j → i = j
  earlier : ∀ i n, n ∈ c.drawn s i → n ∉ c.earlier

/-- What a section of call `i` may do. -/
structure Guarantee (i : ι) (s s' : σ) : Prop where
  drawn_of_ne : ∀ j, j ≠ i → c.drawn s' j = c.drawn s j
  drawn_subset : c.drawn s i ⊆ c.drawn s' i
  tried_subset : c.tried s ⊆ c.tried s'
  tried_drawn : ∀ n ∈ c.tried s', n ∈ c.tried s ∨ n ∈ c.drawn s' i
  fades : ∀ n, c.Known s n ∨ n ∉ c.drawn s' i → c.Fades s s' n
  kept : ∀ k r, c.register s k = some r → c.register s' k = some r ∨
    (c.register s' k = none ∧ c.live s' (c.name r) = none ∧ c.erases i k)
  filed : ∀ k r, c.register s' k = some r → c.register s k = some r ∨
    (c.belongs k (c.name r) ∧ c.name r ∈ c.drawn s' i ∧ c.name r ∈ c.tried s' ∧
      ∀ v, c.live s' (c.name r) = some v → c.key v = some k)

/-- What happens to the names of call `i` when it does nothing itself. -/
structure Leaves (i : ι) (s s' : σ) : Prop where
  drawn : c.drawn s' i = c.drawn s i
  tried_subset : c.tried s ⊆ c.tried s'
  tried : ∀ n ∈ c.drawn s i, n ∈ c.tried s' → n ∈ c.tried s
  fades : ∀ n, c.Known s n ∨ n ∈ c.drawn s i → c.Fades s s' n
  kept : ∀ k r, c.register s k = some r → c.register s' k = some r ∨
    (c.register s' k = none ∧ c.live s' (c.name r) = none ∧ ∃ j, c.erases j k)
  filed : ∀ k r, c.register s' k = some r → c.name r ∈ c.drawn s i → c.register s k = some r

/-- Only what is alive under names changes, and nothing comes to life. -/
structure Quiet (s s' : σ) : Prop where
  drawn : c.drawn s' = c.drawn s
  tried : c.tried s' = c.tried s
  register : c.register s' = c.register s
  fades : ∀ n, c.Fades s s' n

variable {c} {i j : ι} {s s' : σ} {n : N}

theorem Fades.dead (h : c.Fades s s' n) (hdead : c.live s n = none) : c.live s' n = none := by
  rcases h with h | h
  · exact h.trans hdead
  · exact h

theorem Fades.alive (h : c.Fades s s' n) {v : V} (halive : c.live s' n = some v) :
    c.live s n = some v := by
  rcases h with h | h
  · exact h.symm.trans halive
  · rw [h] at halive
    cases halive

theorem Quiet.guarantee (h : c.Quiet s s') (i : ι) : c.Guarantee i s s' where
  drawn_of_ne j _ := by rw [h.drawn]
  drawn_subset := by rw [h.drawn]; exact List.Subset.refl _
  tried_subset := by rw [h.tried]; exact List.Subset.refl _
  tried_drawn n hn := .inl (by rwa [h.tried] at hn)
  fades n _ := h.fades n
  kept k r hr := .inl (by rwa [h.register])
  filed k r hr := .inl (by rwa [h.register] at hr)

theorem Quiet.leaves (h : c.Quiet s s') (i : ι) : c.Leaves i s s' where
  drawn := by rw [h.drawn]
  tried_subset := by rw [h.tried]; exact List.Subset.refl _
  tried n _ hn := by rwa [h.tried] at hn
  fades n _ := h.fades n
  kept k r hr := .inl (by rwa [h.register])
  filed k r hr _ := by rwa [h.register] at hr

theorem Guarantee.leaves (h : c.Guarantee j s s') (hne : j ≠ i) (hdistinct : c.Distinct s') :
    c.Leaves i s s' := by
  have hdrawn : c.drawn s' i = c.drawn s i := h.drawn_of_ne i hne.symm
  -- a name of call `i` is none of call `j`'s
  have hother : ∀ n ∈ c.drawn s i, n ∉ c.drawn s' j := by
    intro n hi hj
    exact hne (hdistinct.drawn j i n hj (by rwa [hdrawn]))
  exact
    { drawn := hdrawn
      tried_subset := h.tried_subset
      tried := fun n hn hn' => (h.tried_drawn n hn').resolve_right (hother n hn)
      fades := fun n hn => h.fades n (hn.imp_right (hother n))
      kept := fun k r hr => (h.kept k r hr).imp_right fun ⟨hnone, hdead, herases⟩ =>
        ⟨hnone, hdead, j, herases⟩
      filed := fun k r hr hn => (h.filed k r hr).resolve_right fun hnew =>
        hother _ hn hnew.2.1 }

/-! ## The register -/

variable (c) in
/-- The register lists what its keys belong to, and all there was before that is alive. -/
structure Sound (s : σ) : Prop where
  owned : ∀ k r, c.register s k = some r → c.belongs k (c.name r) ∧ c.Known s (c.name r)
  keyed : ∀ k r v, c.register s k = some r → c.live s (c.name r) = some v → c.key v = some k
  tried : ∀ n ∈ c.tried s, ∃ i, n ∈ c.drawn s i
  earlier : ∀ n ∈ c.earlier, c.live s n ≠ none → c.Registered s n

/-- What is registered and alive stays registered, if it is not forgotten alive. -/
theorem Registered.kept (h : c.Registered s n) (halive : c.live s' n ≠ none)
    (hkept : ∀ k r, c.register s k = some r → c.register s' k = some r ∨
      c.live s' (c.name r) = none) : c.Registered s' n := by
  obtain ⟨k, r, hr, rfl⟩ := h
  exact ⟨k, r, (hkept k r hr).resolve_right halive, rfl⟩

theorem Sound.step (h : c.Sound s) (hg : c.Guarantee i s s') : c.Sound s' := by
  have hknown : ∀ n, c.Known s n → c.Known s' n := fun n =>
    Or.imp_left fun hn => hg.tried_subset hn
  constructor
  · intro k r hr
    rcases hg.filed k r hr with hold | ⟨hbelongs, -, htried, -⟩
    · exact ⟨(h.owned k r hold).1, hknown _ (h.owned k r hold).2⟩
    · exact ⟨hbelongs, .inl htried⟩
  · intro k r v hr halive
    rcases hg.filed k r hr with hold | ⟨-, -, -, hkey⟩
    · exact h.keyed k r v hold ((hg.fades _ (.inl (h.owned k r hold).2)).alive halive)
    · exact hkey v halive
  · intro n hn
    rcases hg.tried_drawn n hn with hold | hdrawn
    · obtain ⟨j, hj⟩ := h.tried n hold
      by_cases hne : j = i
      · exact ⟨i, hg.drawn_subset (hne ▸ hj)⟩
      · exact ⟨j, by rwa [hg.drawn_of_ne j hne]⟩
    · exact ⟨i, hdrawn⟩
  · intro n hn halive
    obtain ⟨v, hv⟩ := Option.ne_none_iff_exists'.mp halive
    have hbefore : c.live s n ≠ none := by
      rw [(hg.fades n (.inl (.inr hn))).alive hv]
      nofun
    exact (h.earlier n hn hbefore).kept halive fun k r hr =>
      (hg.kept k r hr).imp_right fun hgone => hgone.2.1

/-! ## What a call can say of its names -/

variable (c) in
/-- An assertion of call `i` that holds as long as the call does nothing. -/
def Kept (i : ι) (P : σ → Prop) : Prop := ∀ s s', c.Leaves i s s' → P s → P s'

theorem Kept.and {P P' : σ → Prop} (h : c.Kept i P) (h' : c.Kept i P') :
    c.Kept i fun s => P s ∧ P' s := fun s s' hs => And.imp (h s s' hs) (h' s s' hs)

theorem Kept.or {P P' : σ → Prop} (h : c.Kept i P) (h' : c.Kept i P') :
    c.Kept i fun s => P s ∨ P' s := fun s s' hs => Or.imp (h s s' hs) (h' s s' hs)

theorem Kept.const (p : Prop) : c.Kept i fun _ => p := fun _ _ _ hp => hp

theorem Kept.exists {B : Type} {P : B → σ → Prop} (h : ∀ b, c.Kept i (P b)) :
    c.Kept i fun s => ∃ b, P b s := fun s s' hs ⟨b, hb⟩ => ⟨b, h b s s' hs hb⟩

theorem Kept.imp {p : Prop} {P : σ → Prop} (h : c.Kept i P) : c.Kept i fun s => p → P s :=
  fun s s' hs hp p => h s s' hs (hp p)

variable (c) in
/-- What call `i` has brought to life is registered. -/
def Settled (i : ι) (s : σ) : Prop := ∀ n ∈ c.drawn s i, c.live s n ≠ none → c.Registered s n

variable (c) in
/-- Call `i` has one name in hand, and otherwise all is settled. -/
structure Holds (i : ι) (n : N) (s : σ) : Prop where
  drawn : n ∈ c.drawn s i
  unregistered : ¬ c.Registered s n
  others : ∀ m ∈ c.drawn s i, m ≠ n → c.live s m ≠ none → c.Registered s m

variable (c) in
/-- What is alive under the name, if anything is, is `v`. -/
def Shows (i : ι) (n : N) (v : V) (s : σ) : Prop :=
  n ∈ c.drawn s i ∧ ∀ v', c.live s n = some v' → v' = v

variable (c) in
/-- The key is filed, or some call has taken it from the register. -/
def Filed (k : K) (r : R) (s : σ) : Prop :=
  c.Known s (c.name r) ∧ (c.register s k = some r ∨
    (c.live s (c.name r) = none ∧ ∃ j, c.erases j k))

variable (c) in
/-- Something was created under the name, and is gone. -/
def Gone (n : N) (s : σ) : Prop := c.Known s n ∧ c.live s n = none

theorem Leaves.known (h : c.Leaves i s s') (hn : c.Known s n) : c.Known s' n :=
  hn.imp_left fun hn => h.tried_subset hn

theorem Leaves.settled (h : c.Leaves i s s') (hn : n ∈ c.drawn s i) (halive : c.live s' n ≠ none)
    (hs : c.live s n ≠ none → c.Registered s n) : c.Registered s' n := by
  obtain ⟨v, hv⟩ := Option.ne_none_iff_exists'.mp halive
  refine (hs ?_).kept halive fun k r hr => (h.kept k r hr).imp_right fun hgone => hgone.2.1
  rw [(h.fades n (.inr hn)).alive hv]
  nofun

theorem kept_settled : c.Kept i (c.Settled i) := by
  intro s s' h hs n hn halive
  rw [h.drawn] at hn
  exact h.settled hn halive (hs n hn)

theorem kept_holds : c.Kept i (c.Holds i n) := by
  intro s s' h hs
  refine ⟨by rw [h.drawn]; exact hs.drawn, ?_, ?_⟩
  · rintro ⟨k, r, hr, rfl⟩
    exact hs.unregistered ⟨k, r, h.filed k r hr hs.drawn, rfl⟩
  · intro m hm hne halive
    rw [h.drawn] at hm
    exact h.settled hm halive (hs.others m hm hne)

theorem kept_known : c.Kept i fun s => c.Known s n := fun _ _ h => h.known

theorem kept_tried : c.Kept i fun s => n ∈ c.tried s := fun _ _ h hn => h.tried_subset hn

theorem kept_untried : c.Kept i fun s => n ∈ c.drawn s i ∧ n ∉ c.tried s := by
  rintro s s' h ⟨hdrawn, hn⟩
  exact ⟨by rwa [h.drawn], fun hn' => hn (h.tried n hdrawn hn')⟩

theorem kept_shows {v : V} : c.Kept i (c.Shows i n v) := by
  rintro s s' h ⟨hdrawn, hs⟩
  refine ⟨by rwa [h.drawn], fun v' hv' => hs v' ((h.fades n (.inr hdrawn)).alive hv')⟩

theorem kept_filed {k : K} {r : R} : c.Kept i (c.Filed k r) := by
  rintro s s' h ⟨hknown, hs⟩
  refine ⟨h.known hknown, ?_⟩
  rcases hs with hr | ⟨hdead, herases⟩
  · exact (h.kept k r hr).imp_right fun hgone => ⟨hgone.2.1, hgone.2.2⟩
  · exact .inr ⟨(h.fades _ (.inl hknown)).dead hdead, herases⟩

theorem kept_gone : c.Kept i (c.Gone n) := by
  rintro s s' h ⟨hknown, hdead⟩
  exact ⟨h.known hknown, (h.fades n (.inl hknown)).dead hdead⟩

/-- A name in hand that is dead, or registered by now, is settled. -/
theorem Holds.settle (h : c.Holds i n s) (hn : c.live s n ≠ none → c.Registered s n) :
    c.Settled i s := by
  classical
  intro m hm halive
  by_cases hne : m = n
  · subst hne
    exact hn halive
  · exact h.others m hm hne halive

/-! ## What a section does -/

variable (c) in
/-- The section draws the name, or creates something under it. -/
structure Opens (i : ι) (n : N) (s s' : σ) : Prop where
  drawn_of_ne : ∀ j, j ≠ i → c.drawn s' j = c.drawn s j
  drawn_subset : c.drawn s i ⊆ c.drawn s' i
  drawn_new : ∀ m ∈ c.drawn s' i, m ∈ c.drawn s i ∨ m = n
  drawn : n ∈ c.drawn s' i
  tried_subset : c.tried s ⊆ c.tried s'
  tried_new : ∀ m ∈ c.tried s', m ∈ c.tried s ∨ m = n
  register : c.register s' = c.register s
  fades : ∀ m, m ≠ n → c.Fades s s' m

/-- Nothing was created under the name before. -/
theorem Opens.guarantee (h : c.Opens i n s s') (hnew : ¬ c.Known s n)
    (hfades : n ∉ c.drawn s' i → c.Fades s s' n) : c.Guarantee i s s' where
  drawn_of_ne := h.drawn_of_ne
  drawn_subset := h.drawn_subset
  tried_subset := h.tried_subset
  tried_drawn m hm := (h.tried_new m hm).imp_right fun hname => by rw [hname]; exact h.drawn
  fades m hm := by
    by_cases hne : m = n
    · subst hne
      exact hfades (hm.resolve_left hnew)
    · exact h.fades m hne
  kept k r hr := .inl (by rwa [h.register])
  filed k r hr := .inl (by rwa [h.register] at hr)

/-- The name is in hand then. -/
theorem Opens.holds (h : c.Opens i n s s') (hunregistered : ¬ c.Registered s n)
    (hothers : ∀ m ∈ c.drawn s i, m ≠ n → c.live s m ≠ none → c.Registered s m) :
    c.Holds i n s' := by
  have hregistered : ∀ m, c.Registered s' m ↔ c.Registered s m := fun m => by
    unfold Registered
    rw [h.register]
  refine ⟨h.drawn, fun hr => hunregistered ((hregistered n).mp hr), fun m hm hne halive => ?_⟩
  obtain ⟨v, hv⟩ := Option.ne_none_iff_exists'.mp halive
  refine (hregistered m).mpr (hothers m ((h.drawn_new m hm).resolve_right hne) hne ?_)
  rw [(h.fades m hne).alive hv]
  nofun

variable (c) in
/-- Only the register changes. -/
structure Files (s s' : σ) : Prop where
  drawn : c.drawn s' = c.drawn s
  tried : c.tried s' = c.tried s
  live : c.live s' = c.live s

/-- What is in hand is filed under the key it goes by. -/
theorem Files.guarantee [DecidableEq K] (h : c.Files s s') {k : K} {r : R}
    (hregister : ∀ k', c.register s' k' = if k' = k then some r else c.register s k')
    (hsound : c.Sound s) (hs : c.Holds i (c.name r) s) (htried : c.name r ∈ c.tried s)
    (hbelongs : c.belongs k (c.name r))
    (hkey : ∀ v, c.live s (c.name r) = some v → c.key v = some k) :
    c.Guarantee i s s' ∧ c.Settled i s' ∧ c.Filed k r s' := by
  have hfiled : c.register s' k = some r := by rw [hregister, if_pos rfl]
  have hkept : ∀ k' r', c.register s k' = some r' → c.register s' k' = some r' := by
    intro k' r' hr'
    rw [hregister, if_neg]
    · exact hr'
    · -- what is filed under the key already would be what is in hand
      rintro rfl
      exact hs.unregistered ⟨k', r', hr', c.unique k' _ _ (hsound.owned k' r' hr').1 hbelongs⟩
  refine ⟨⟨fun j _ => by rw [h.drawn], ?_, ?_, ?_, ?_, fun k' r' hr' => .inl (hkept k' r' hr'),
    ?_⟩, ?_, ?_, .inl hfiled⟩
  · rw [h.drawn]
    exact List.Subset.refl _
  · rw [h.tried]
    exact List.Subset.refl _
  · intro m hm
    rw [h.tried] at hm
    exact .inl hm
  · exact fun m _ => .inl (by rw [h.live])
  · intro k' r' hr'
    rw [hregister] at hr'
    split at hr'
    · obtain rfl := ‹k' = k›
      cases hr'
      rw [h.drawn, h.tried, h.live]
      exact .inr ⟨hbelongs, hs.drawn, htried, hkey⟩
    · exact .inl hr'
  · intro m hm halive
    rw [h.drawn] at hm
    rw [h.live] at halive
    by_cases hne : m = c.name r
    · exact ⟨k, r, hfiled, hne.symm⟩
    · obtain ⟨k', r', hr', hname⟩ := hs.others m hm hne halive
      exact ⟨k', r', hkept k' r' hr', hname⟩
  · exact .inl (by rwa [h.tried])

/-- What is gone is taken from the register. -/
theorem Files.erase [DecidableEq K] (h : c.Files s s') {k : K}
    (hregister : ∀ k', c.register s' k' = if k' = k then none else c.register s k')
    (hsound : c.Sound s) (hbelongs : c.belongs k n) (hgone : c.Gone n s)
    (herases : c.erases i k) (hs : c.Settled i s) :
    c.Guarantee i s s' ∧ c.Settled i s' ∧ c.Gone n s' := by
  have hkept : ∀ k' r, c.register s k' = some r → c.register s' k' = some r ∨
      (c.register s' k' = none ∧ c.live s' (c.name r) = none ∧ c.erases i k') := by
    intro k' r hr
    rw [hregister, h.live]
    split
    · obtain rfl := ‹k' = k›
      rw [c.unique k' _ _ (hsound.owned k' r hr).1 hbelongs]
      exact .inr ⟨rfl, hgone.2, herases⟩
    · exact .inl hr
  refine ⟨⟨fun j _ => by rw [h.drawn], ?_, ?_, ?_, ?_, hkept, ?_⟩, ?_, ?_, ?_⟩
  · rw [h.drawn]
    exact List.Subset.refl _
  · rw [h.tried]
    exact List.Subset.refl _
  · intro m hm
    rw [h.tried] at hm
    exact .inl hm
  · exact fun m _ => .inl (by rw [h.live])
  · intro k' r hr
    rw [hregister] at hr
    split at hr
    · cases hr
    · exact .inl hr
  · intro m hm halive
    rw [h.drawn] at hm
    refine (hs m hm (by rwa [h.live] at halive)).kept halive fun k' r hr => ?_
    exact (hkept k' r hr).imp_right fun hgone => hgone.2.1
  · exact hgone.1.imp_left fun hn => by rwa [h.tried]
  · rw [h.live]
    exact hgone.2

/-! ## Sections of a call -/

section Sections

open Async

variable {E S ε α : Type} {c : Custody ι (S × List (ι × E)) N V K R}
  {A : List (ι × E) → Prop} {P : S × List (ι × E) → Prop}
  {Q : Except ε α → S × List (ι × E) → Prop} {m : Traced E S ε α} {s : S × List (ι × E)}

/-- What is kept while a call does nothing is stable, and so is the soundness of the register. -/
theorem Kept.stable (hA : ∀ s : S × List (ι × E), A s.2 → c.Distinct s) (hP : c.Kept i P) :
    Stable A c.Guarantee i fun s => c.Sound s ∧ P s := by
  rintro s s' ⟨hlog, j, hne, hg⟩ ⟨hsound, hs⟩
  exact ⟨hsound.step hg, hP s s' (hg.leaves hne (hA s' hlog)) hs⟩

theorem Sound.reached {s' : S × List (ι × E)} (hsound : c.Sound s)
    (h : Relation.ReflTransGen (fun s s' => A s'.2 ∧ ∃ i, c.Guarantee i s s') s s') :
    c.Sound s' := by
  induction h with
  | refl => exact hsound
  | tail _ hstep ih =>
    obtain ⟨-, i, hg⟩ := hstep
    exact ih.step hg

/-- One section, by what it guarantees. -/
theorem meets_atomic (hA : ∀ s : S × List (ι × E), A s.2 → c.Distinct s) (hP : c.Kept i P)
    (hQ : ∀ r, c.Kept i (Q r))
    (h : ∀ s, c.Sound s → P s → A (enter i (fun s => (m s).2) s).2 →
      c.Guarantee i s (enter i (fun s => (m s).2) s) ∧
        Q (m s.1).1 (enter i (fun s => (m s).2) s))
    (hsound : c.Sound s) (hs : P s) :
    (atomic m).Meets A c.Guarantee i (fun r s => c.Sound s ∧ Q r s) s := by
  refine Meets.atomic (hP.stable hA) (fun r => (hQ r).stable hA) ?_ ⟨hsound, hs⟩
  rintro s ⟨hsound, hs⟩ hlog
  obtain ⟨hg, hq⟩ := h s hsound hs hlog
  exact ⟨hg, hsound.step hg, hq⟩

/-- A quiet section keeps what the call knows, and may find something out. -/
theorem meets_quiet (hA : ∀ s : S × List (ι × E), A s.2 → c.Distinct s) (hP : c.Kept i P)
    (hQ : ∀ r, c.Kept i (Q r)) (hm : ∀ s, c.Quiet s (enter i (fun s => (m s).2) s))
    (h : ∀ s, c.Sound s → P s → Q (m s.1).1 (enter i (fun s => (m s).2) s))
    (hsound : c.Sound s) (hs : P s) :
    (atomic m).Meets A c.Guarantee i (fun r s => c.Sound s ∧ P s ∧ Q r s) s :=
  meets_atomic hA hP (fun r => hP.and (hQ r))
    (fun s hsound hs _ => ⟨(hm s).guarantee i, hP s _ ((hm s).leaves i) hs, h s hsound hs⟩)
    hsound hs

end Sections

end Custody

end Lib
