import Wscd.CborWire
import Wscd.Plugins.Jwk
import Wscd.Plugins.R2psSession

/-!
# Concurrent calls on one R2PS session

Signatures and activations of any number of callers interleave on the one client. What keeps
them apart is the client's lock, under which a call authenticates and signs.

Results:
1. `step_advances`: all that a step does to the sessions and to the call's own log.
2. `SessionsKept.step`: one call at a time holds the lock, so the session it established is
   in force when it signs.
3. `signatures_use_own_sessions`: a signature that claims a PIN was made under the session
   that PIN established.
-/

namespace Wscd.R2psPlugin

open Lib

variable {W : Type}

/-! ## What a step does -/

/-- The call is a signature that must not use a session it finds. -/
def Call.fresh : Call → Bool
  | .signWithFactors _ _ options => options.requireFreshUserAuthentication
  | .activateLifecycle .. => false

/-- The call holds the client's lock. -/
def Thread.Holds (t : Thread W) : Prop :=
  match t.place with
  | .inside _ | .authenticated _ => True
  | _ => False

/-- A signature by its log: made under a session the call's own PIN established, or under the
session it found, and then without a knowledge factor. -/
inductive Signed (fresh : Bool) (outcome : SignOutcome) : List SessionEvent → Prop where
  | own {pin : Secret} {s : Session} : s.pin = some pin →
      Signed fresh outcome
        [.gavePin pin, .established s, .signed (some s) outcome.signature.bytes]
  | reused {session : Option Session} : fresh = false →
      (∀ f ∈ outcome.factors.factors, f.category ≠ .knowledge) →
      Signed fresh outcome [.signed session outcome.signature.bytes]

/-- A call has noted what has happened so far; `current` is the session in force. -/
def Thread.Consistent (current : Option Session) (t : Thread W) : Prop :=
  match t.place with
  | .start | .deciding | .prompting => t.log = []
  | .collected pin | .waiting pin | .inside pin =>
    t.log = (pin.map SessionEvent.gavePin).toList ∧ (t.call.fresh = true → pin ≠ none)
  | .authenticated none => t.log = [] ∧ t.call.fresh = false
  | .authenticated (some pin) =>
    ∃ s, t.log = [.gavePin pin, .established s] ∧ s.pin = some pin ∧ current = some s
  | .completing (.signed outcome) | .returned (.ok (.signed outcome)) =>
    Signed t.call.fresh outcome t.log
  | .recording | .completing (.activated _) | .returned (.ok (.activated _)) =>
    .refused ∉ t.log ∧ ∀ session signature, .signed session signature ∉ t.log
  | .returned (.error _) => ∀ session signature, .signed session signature ∉ t.log

/-- All that a step does, from `t` to `t'` and from `s` to `s'`. -/
structure Advances (t t' : Thread W) (s s' : Shared W) : Prop where
  call_eq : t'.call = t.call
  takes : t'.Holds → ¬ t.Holds → s.locked = false
  keeps : t'.Holds → t.Holds → s'.locked = s.locked
  locks : t'.Holds → ¬ t.Holds → s'.locked = true
  frees : ¬ t.Holds → s.locked = true → s'.locked = true
  /-- Only a call that holds the lock replaces the session. -/
  sessions : s'.world.2 = s.world.2 ∨ t.Holds ∧ ∃ pin, s'.world.2 = s.world.2.establish pin
  established : ∀ x, .established x ∈ t'.log →
    .established x ∈ t.log ∨ ∃ pin, x = s.world.2.next pin ∧ s'.world.2 = s.world.2.establish pin
  consistent : t.Consistent s.world.2.current → t'.Consistent s'.world.2.current

section Advances

variable {t t' : Thread W} {s s' : Shared W}

/-- A step that does nothing to lock, sessions and log. -/
theorem advances_go {place : Place} (hholds : (t.go place).Holds ↔ t.Holds)
    (hlocked : s'.locked = s.locked) (hsessions : s'.world.2 = s.world.2)
    (hconsistent : t.Consistent s.world.2.current → (t.go place).Consistent s.world.2.current) :
    Advances t (t.go place) s s' where
  call_eq := rfl
  takes h hnot := absurd (hholds.mp h) hnot
  keeps _ _ := hlocked
  locks h hnot := absurd (hholds.mp h) hnot
  frees _ h := hlocked.trans h
  sessions := .inl hsessions
  established _ hx := .inl hx
  consistent h := by
    rw [hsessions]
    exact hconsistent h

theorem advances_refl : Advances t t s s :=
  advances_go (t := t) Iff.rfl rfl rfl fun h => h

/-- A prompt ends the call or hands over a PIN. -/
theorem prompt_advances {next : Option Secret → Place}
    (hholds : ∀ pin, ¬ (t.go (next pin)).Holds) (hplace : t.place = .prompting)
    (hconsistent : ∀ pin, t.log = [] →
      ((t.note (.gavePin pin)).go (next (some pin))).Consistent s.world.2.current) :
    Advances t (prompt next t s).1 s (prompt next t s).2 := by
  have hnot : ¬ t.Holds := by simp [Thread.Holds, hplace]
  have hlog : t.Consistent s.world.2.current → t.log = [] := by
    intro h
    simpa only [Thread.Consistent, hplace] using h
  unfold prompt
  rcases t.auth.requestPin "r2ps" s.world.1 with ⟨e | pin, w'⟩
  · refine advances_go (iff_of_false (by simp [Thread.Holds, Thread.go]) hnot) rfl rfl ?_
    intro h session signature hsigned
    have hsigned : .signed session signature ∈ t.log := hsigned
    rw [hlog h] at hsigned
    cases hsigned
  · exact
      { call_eq := rfl
        takes := fun h => absurd h (hholds (some pin))
        keeps := fun h => absurd h (hholds (some pin))
        locks := fun h => absurd h (hholds (some pin))
        frees := fun _ h => h
        sessions := .inl rfl
        established := by
          intro x hx
          rcases List.mem_append.mp hx with hx | hx
          · exact .inl hx
          · cases List.mem_singleton.mp hx
        consistent := fun h => hconsistent pin (hlog h) }

theorem takeLock_advances {pin : Option Secret} (hplace : t.place = .waiting pin) :
    Advances t (takeLock pin t s).1 s (takeLock pin t s).2 := by
  have hnot : ¬ t.Holds := by simp [Thread.Holds, hplace]
  unfold takeLock
  cases hlocked : s.locked with
  | true => exact advances_refl
  | false =>
    exact
      { call_eq := rfl
        takes := fun _ _ => hlocked
        keeps := fun _ h => absurd h hnot
        locks := fun _ _ => rfl
        frees := fun _ h => by rw [hlocked] at h; cases h
        sessions := .inl rfl
        established := fun _ hx => .inl hx
        consistent := fun h => by
          simp only [Thread.Consistent, hplace] at h
          exact h }

/-- An authentication fails and lets the session be, or replaces it. -/
theorem after_cases (pin : Option Secret) (answer : W → Except R2psError Unit × W)
    (w : W × Sessions) :
    (∃ e w', Sessions.after pin answer w = (.error e, w', w.2)) ∨
      ∃ w', Sessions.after pin answer w = (.ok (), w', w.2.establish pin) := by
  unfold Sessions.after
  rcases answer w.1 with ⟨e | _, w'⟩
  · exact .inl ⟨e, w', rfl⟩
  · exact .inr ⟨w', rfl⟩

/-- A call that holds the lock replaces the session. -/
theorem established_advances {pin : Option Secret} {place : Place} (hplace : t.place = .inside pin)
    (hsessions : s'.world.2 = s.world.2.establish pin)
    (hlocked : (t.go place).Holds → s'.locked = s.locked)
    (hconsistent : t.Consistent s.world.2.current →
      ((t.note (.established (s.world.2.next pin))).go place).Consistent s'.world.2.current) :
    Advances t ((t.note (.established (s.world.2.next pin))).go place) s s' := by
  have hholds : t.Holds := by simp [Thread.Holds, hplace]
  exact
    { call_eq := rfl
      takes := fun _ hnot => absurd hholds hnot
      keeps := fun h _ => hlocked h
      locks := fun _ hnot => absurd hholds hnot
      frees := fun hnot => absurd hholds hnot
      sessions := .inr ⟨hholds, pin, hsessions⟩
      established := by
        intro x hx
        rcases List.mem_append.mp hx with hx | hx
        · exact .inl hx
        · cases List.mem_singleton.mp hx
          exact .inr ⟨pin, rfl, hsessions⟩
      consistent := hconsistent }

/-- A call that holds the lock ends its critical section and leaves the session. -/
theorem unlocked_advances (log : List SessionEvent) (place : Place) {w' : W} (hholds : t.Holds)
    (hnot : ¬ (t.go place).Holds) (hlog : ∀ x, .established x ∈ log → .established x ∈ t.log)
    (hconsistent : t.Consistent s.world.2.current →
      Thread.Consistent s.world.2.current { t with log := log, place := place }) :
    Advances t { t with log := log, place := place } s (s.unlock (w', s.world.2)) where
  call_eq := rfl
  takes h := absurd h hnot
  keeps h := absurd h hnot
  locks h := absurd h hnot
  frees h := absurd hholds h
  sessions := .inl rfl
  established x hx := .inl (hlog x hx)
  consistent h := hconsistent h

/-- An authentication that is refused ends the call. -/
theorem refused_advances {pin : Option Secret} {e : WscdError} {w' : W}
    (hplace : t.place = .inside pin) :
    Advances t ((t.note .refused).go (.returned (.error e))) s (s.unlock (w', s.world.2)) := by
  have hholds : t.Holds := by simp [Thread.Holds, hplace]
  refine unlocked_advances (t.log ++ [.refused]) (.returned (.error e)) hholds not_false
    (by simp) ?_
  intro h session signature hsigned
  simp only [Thread.Consistent, hplace] at h
  rcases List.mem_append.mp hsigned with hsigned | hsigned
  · rw [h.1] at hsigned
    cases pin with
    | none => cases hsigned
    | some pin => cases List.mem_singleton.mp hsigned
  · cases List.mem_singleton.mp hsigned

end Advances

section StepAdvances

variable {wire : R2psWire} {server : Server W} {nfc : String → String}
  {setLastAmr : List String → W → W} {auth : AuthCallback W} {progress : ProgressCallback W}
  {log : List SessionEvent} {place : Place} {s : Shared W}

/-- Without a PIN a signature has its possession factor only. -/
theorem deriveFactors_reused (options : SignOptions) (reason : String) :
    ∀ f ∈ (deriveFactors "key_in_remote_wscd" none false none options reason).factors,
      f.category ≠ .knowledge := by
  intro f hf
  have hfactors : (deriveFactors "key_in_remote_wscd" none false none options reason).factors =
      [⟨.possession, "key_in_remote_wscd"⟩] := by
    show (AuthFactors.new [⟨.possession, "key_in_remote_wscd"⟩] (some reason)).factors = _
    exact AuthFactors.new_one _ _ (by decide)
  rw [hfactors] at hf
  obtain rfl := List.mem_singleton.mp hf
  nofun

theorem signStep_advances (kid : KeyId) (data : List UInt8) (options : SignOptions) :
    Advances ⟨.signWithFactors kid data options, auth, progress, place, log⟩
      (signStep wire server nfc setLastAmr kid data options
        ⟨.signWithFactors kid data options, auth, progress, place, log⟩ s).1 s
      (signStep wire server nfc setLastAmr kid data options
        ⟨.signWithFactors kid data options, auth, progress, place, log⟩ s).2 := by
  cases place with
  | start =>
    simp only [signStep]
    cases options.validate with
    | error e =>
      refine advances_go Iff.rfl rfl rfl fun h session signature hsigned => ?_
      obtain rfl : log = [] := h
      cases hsigned
    | ok _ => exact advances_go Iff.rfl rfl rfl fun h => h
  | deciding =>
    simp only [signStep]
    split
    · exact advances_go Iff.rfl rfl rfl fun h => h
    rename_i hfresh
    split
    · exact advances_refl
    split
    · exact advances_go Iff.rfl rfl rfl fun h => ⟨h, fun hfresh' => absurd hfresh' hfresh⟩
    · exact advances_go Iff.rfl rfl rfl fun h => h
  | prompting =>
    refine prompt_advances (fun _ => not_false) rfl fun pin hlog => ?_
    obtain rfl : log = [] := hlog
    exact ⟨rfl, fun _ => Option.some_ne_none pin⟩
  | collected pin => exact advances_go Iff.rfl rfl rfl fun h => h
  | waiting pin => exact takeLock_advances rfl
  | inside pin =>
    cases pin with
    | none =>
      refine advances_go Iff.rfl rfl rfl fun h => ⟨h.1, ?_⟩
      rw [Bool.eq_false_iff]
      exact fun hfresh => h.2 hfresh rfl
    | some pin =>
      simp only [signStep, Server.client]
      rcases after_cases (some pin) (server.authenticate s.world.2.current pin) s.world with
        ⟨e, w', hanswer⟩ | ⟨w', hanswer⟩
      · rw [hanswer]
        exact refused_advances rfl
      · rw [hanswer]
        refine established_advances rfl rfl (fun _ => rfl) fun h => ?_
        obtain ⟨rfl, -⟩ := h
        exact ⟨_, rfl, rfl, rfl⟩
  | authenticated pin =>
    simp only [signStep, Server.client]
    rcases server.rawSign s.world.2.current (utf8 kid.asStr) data s.world.1 with ⟨e | signature, w'⟩
    · refine unlocked_advances log _ trivial not_false (fun _ hx => hx) ?_
      intro h session signature hsigned
      cases pin with
      | none =>
        obtain ⟨rfl, -⟩ := h
        cases hsigned
      | some pin =>
        obtain ⟨s', rfl, -⟩ := h
        simp at hsigned
    · refine unlocked_advances (log ++ [_]) _ trivial not_false (fun x hx => ?_) fun h => ?_
      · rcases List.mem_append.mp hx with hx | hx
        · exact hx
        · cases List.mem_singleton.mp hx
      · cases pin with
        | none =>
          obtain ⟨rfl, hfresh⟩ := h
          exact .reused hfresh (deriveFactors_reused options _)
        | some pin =>
          obtain ⟨s', rfl, hpin, hcurrent⟩ := h
          rw [hcurrent]
          exact .own hpin
  | recording => exact advances_refl
  | completing outcome =>
    cases outcome <;> exact advances_go Iff.rfl rfl rfl fun h => h
  | returned result => exact advances_refl

theorem activateStep_advances (request : ActivateLifecycleRequest) (now : Int) :
    Advances ⟨.activateLifecycle request now, auth, progress, place, log⟩
      (activateStep wire server request now
        ⟨.activateLifecycle request now, auth, progress, place, log⟩ s).1 s
      (activateStep wire server request now
        ⟨.activateLifecycle request now, auth, progress, place, log⟩ s).2 := by
  have hreturned : log = [] →
      ∀ session signature, SessionEvent.signed session signature ∉ log := by
    rintro rfl session signature hsigned
    cases hsigned
  cases place with
  | start => exact advances_go Iff.rfl rfl rfl fun h => h
  | deciding =>
    simp only [activateStep]
    split
    · exact advances_go Iff.rfl rfl rfl hreturned
    · exact advances_go Iff.rfl rfl rfl fun h => h
    · exact advances_go Iff.rfl rfl rfl fun h => ⟨h, nofun⟩
    · exact advances_go Iff.rfl rfl rfl hreturned
  | prompting =>
    refine prompt_advances (fun _ => not_false) rfl fun pin hlog => ?_
    obtain rfl : log = [] := hlog
    exact ⟨rfl, fun _ => nofun⟩
  | collected pin => exact advances_go Iff.rfl rfl rfl fun h => h
  | waiting pin => exact takeLock_advances rfl
  | inside pin =>
    have hanswers : (∃ e w', server.activate pin s.world = (.error e, w', s.world.2)) ∨
        ∃ w', server.activate pin s.world = (.ok (), w', s.world.2.establish pin) := by
      cases pin <;> exact after_cases _ _ _
    simp only [activateStep]
    rcases hanswers with ⟨e, w', hanswer⟩ | ⟨w', hanswer⟩
    · rw [hanswer]
      exact refused_advances rfl
    · rw [hanswer]
      refine established_advances rfl rfl (fun h => h.elim) fun h => ?_
      obtain ⟨rfl, -⟩ := h
      cases pin <;> simp [Thread.Consistent, Thread.go, Thread.note]
  | authenticated pin => exact advances_refl
  | recording =>
    exact advances_go Iff.rfl rfl rfl fun h => h
  | completing outcome =>
    cases outcome <;> exact advances_go Iff.rfl rfl rfl fun h => h
  | returned result => exact advances_refl

theorem step_advances (wire : R2psWire) (server : Server W) (nfc : String → String)
    (setLastAmr : List String → W → W) (t : Thread W) (s : Shared W) :
    Advances t (step wire server nfc setLastAmr t s).1 s
      (step wire server nfc setLastAmr t s).2 := by
  obtain ⟨call, auth, progress, place, log⟩ := t
  cases call with
  | signWithFactors kid data options => exact signStep_advances kid data options
  | activateLifecycle request now => exact activateStep_advances request now

end StepAdvances

/-! ## All calls together -/

section Runs

variable {ι : Type}

/-- The calls of a pool by the time it is `p`, which started with the sessions `first`. -/
structure SessionsKept (first : Sessions) (p : Pool ι (Thread W) (Shared W)) : Prop where
  exclusive : p.Exclusive Thread.Holds fun s => s.locked = true
  consistent : ∀ i, (p.threads i).Consistent p.shared.world.2.current
  first_le : first.established ≤ p.shared.world.2.established
  serial : ∀ i x, .established x ∈ (p.threads i).log →
    first.established ≤ x.serial ∧ x.serial < p.shared.world.2.established
  /-- A session is established by one call. -/
  one : ∀ i j x, .established x ∈ (p.threads i).log → .established x ∈ (p.threads j).log → i = j

/-- Only a call with the lock depends on the session in force. -/
theorem consistent_of_not_holds {t : Thread W} {current current' : Option Session}
    (h : t.Consistent current) (hnot : ¬ t.Holds) : t.Consistent current' := by
  obtain ⟨call, auth, progress, place, log⟩ := t
  match place with
  | .authenticated _ => exact absurd trivial hnot
  | .start | .deciding | .prompting | .collected _ | .waiting _ | .inside _ | .recording
  | .completing (.signed _) | .completing (.activated _) | .returned (.ok (.signed _))
  | .returned (.ok (.activated _)) | .returned (.error _) => exact h

variable {first : Sessions} {p : Pool ι (Thread W) (Shared W)} {i : ι}
  {f : Thread W → Shared W → Thread W × Shared W}

theorem SessionsKept.step [DecidableEq ι] (h : SessionsKept first p)
    (hstep : Advances (p.threads i) (f (p.threads i) p.shared).1 p.shared
      (f (p.threads i) p.shared).2) : SessionsKept first (p.step f i) := by
  have hshared : (p.step f i).shared = (f (p.threads i) p.shared).2 := rfl
  have hgrows : p.shared.world.2.established ≤ (p.step f i).shared.world.2.established := by
    rw [hshared]
    rcases hstep.sessions with hsame | ⟨-, pin, hreplaced⟩
    · rw [hsame]
    · rw [hreplaced]
      exact Nat.le_succ _
  -- a session of a log after the step is of that log before, or the step has established it
  have hlogs : ∀ j x, .established x ∈ ((p.step f i).threads j).log →
      .established x ∈ (p.threads j).log ∨ j = i ∧ x.serial = p.shared.world.2.established ∧
        x.serial < (p.step f i).shared.world.2.established := by
    intro j x hx
    rcases eq_or_ne j i with rfl | hne
    · rw [Pool.step_threads_self] at hx
      rcases hstep.established x hx with hx | ⟨pin, rfl, hreplaced⟩
      · exact .inl hx
      · refine .inr ⟨rfl, rfl, ?_⟩
        rw [hshared, hreplaced]
        exact Nat.lt_succ_self _
    · rw [Pool.step_threads_of_ne hne] at hx
      exact .inl hx
  refine ⟨?_, ?_, h.first_le.trans hgrows, ?_, ?_⟩
  · refine h.exclusive.step ?_ ?_ hstep.frees
    · intro htakes hnot
      rw [hstep.takes htakes hnot]
      exact Bool.false_ne_true
    · intro hholds
      by_cases hheld : (p.threads i).Holds
      · exact (hstep.keeps hholds hheld).trans (h.exclusive.taken i hheld)
      · exact hstep.locks hholds hheld
  · intro j
    rcases eq_or_ne j i with rfl | hne
    · rw [Pool.step_threads_self]
      exact hstep.consistent (h.consistent j)
    · rw [Pool.step_threads_of_ne hne]
      -- a step that changes the sessions holds the lock, so no other call does
      rcases hstep.sessions with hsame | ⟨hholds, -⟩
      · rw [hshared, hsame]
        exact h.consistent j
      · exact consistent_of_not_holds (h.consistent j) fun hj =>
          hne (h.exclusive.unique j i hj hholds)
  · intro j x hx
    rcases hlogs j x hx with hx | ⟨-, hserial, hlt⟩
    · exact ⟨(h.serial j x hx).1, (h.serial j x hx).2.trans_le hgrows⟩
    · exact ⟨hserial ▸ h.first_le, hlt⟩
  · intro j k x hj hk
    rcases hlogs j x hj with hj₀ | ⟨hji, hserial, -⟩
    · rcases hlogs k x hk with hk₀ | ⟨-, hserial, -⟩
      · exact h.one j k x hj₀ hk₀
      · exact absurd hserial (h.serial j x hj₀).2.ne
    · rcases hlogs k x hk with hk₀ | ⟨hki, -, -⟩
      · exact absurd hserial (h.serial k x hk₀).2.ne
      · exact hji.trans hki.symm

/-- A call that has done nothing yet. -/
def Thread.Fresh (t : Thread W) : Prop := t.place = .start ∧ t.log = []

/-- `s` was established by call `i` alone, and was not there at the start. -/
def EstablishedBy (p p' : Pool ι (Thread W) (Shared W)) (i : ι) (s : Session) : Prop :=
  .established s ∈ (p'.threads i).log ∧ (∀ j, .established s ∈ (p'.threads j).log → j = i) ∧
    p.shared.world.2.current ≠ some s

/-- A signature event, as what was signed under. -/
def SessionEvent.signature : SessionEvent → Option (Option Session × List UInt8)
  | .signed session signature => some (session, signature)
  | _ => none

theorem SessionsKept.start (hfresh : ∀ i, (p.threads i).Fresh) :
    SessionsKept p.shared.world.2 p := by
  have hnot : ∀ i, ¬ (p.threads i).Holds := by
    intro i
    simp [Thread.Holds, (hfresh i).1]
  have hlog : ∀ i e, e ∉ (p.threads i).log := by
    intro i e
    rw [(hfresh i).2]
    exact List.not_mem_nil
  exact
    { exclusive := ⟨fun i h => absurd h (hnot i), fun i _ h => absurd h (hnot i)⟩
      consistent := fun i => by
        simp only [Thread.Consistent, (hfresh i).1]
        exact (hfresh i).2
      first_le := le_rfl
      serial := fun i x hx => absurd hx (hlog i _)
      one := fun i j x hx => absurd hx (hlog i _) }

/-- A session that a call has noted to have established was established by it alone. -/
theorem SessionsKept.establishedBy {p' : Pool ι (Thread W) (Shared W)} {s : Session}
    (h : SessionsKept p.shared.world.2 p') (hs : .established s ∈ (p'.threads i).log) :
    EstablishedBy p p' i s := by
  refine ⟨hs, fun j hj => h.one j i s hj hs, ?_⟩
  intro hcurrent
  have hold := p.shared.world.2.numbered s hcurrent
  exact absurd hold (h.serial i s hs).1.not_gt

/-- A call whose authentication was refused has failed. -/
theorem returned_of_refused {t : Thread W} {current : Option Session} (h : t.Consistent current)
    (hrefused : .refused ∈ t.log) : ∃ e, t.place = .returned (.error e) := by
  obtain ⟨call, auth, progress, place, log⟩ := t
  have hrefused : SessionEvent.refused ∈ log := hrefused
  match place with
  | .returned (.error e) => exact ⟨e, rfl⟩
  | .start | .deciding | .prompting =>
    obtain rfl : log = [] := h
    cases hrefused
  | .collected pin | .waiting pin | .inside pin =>
    obtain ⟨rfl, -⟩ := h
    cases pin <;> simp at hrefused
  | .authenticated none =>
    obtain ⟨rfl, -⟩ := h
    cases hrefused
  | .authenticated (some pin) =>
    obtain ⟨s, rfl, -⟩ := h
    simp at hrefused
  | .completing (.signed outcome) | .returned (.ok (.signed outcome)) =>
    have h : Signed _ outcome log := h
    cases h <;> simp at hrefused
  | .recording | .completing (.activated _) | .returned (.ok (.activated _)) =>
    exact absurd hrefused h.1

end Runs

/-- Whatever the interleaving: a signature with a knowledge factor, and one that was to be
authenticated freshly, is made under the session its own call established, by its own PIN; a
call whose authentication is refused fails and signs nothing. -/
theorem signatures_use_own_sessions {ι : Type} [DecidableEq ι] (wire : R2psWire)
    (server : Server W) (nfc : String → String) (setLastAmr : List String → W → W)
    (p p' : Pool ι (Thread W) (Shared W)) (schedule : List ι)
    (hfresh : ∀ i, (p.threads i).Fresh)
    (hrun : run (Pool.step (step wire server nfc setLastAmr)) p schedule = p') (i : ι) :
    (∀ outcome, (p'.threads i).place = .returned (.ok (.signed outcome)) →
      ∃ session,
        (p'.threads i).log.filterMap SessionEvent.signature =
          [(session, outcome.signature.bytes)] ∧
        ((∃ f ∈ outcome.factors.factors, f.category = .knowledge) →
          ∃ pin s, .gavePin pin ∈ (p'.threads i).log ∧ s.pin = some pin ∧
            session = some s ∧ EstablishedBy p p' i s) ∧
        ((p.threads i).call.fresh = true → ∃ s, session = some s ∧ EstablishedBy p p' i s) ∧
        ((∀ s, session = some s → ¬ EstablishedBy p p' i s) →
          ∀ f ∈ outcome.factors.factors, f.category ≠ .knowledge)) ∧
    (.refused ∈ (p'.threads i).log →
      (∃ e, (p'.threads i).place = .returned (.error e)) ∧
        ∀ session signature, .signed session signature ∉ (p'.threads i).log) := by
  -- along the run: the sessions are accounted for, and the thread stays with its call
  have hkept : SessionsKept p.shared.world.2 p' ∧ (p'.threads i).call = (p.threads i).call := by
    rw [← hrun]
    refine run_keeps (I := fun q =>
      SessionsKept p.shared.world.2 q ∧ (q.threads i).call = (p.threads i).call) ?_ schedule
      ⟨.start hfresh, rfl⟩
    intro q j ⟨hq, hcall⟩
    have hstep := step_advances wire server nfc setLastAmr (q.threads j) q.shared
    exact ⟨hq.step hstep, Pool.kept_by_step (Q := fun t : Thread W => t.call = (p.threads i).call)
      (fun h => hstep.call_eq.trans h) i hcall⟩
  obtain ⟨hkept, hcall⟩ := hkept
  have hconsistent := hkept.consistent i
  constructor
  · intro outcome hplace
    simp only [Thread.Consistent, hplace, hcall] at hconsistent
    generalize hlog : (p'.threads i).log = log at hconsistent
    cases hconsistent with
    | @own pin s hpin =>
      have hs : EstablishedBy p p' i s := by
        refine hkept.establishedBy ?_
        rw [hlog]
        simp
      exact ⟨some s, rfl, fun _ => ⟨pin, s, by simp, hpin, rfl, hs⟩, fun _ => ⟨s, rfl, hs⟩,
        fun h => absurd hs (h s rfl)⟩
    | @reused session hreused hfactors =>
      refine ⟨session, rfl, ?_, ?_, fun _ => hfactors⟩
      · rintro ⟨f, hf, hknowledge⟩
        exact absurd hknowledge (hfactors f hf)
      · intro hfresh'
        rw [hreused] at hfresh'
        cases hfresh'
  · intro hrefused
    obtain ⟨e, hplace⟩ := returned_of_refused hconsistent hrefused
    simp only [Thread.Consistent, hplace] at hconsistent
    exact ⟨⟨e, hplace⟩, hconsistent⟩

/-! ## Two calls -/

namespace RaceDemo

/-- A remote end that takes any PIN and signs with one octet. -/
def server : Server Unit where
  isAuthenticated session _ := session.isSome
  authenticate _ _ w := (.ok (), w)
  authenticateFido2 _ w := (.ok (), w)
  rawSign _ _ _ w := (.ok [1], w)

def wire : R2psWire :=
  ⟨cborWire, base64urlDecode, fun _ => .error "", fun _ => .error "", fun _ => ""⟩

/-- A call whose user has the PIN `pin`. -/
def thread (pin : Secret) (call : Call) : Thread Unit :=
  ⟨call, ⟨fun _ w => (.ok pin, w), fun _ _ w => (.ok pin, w),
    fun _ _ _ _ w => (.error .authCancelled, w)⟩, ⟨fun _ w => w⟩, .start, []⟩

/-- A signature that is to be authenticated freshly, and an activation. -/
def pool : Pool Bool (Thread Unit) (Shared Unit) where
  shared :=
    ⟨((), ⟨none, 0, nofun⟩), false,
      HashMap.insertNew "ctx" ⟨.opaqueFactor, .registered, 0⟩ ∅⟩
  threads i :=
    if i then thread [49, 49, 49, 49] (.signWithFactors ⟨"kid"⟩ [7] ⟨true, none⟩)
    else thread [50, 50, 50, 50] (.activateLifecycle ⟨"r2ps", "ctx"⟩ 1)

/-- The activation gets the session while the signature waits for its PIN. -/
def schedule : List Bool :=
  [true, true, false, false, false, false, false, true, true, true, true, true, false, false, true]

end RaceDemo

theorem signatures_use_own_sessions_raced :
    ∃ s : Session, s.pin = some [49, 49, 49, 49] ∧
      EstablishedBy RaceDemo.pool
        (run (Pool.step (step RaceDemo.wire RaceDemo.server (fun t => t) fun _ w => w))
          RaceDemo.pool RaceDemo.schedule) true s := by
  obtain ⟨session, -, hknowledge, -⟩ := (signatures_use_own_sessions RaceDemo.wire RaceDemo.server
    (fun t => t) (fun _ w => w) RaceDemo.pool _ RaceDemo.schedule
    (fun i => by cases i <;> exact ⟨rfl, rfl⟩) rfl true).1
    ⟨⟨[1]⟩, ⟨[⟨.possession, "key_in_remote_wscd"⟩, ⟨.knowledge, "pin_less_than_6_digits"⟩], none⟩⟩
    rfl
  obtain ⟨pin, s, hgiven, hpin, -, hestablished⟩ :=
    hknowledge ⟨⟨.knowledge, "pin_less_than_6_digits"⟩, by simp, rfl⟩
  refine ⟨s, ?_, hestablished⟩
  have hgiven : SessionEvent.gavePin pin ∈ [.gavePin [49, 49, 49, 49],
      .established ⟨some [49, 49, 49, 49], 1⟩,
      .signed (some ⟨some [49, 49, 49, 49], 1⟩) [1]] := hgiven
  obtain rfl : pin = [49, 49, 49, 49] := by simpa using hgiven
  exact hpin

end Wscd.R2psPlugin
