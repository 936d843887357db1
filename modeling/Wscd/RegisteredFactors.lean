import Wscd.CborWire
import Wscd.Plugins.Jwk
import Wscd.Plugins.R2psLifecycle

/-!
# The factor a context was registered with

A context of the R2PS plugin is registered with a factor, and every later ceremony for it is
chosen by the factor on record. A destruction writes a fresh record that names the OPAQUE
factor whatever the context was registered with, so a context registered with WebAuthn is
rotated and activated with a PIN afterwards.

Results:
1. `registerLifecycle_cases` and its siblings: all that one operation can do.
2. `lawful`: what holds of every operation, in whatever state.
3. `registered_factor_kept`: the record has the factor of the last registration all along a
   run exactly when no context recorded with another factor than OPAQUE is destroyed.
4. `registered_factor_lost`: a WebAuthn context that is destroyed and then rotated with a PIN.
-/

namespace Wscd.R2psPlugin

open Lib

/-! ## Ceremonies in a log -/

inductive Ceremony where
  | registration
  | authentication
  deriving DecidableEq, Repr

/-- The ceremony a request of the client is, and its factor. -/
def LifecycleEvent.ceremony : LifecycleEvent → Option (Ceremony × FactorKind)
  | .registered .. => some (.registration, .opaqueFactor)
  | .registeredFido2 _ => some (.registration, .webAuthn)
  | .authenticated .. => some (.authentication, .opaqueFactor)
  | .authenticatedFido2 _ => some (.authentication, .webAuthn)
  | .host _ | .revoked .. => none

/-- What the server answered to a request. -/
def LifecycleEvent.answer : LifecycleEvent → Option (Except R2psError Unit)
  | .registered _ answer | .registeredFido2 answer | .authenticated _ answer
  | .authenticatedFido2 answer | .revoked _ answer => some answer
  | .host _ => none

namespace Lifecycle

variable {W : Type}

/-- The one ceremony run was `c` with factor `k`, and a call that returned has completed it. -/
structure RunsCeremony (c : Ceremony) (k : FactorKind) (returned : Bool)
    (l : List LifecycleEvent) : Prop where
  only : ∀ e ∈ l, ∀ ceremony, e.ceremony = some ceremony → ceremony = (c, k)
  completed : returned = true → ∃ e ∈ l, e.ceremony = some (c, k) ∧ e.answer = some (.ok ())

section Logs

variable {c : Ceremony} {k : FactorKind} {l : List LifecycleEvent}

/-- A call that failed has run no other ceremony if it has run none. -/
theorem runsCeremony_of_quiet (h : ∀ e ∈ l, e.ceremony = none) : RunsCeremony c k false l where
  only e he ceremony hsome := by
    rw [h e he] at hsome
    cases hsome
  completed hreturned := by cases hreturned

theorem RunsCeremony.after {returned : Bool} {quiet : List LifecycleEvent}
    (h : RunsCeremony c k returned l) (hquiet : ∀ e ∈ quiet, e.ceremony = none) :
    RunsCeremony c k returned (quiet ++ l) where
  only e he := by
    rcases List.mem_append.mp he with he | he
    · exact (runsCeremony_of_quiet hquiet).only e he
    · exact h.only e he
  completed hreturned := by
    obtain ⟨e, he, hcompletes⟩ := h.completed hreturned
    exact ⟨e, List.mem_append_right _ he, hcompletes⟩

/-- The request that is a ceremony, at the end of the log, and its answer. -/
theorem runsCeremony_of_answer {e : LifecycleEvent} {answer : Except R2psError Unit}
    (hceremony : e.ceremony = some (c, k)) (hanswer : e.answer = some answer) :
    RunsCeremony c k answer.toBool [e] where
  only e' he ceremony hsome := by
    obtain rfl := List.mem_singleton.mp he
    rw [hceremony] at hsome
    cases hsome
    rfl
  completed hreturned := by
    refine ⟨e, List.mem_singleton_self e, hceremony, ?_⟩
    cases answer with
    | error _ => cases hreturned
    | ok u => exact hanswer

end Logs

/-! ## What one operation does -/

section Operations

variable {wire : R2psWire} {config : R2psConfig} {client : LifecycleClient W}
  {auth : AuthCallback W} {progress : ProgressCallback W}
  {s s' : W × HashMap String LifecycleContext} {l : List LifecycleEvent}

theorem hosted_cases {α : Type} {x : HostM W α} {r : Except WscdError α}
    (h : hosted x s = (r, s', l)) : s'.2 = s.2 ∧ ∀ e ∈ l, e.ceremony = none := by
  obtain ⟨events, -, hcontexts, rfl⟩ := Traced.embed_cases h
  refine ⟨hcontexts, fun e he => ?_⟩
  obtain ⟨event, -, rfl⟩ := List.mem_map.mp he
  rfl

theorem onProgress_cases {p : OperationProgress} {r : Except WscdError Unit}
    (h : onProgress progress p s = (r, s', l)) :
    r = .ok () ∧ s' = (progress.onProgress p s.1, s.2) ∧ l = [] := by
  cases h
  exact ⟨rfl, rfl, rfl⟩

theorem insertContext_cases {contextId : String} {k : FactorKind} {state : LifecycleState}
    {r : Except WscdError Unit} (h : insertContext client contextId k state s = (r, s', l)) :
    r = .ok () ∧ s' = (s.1, s.2.insert contextId ⟨k, state, client.nowUnix s.1⟩) ∧ l = [] :=
  Traced.modify_cases h

/-- A client's answer, turned into the result of the call. -/
theorem clientResult_toBool (what : String) (answer : Except R2psError Unit) :
    (clientResult wire what answer).toBool = answer.toBool := by
  cases answer <;> rfl

/-- A PIN and a request with it: the ceremonies of the OPAQUE factor. -/
theorem pinCeremony_cases {send : Secret → W → Except R2psError Unit × W}
    {event : Secret → Except R2psError Unit → LifecycleEvent} {what : String} {c : Ceremony}
    {k : FactorKind} {r : Except WscdError Unit}
    (hevent : ∀ pin answer, (event pin answer).ceremony = some (c, k) ∧
      (event pin answer).answer = some answer)
    (h : (requestPin auth >>= fun pin => request (send pin) (event pin) >>= fun answer =>
      Traced.lift (clientResult wire what answer) : LifecycleM W Unit) s = (r, s', l)) :
    s'.2 = s.2 ∧ RunsCeremony c k r.toBool l := by
  rcases Traced.bind_cases h with ⟨e, rfl, hpin⟩ | ⟨pin, s₁, l₁, l₂, hpin, h₁, rfl⟩
  · obtain ⟨hcontexts, hquiet⟩ := hosted_cases hpin
    exact ⟨hcontexts, runsCeremony_of_quiet hquiet⟩
  obtain ⟨hcontexts, hquiet⟩ := hosted_cases hpin
  obtain ⟨answer, s₂, l₃, l₄, hask, h₂, rfl⟩ :=
    Traced.bind_cases_of_total (fun _ => ⟨_, rfl⟩) h₁
  obtain ⟨hok, rfl, rfl⟩ := Traced.draw_cases hask
  cases hok
  obtain ⟨rfl, rfl, rfl⟩ := Traced.lift_cases h₂
  refine ⟨hcontexts, ?_⟩
  rw [clientResult_toBool, List.append_nil]
  exact (runsCeremony_of_answer (hevent pin _).1 (hevent pin _).2).after hquiet

/-- A ceremony with the host: those of the WebAuthn factor. -/
theorem webAuthnCeremony_cases {call : CeremonyCall W Unit}
    {event : Except R2psError Unit → LifecycleEvent} {what : String} {c : Ceremony}
    {k : FactorKind} {r : Except WscdError Unit}
    (hevent : ∀ answer, (event answer).ceremony = some (c, k) ∧
      (event answer).answer = some answer)
    (h : (ceremony wire auth call event >>= fun answer =>
      Traced.lift (clientResult wire what answer) : LifecycleM W Unit) s = (r, s', l)) :
    s'.2 = s.2 ∧ RunsCeremony c k r.toBool l := by
  unfold ceremony at h
  rcases Traced.bind_cases h with ⟨e, rfl, hcall⟩ | ⟨answer, s₁, l₁, l₂, hcall, h₁, rfl⟩
  · rcases Traced.bind_cases hcall with ⟨e', -, hhost⟩ | ⟨x, s₂, l₂, l₃, hhost, hnote, rfl⟩
    · obtain ⟨hcontexts, hquiet⟩ := hosted_cases hhost
      exact ⟨hcontexts, runsCeremony_of_quiet hquiet⟩
    · obtain ⟨hok, -, -⟩ := Traced.draw_cases hnote
      cases hok
  rcases Traced.bind_cases hcall with ⟨e', herror, -⟩ | ⟨x, s₂, l₃, l₄, hhost, hnote, rfl⟩
  · cases herror
  obtain ⟨hcontexts, hquiet⟩ := hosted_cases hhost
  obtain ⟨hok, rfl, rfl⟩ := Traced.draw_cases hnote
  cases hok
  obtain ⟨rfl, rfl, rfl⟩ := Traced.lift_cases h₁
  refine ⟨hcontexts, ?_⟩
  rw [clientResult_toBool, List.append_nil]
  exact (runsCeremony_of_answer (hevent _).1 (hevent _).2).after hquiet

/-- A call refused before any ceremony. -/
theorem refused_cases {c : Ceremony} {k : FactorKind} {error : WscdError} {α : Type}
    {r : Except WscdError α} (h : (Traced.lift (.error error) : LifecycleM W α) s = (r, s', l)) :
    s'.2 = s.2 ∧ RunsCeremony c k r.toBool l := by
  obtain ⟨rfl, rfl, rfl⟩ := Traced.lift_cases h
  exact ⟨rfl, runsCeremony_of_quiet fun e he => absurd he List.not_mem_nil⟩

theorem registerFactor_cases {k : FactorKind} {r : Except WscdError Unit}
    (h : registerFactor wire config client auth k s = (r, s', l)) :
    s'.2 = s.2 ∧ RunsCeremony .registration k r.toBool l := by
  cases k with
  | opaqueFactor => exact pinCeremony_cases (fun _ _ => ⟨rfl, rfl⟩) h
  | webAuthn =>
    unfold registerFactor registerFido2 at h
    dsimp only at h
    by_cases hrpId : config.rpId = ""
    · rw [if_pos hrpId] at h
      exact refused_cases h
    · rw [if_neg hrpId] at h
      exact webAuthnCeremony_cases (fun _ => ⟨rfl, rfl⟩) h
  | rawSign => exact refused_cases h

theorem authenticateFactor_cases {k : FactorKind} {r : Except WscdError Unit}
    (h : authenticateFactor wire config client auth k s = (r, s', l)) :
    s'.2 = s.2 ∧ RunsCeremony .authentication k r.toBool l := by
  cases k with
  | opaqueFactor => exact pinCeremony_cases (fun _ _ => ⟨rfl, rfl⟩) h
  | webAuthn => exact webAuthnCeremony_cases (fun _ => ⟨rfl, rfl⟩) h
  | rawSign => exact refused_cases h

/-- The factor on record, or an error where there is no record. -/
theorem recordedFactor_cases {contextId : String} {r : Except WscdError FactorKind}
    (h : recordedFactor contextId s = (r, s', l)) :
    s' = s ∧ l = [] ∧ ((∃ e, r = .error e ∧ s.2.lookup contextId = none) ∨
      ∃ ctx, r = .ok ctx.factorKind ∧ s.2.lookup contextId = some ctx) := by
  unfold recordedFactor at h
  obtain ⟨found, s₁, l₁, l₂, hget, h₁, rfl⟩ :=
    Traced.bind_cases_of_total (fun _ => ⟨_, rfl⟩) h
  obtain ⟨rfl, rfl, rfl⟩ := Traced.get_ok_iff.mp hget
  cases hlookup : s.2.lookup contextId with
  | none =>
    rw [hlookup] at h₁
    obtain ⟨rfl, rfl, rfl⟩ := Traced.lift_cases h₁
    exact ⟨rfl, rfl, .inl ⟨_, rfl, rfl⟩⟩
  | some ctx =>
    rw [hlookup] at h₁
    obtain ⟨rfl, rfl, rfl⟩ := Traced.pure_cases h₁
    exact ⟨rfl, rfl, .inr ⟨ctx, rfl, rfl⟩⟩

/-- What follows the factor on record takes place where there is a record. -/
theorem recordedFactor_bind_cases {α : Type} {contextId : String}
    {f : FactorKind → LifecycleM W α} {r : Except WscdError α}
    (h : (recordedFactor contextId >>= f) s = (r, s', l)) :
    (s.2.lookup contextId = none ∧ ∃ e, r = .error e ∧ s' = s ∧ l = []) ∨
      ∃ ctx, s.2.lookup contextId = some ctx ∧ f ctx.factorKind s = (r, s', l) := by
  rcases Traced.bind_cases h with ⟨e, rfl, hrecorded⟩ | ⟨k, s₁, l₁, l₂, hrecorded, hf, rfl⟩
  · obtain ⟨rfl, rfl, ⟨e', -, hnone⟩ | ⟨ctx, hk, -⟩⟩ := recordedFactor_cases hrecorded
    · exact .inl ⟨hnone, e, rfl, rfl, rfl⟩
    · cases hk
  · obtain ⟨rfl, rfl, ⟨e', herror, -⟩ | ⟨ctx, hk, hctx⟩⟩ := recordedFactor_cases hrecorded
    · cases herror
    · cases hk
      exact .inr ⟨ctx, hctx, hf⟩

theorem moveContext_cases {contextId : String} {state : LifecycleState} {ctx : LifecycleContext}
    {r : Except WscdError Unit} (hlookup : s.2.lookup contextId = some ctx)
    (h : moveContext client contextId state s = (r, s', l)) :
    r = .ok () ∧ l = [] ∧ s'.2 = s.2.insert contextId
      { ctx with state := state, updatedAt := client.nowUnix s.1 } := by
  obtain ⟨rfl, rfl, rfl⟩ := Traced.modify_cases h
  rw [hlookup]
  exact ⟨rfl, rfl, rfl⟩

/-- A registration writes the record once its ceremony is completed, or writes nothing. -/
theorem registerLifecycle_cases {request : RegisterLifecycleRequest}
    {r : Except WscdError RegistrationOutcome}
    (h : registerLifecycle wire config client auth progress request s = (r, s', l)) :
    RunsCeremony .registration request.factorKind r.toBool l ∧
      ((∃ e, r = .error e ∧ s'.2 = s.2) ∨
        ∃ now, r = .ok ⟨request.contextId, .registered⟩ ∧
          s'.2 = s.2.insert request.contextId ⟨request.factorKind, .registered, now⟩) := by
  unfold registerLifecycle at h
  obtain ⟨_, s₁, l₁, l₂, hstart, h₁, rfl⟩ :=
    Traced.bind_cases_of_total (fun _ => ⟨_, rfl⟩) h
  obtain ⟨-, rfl, rfl⟩ := onProgress_cases hstart
  rcases Traced.bind_cases h₁ with ⟨e, rfl, hfactor⟩ | ⟨_, s₂, l₃, l₄, hfactor, h₂, rfl⟩
  · obtain ⟨hcontexts, hceremony⟩ := registerFactor_cases hfactor
    exact ⟨hceremony, .inl ⟨e, rfl, hcontexts⟩⟩
  obtain ⟨hcontexts, hceremony⟩ := registerFactor_cases hfactor
  -- nothing fails once the ceremony is completed
  obtain ⟨_, s₃, l₅, l₆, hinsert, h₃, rfl⟩ :=
    Traced.bind_cases_of_total (fun _ => ⟨_, rfl⟩) h₂
  obtain ⟨-, rfl, rfl⟩ := insertContext_cases hinsert
  obtain ⟨_, s₄, l₇, l₈, hend, h₄, rfl⟩ :=
    Traced.bind_cases_of_total (fun _ => ⟨_, rfl⟩) h₃
  obtain ⟨-, rfl, rfl⟩ := onProgress_cases hend
  obtain ⟨rfl, rfl, rfl⟩ := Traced.pure_cases h₄
  refine ⟨?_, .inr ⟨_, rfl, congrArg (Finmap.insert request.contextId _) hcontexts⟩⟩
  simpa only [List.append_nil, List.nil_append, Except.toBool] using hceremony

/-- An activation runs the ceremony of the factor on record, and then moves the record. -/
theorem activateLifecycle_cases {request : ActivateLifecycleRequest}
    {r : Except WscdError ActivationOutcome}
    (h : activateLifecycle wire config client auth progress request s = (r, s', l)) :
    (∀ ctx, s.2.lookup request.contextId = some ctx →
        RunsCeremony .authentication ctx.factorKind r.toBool l) ∧
      ((∃ e, r = .error e ∧ s'.2 = s.2) ∨
        ∃ ctx now, s.2.lookup request.contextId = some ctx ∧
          r = .ok ⟨request.contextId, .active⟩ ∧
          s'.2 = s.2.insert request.contextId { ctx with state := .active, updatedAt := now }) := by
  unfold activateLifecycle at h
  obtain ⟨_, s₁, l₁, l₂, hstart, h₁, rfl⟩ :=
    Traced.bind_cases_of_total (fun _ => ⟨_, rfl⟩) h
  obtain ⟨-, rfl, rfl⟩ := onProgress_cases hstart
  rcases recordedFactor_bind_cases h₁ with ⟨hnone, e, rfl, rfl, rfl⟩ | ⟨ctx, hctx, h₂⟩
  · exact ⟨fun ctx hctx => absurd (hnone.symm.trans hctx) nofun, .inl ⟨e, rfl, rfl⟩⟩
  have hsame : ∀ ctx', s.2.lookup request.contextId = some ctx' → ctx' = ctx := by
    intro ctx' hctx'
    exact Option.some.inj (hctx'.symm.trans hctx)
  rcases Traced.bind_cases h₂ with ⟨e, rfl, hfactor⟩ | ⟨_, s₃, l₅, l₆, hfactor, h₃, rfl⟩
  · obtain ⟨hcontexts, hceremony⟩ := authenticateFactor_cases hfactor
    refine ⟨fun ctx' hctx' => ?_, .inl ⟨e, rfl, hcontexts⟩⟩
    rw [hsame ctx' hctx']
    exact hceremony
  obtain ⟨hcontexts, hceremony⟩ := authenticateFactor_cases hfactor
  obtain ⟨_, s₄, l₇, l₈, hmove, h₄, rfl⟩ :=
    Traced.bind_cases_of_total (fun _ => ⟨_, rfl⟩) h₃
  obtain ⟨-, rfl, hmoved⟩ := moveContext_cases (hcontexts ▸ hctx) hmove
  obtain ⟨_, s₅, l₉, l₁₀, hend, h₅, rfl⟩ :=
    Traced.bind_cases_of_total (fun _ => ⟨_, rfl⟩) h₄
  obtain ⟨-, rfl, rfl⟩ := onProgress_cases hend
  obtain ⟨rfl, rfl, rfl⟩ := Traced.pure_cases h₅
  refine ⟨fun ctx' hctx' => ?_, .inr ⟨ctx, _, hctx, rfl, hmoved.trans (congrArg _ hcontexts)⟩⟩
  rw [hsame ctx' hctx']
  simpa only [List.append_nil, List.nil_append, Except.toBool] using hceremony

/-- A rotation registers again with the factor on record. -/
theorem rotateLifecycle_cases {request : RotateLifecycleRequest}
    {r : Except WscdError RotationOutcome}
    (h : rotateLifecycle wire config client auth progress request s = (r, s', l)) :
    (∀ ctx, s.2.lookup request.contextId = some ctx →
        RunsCeremony .registration ctx.factorKind r.toBool l) ∧
      ((∃ e, r = .error e ∧ s'.2 = s.2) ∨
        ∃ ctx now, s.2.lookup request.contextId = some ctx ∧
          r = .ok ⟨request.contextId, .registered⟩ ∧
          s'.2 = s.2.insert request.contextId ⟨ctx.factorKind, .registered, now⟩) := by
  unfold rotateLifecycle at h
  rcases recordedFactor_bind_cases h with ⟨hnone, e, rfl, rfl, rfl⟩ | ⟨ctx, hctx, h₁⟩
  · exact ⟨fun ctx hctx => absurd (hnone.symm.trans hctx) nofun, .inl ⟨e, rfl, rfl⟩⟩
  have hsame : ∀ ctx', s.2.lookup request.contextId = some ctx' → ctx' = ctx := by
    intro ctx' hctx'
    exact Option.some.inj (hctx'.symm.trans hctx)
  rcases Traced.bind_cases h₁ with ⟨e, rfl, hregister⟩ | ⟨_, s₂, l₃, l₄, hregister, h₂, rfl⟩
  · obtain ⟨hceremony, ⟨e', -, hcontexts⟩ | ⟨now, hok, -⟩⟩ := registerLifecycle_cases hregister
    · refine ⟨fun ctx' hctx' => ?_, .inl ⟨e, rfl, hcontexts⟩⟩
      rw [hsame ctx' hctx']
      exact hceremony
    · cases hok
  obtain ⟨hceremony, ⟨e', herror, -⟩ | ⟨now, -, hcontexts⟩⟩ := registerLifecycle_cases hregister
  · cases herror
  obtain ⟨_, s₃, l₅, l₆, hmove, h₃, rfl⟩ :=
    Traced.bind_cases_of_total (fun _ => ⟨_, rfl⟩) h₂
  obtain ⟨-, rfl, hmoved⟩ :=
    moveContext_cases (hcontexts ▸ Finmap.lookup_insert s.2) hmove
  obtain ⟨rfl, rfl, rfl⟩ := Traced.pure_cases h₃
  refine ⟨fun ctx' hctx' => ?_, .inr ⟨ctx, client.nowUnix s₂.1, hctx, rfl, ?_⟩⟩
  · rw [hsame ctx' hctx']
    simpa only [List.append_nil, List.nil_append, Except.toBool] using hceremony
  · rw [hmoved, hcontexts, Finmap.insert_insert]

/-- The remote revocation a destruction asks for, and whether it succeeds. -/
def Revokes (client : LifecycleClient W) (reason : Option String) (w : W) : Prop :=
  (client.wiRevoke reason w).1 = .ok ()

/-- A revocation is not asked for, or performed, or failed; only strictly it must not fail. -/
theorem revoke_cases {mode : DestroyMode} {reason : Option String} {r : Except WscdError Bool}
    (h : revoke wire client mode reason s = (r, s', l)) :
    s'.2 = s.2 ∧ ((∃ e, r = .error e ∧ mode = .strict ∧ ¬ Revokes client reason s.1) ∨
      ∃ performed, r = .ok performed ∧ (performed = true ↔ .revoked reason (.ok ()) ∈ l) ∧
        (mode = .strict → performed = true ∧ Revokes client reason s.1)) := by
  unfold revoke at h
  by_cases hlocal : mode = .localOnly
  · rw [if_pos hlocal] at h
    obtain ⟨rfl, rfl, rfl⟩ := Traced.pure_cases h
    refine ⟨rfl, .inr ⟨false, rfl, by simp, fun hstrict => ?_⟩⟩
    rw [hlocal] at hstrict
    cases hstrict
  rw [if_neg hlocal] at h
  obtain ⟨answer, s₁, l₁, l₂, hask, h₁, rfl⟩ :=
    Traced.bind_cases_of_total (fun _ => ⟨_, rfl⟩) h
  obtain ⟨hanswer, rfl, rfl⟩ := Traced.draw_cases hask
  have hanswer : (client.wiRevoke reason s.1).1 = answer := (Except.ok.inj hanswer).symm
  rw [hanswer]
  cases answer with
  | ok u =>
    obtain ⟨rfl, rfl, rfl⟩ := Traced.pure_cases h₁
    exact ⟨rfl, .inr ⟨true, rfl, by simp, fun _ => ⟨rfl, hanswer⟩⟩⟩
  | error e =>
    have hfails : ¬ Revokes client reason s.1 := by
      unfold Revokes
      rw [hanswer]
      intro hok
      cases hok
    dsimp only at h₁
    by_cases hstrict : mode = .strict
    · rw [if_pos hstrict] at h₁
      obtain ⟨rfl, rfl, rfl⟩ := Traced.lift_cases h₁
      exact ⟨rfl, .inl ⟨_, rfl, hstrict, hfails⟩⟩
    · rw [if_neg hstrict] at h₁
      obtain ⟨rfl, rfl, rfl⟩ := Traced.pure_cases h₁
      exact ⟨rfl, .inr ⟨false, rfl, by simp, fun h => absurd h hstrict⟩⟩

/-- A destruction writes a fresh record; only a strict one whose revocation fails does not. -/
theorem destroyLifecycle_cases {request : DestroyLifecycleRequest}
    {r : Except WscdError DestructionOutcome}
    (h : destroyLifecycle wire client progress request s = (r, s', l)) :
    (∃ e, r = .error e ∧ s'.2 = s.2 ∧ request.mode = .strict ∧
        ¬ Revokes client request.reason (progress.onProgress (.started "destroy_lifecycle") s.1)) ∨
      ∃ performed now, r = .ok ⟨request.contextId, .destroyed, performed⟩ ∧
        s'.2 = s.2.insert request.contextId ⟨.opaqueFactor, .destroyed, now⟩ ∧
        (performed = true ↔ .revoked request.reason (.ok ()) ∈ l) ∧
        (request.mode = .strict → performed = true ∧
          Revokes client request.reason
            (progress.onProgress (.started "destroy_lifecycle") s.1)) := by
  unfold destroyLifecycle at h
  obtain ⟨_, s₁, l₁, l₂, hstart, h₁, rfl⟩ :=
    Traced.bind_cases_of_total (fun _ => ⟨_, rfl⟩) h
  obtain ⟨-, rfl, rfl⟩ := onProgress_cases hstart
  rcases Traced.bind_cases h₁ with ⟨e, rfl, hrevoke⟩ | ⟨performed, s₂, l₃, l₄, hrevoke, h₂, rfl⟩
  · obtain ⟨hcontexts, ⟨e', -, hstrict, hfails⟩ | ⟨performed, hok, -⟩⟩ := revoke_cases hrevoke
    · exact .inl ⟨e, rfl, hcontexts, hstrict, hfails⟩
    · cases hok
  obtain ⟨hcontexts, ⟨e', herror, -⟩ | ⟨performed', hok, hperformed, hstrict⟩⟩ :=
    revoke_cases hrevoke
  · cases herror
  cases hok
  obtain ⟨_, s₃, l₅, l₆, hinsert, h₃, rfl⟩ :=
    Traced.bind_cases_of_total (fun _ => ⟨_, rfl⟩) h₂
  obtain ⟨-, rfl, rfl⟩ := insertContext_cases hinsert
  obtain ⟨_, s₄, l₇, l₈, hend, h₄, rfl⟩ :=
    Traced.bind_cases_of_total (fun _ => ⟨_, rfl⟩) h₃
  obtain ⟨-, rfl, rfl⟩ := onProgress_cases hend
  obtain ⟨rfl, rfl, rfl⟩ := Traced.pure_cases h₄
  refine .inr ⟨performed, _, rfl, congrArg (Finmap.insert request.contextId _) hcontexts, ?_,
    hstrict⟩
  simpa only [List.append_nil, List.nil_append] using hperformed

end Operations

/-! ## Runs -/

/-- The factor an operation leaves on record for its context, by the one it finds. -/
def LifecycleCall.writes : LifecycleCall → Option FactorKind → Option FactorKind
  | .register request, _ => some request.factorKind
  | .activate _, recorded | .rotate _, recorded => recorded
  | .destroy _, _ => some .opaqueFactor

/-- The ceremony an operation runs with the factor on record. -/
def LifecycleCall.ceremony : LifecycleCall → Option Ceremony
  | .activate _ => some .authentication
  | .rotate _ => some .registration
  | .register _ | .destroy _ => none

def Contexts.recorded (σ : Contexts W) (contextId : String) : Option FactorKind :=
  (σ.lifecycle.lookup contextId).map LifecycleContext.factorKind

/-- Whatever was registered is on record with the factor it was last registered with. -/
def Contexts.RecordsRegistered (σ : Contexts W) : Prop :=
  ∀ contextId k, σ.registered contextId = some k → σ.recorded contextId = some k

section Runs

variable (wire : R2psWire) (config : R2psConfig) (client : LifecycleClient W)

/-- What holds of an operation in any state. -/
structure Lawful (σ : Contexts W) (a : Action W) : Prop where
  unchanged_on_error : ∀ e, (σ.perform wire config client a).1 = .error e →
    (step wire config client σ a).lifecycle = σ.lifecycle
  others_unchanged : ∀ contextId, contextId ≠ a.call.contextId →
    (step wire config client σ a).lifecycle.lookup contextId = σ.lifecycle.lookup contextId
  remote_performed : ∀ request outcome, a.call = .destroy request →
    (σ.perform wire config client a).1 = .ok outcome →
    ∃ destruction, outcome = .destroyed destruction ∧
      (destruction.remotePerformed = true ↔
        .revoked request.reason (.ok ()) ∈ (σ.perform wire config client a).2.2) ∧
      (request.mode = .strict → destruction.remotePerformed = true)

/-- A rotation or activation of a registered context runs the ceremony of the factor the
context was registered with, and no other. -/
def RunsRegistered (σ : Contexts W) (a : Action W) : Prop :=
  ∀ k c, σ.registered a.call.contextId = some k → a.call.ceremony = some c →
    RunsCeremony c k (σ.perform wire config client a).1.toBool (σ.perform wire config client a).2.2

/-- All along a run, the records have the registered factors and every operation behaves. -/
structure Upheld (σ : Contexts W) (actions : List (Action W)) : Prop where
  records : ∀ pre post, actions = pre ++ post →
    (run (step wire config client) σ pre).RecordsRegistered
  lawful : ∀ pre a post, actions = pre ++ a :: post →
    Lawful wire config client (run (step wire config client) σ pre) a
  runs : ∀ pre a post, actions = pre ++ a :: post →
    RunsRegistered wire config client (run (step wire config client) σ pre) a

/-- A destruction of a context recorded with another factor than OPAQUE fails: it is a strict
one, and the server refuses to revoke. -/
def KeepsFactor (σ : Contexts W) (a : Action W) : Prop :=
  ∀ request k, a.call = .destroy request → σ.recorded request.contextId = some k →
    k ≠ .opaqueFactor → request.mode = .strict ∧
      ¬ Revokes client request.reason (a.progress.onProgress (.started "destroy_lifecycle") σ.world)

variable {wire config client} {σ : Contexts W} {a : Action W}

theorem recorded_of_lookup {contextId : String} {ctx : LifecycleContext}
    (h : σ.lifecycle.lookup contextId = some ctx) :
    some ctx.factorKind = σ.recorded contextId := by
  unfold Contexts.recorded
  rw [h]
  rfl

/-- An operation fails and leaves the contexts, or rewrites the record of its context. -/
theorem perform_cases (wire : R2psWire) (config : R2psConfig) (client : LifecycleClient W)
    (σ : Contexts W) (a : Action W) :
    (∃ e, (σ.perform wire config client a).1 = .error e ∧
        (step wire config client σ a).lifecycle = σ.lifecycle) ∨
      ∃ outcome ctx, (σ.perform wire config client a).1 = .ok outcome ∧
        (step wire config client σ a).lifecycle = σ.lifecycle.insert a.call.contextId ctx ∧
        some ctx.factorKind = a.call.writes (σ.recorded a.call.contextId) := by
  obtain ⟨call, auth, progress⟩ := a
  rcases hperform : σ.perform wire config client ⟨call, auth, progress⟩ with ⟨r, s', l⟩
  have hstep : (step wire config client σ ⟨call, auth, progress⟩).lifecycle = s'.2 := by
    unfold step
    rw [hperform]
  rw [hstep]
  cases call with
  | register request =>
    obtain ⟨r₀, hregister, rfl⟩ := Traced.bind_pure_cases hperform
    rcases (registerLifecycle_cases hregister).2 with ⟨e, rfl, h⟩ | ⟨now, rfl, h⟩
    · exact .inl ⟨e, rfl, h⟩
    · exact .inr ⟨_, _, rfl, h, rfl⟩
  | activate request =>
    obtain ⟨r₀, hactivate, rfl⟩ := Traced.bind_pure_cases hperform
    rcases (activateLifecycle_cases hactivate).2 with ⟨e, rfl, h⟩ | ⟨ctx, now, hctx, rfl, h⟩
    · exact .inl ⟨e, rfl, h⟩
    · exact .inr ⟨_, _, rfl, h, (recorded_of_lookup hctx : some ctx.factorKind = _)⟩
  | rotate request =>
    obtain ⟨r₀, hrotate, rfl⟩ := Traced.bind_pure_cases hperform
    rcases (rotateLifecycle_cases hrotate).2 with ⟨e, rfl, h⟩ | ⟨ctx, now, hctx, rfl, h⟩
    · exact .inl ⟨e, rfl, h⟩
    · exact .inr ⟨_, _, rfl, h, (recorded_of_lookup hctx : some ctx.factorKind = _)⟩
  | destroy request =>
    obtain ⟨r₀, hdestroy, rfl⟩ := Traced.bind_pure_cases hperform
    rcases destroyLifecycle_cases hdestroy with ⟨e, rfl, h, -⟩ | ⟨performed, now, rfl, h, -⟩
    · exact .inl ⟨e, rfl, h⟩
    · exact .inr ⟨_, _, rfl, h, rfl⟩

theorem recorded_step_of_ok {outcome : LifecycleOutcome}
    (h : (σ.perform wire config client a).1 = .ok outcome) (contextId : String) :
    (step wire config client σ a).recorded contextId =
      if contextId = a.call.contextId then a.call.writes (σ.recorded contextId)
      else σ.recorded contextId := by
  rcases perform_cases wire config client σ a with
    ⟨e, herror, -⟩ | ⟨outcome', ctx, -, hcontexts, hwrites⟩
  · rw [herror] at h
    cases h
  unfold Contexts.recorded at hwrites ⊢
  rw [hcontexts, HashMap.lookup_insert_eq_ite]
  split_ifs with hc
  · rw [hc]
    exact hwrites
  · rfl

theorem lifecycle_step_of_error {e : WscdError}
    (h : (σ.perform wire config client a).1 = .error e) :
    (step wire config client σ a).lifecycle = σ.lifecycle := by
  rcases perform_cases wire config client σ a with
    ⟨e', -, hcontexts⟩ | ⟨outcome, ctx, hok, -⟩
  · exact hcontexts
  · rw [h] at hok
    cases hok

theorem lawful (wire : R2psWire) (config : R2psConfig) (client : LifecycleClient W)
    (σ : Contexts W) (a : Action W) : Lawful wire config client σ a where
  unchanged_on_error e h := lifecycle_step_of_error h
  others_unchanged contextId hother := by
    rcases perform_cases wire config client σ a
      with ⟨e, -, hcontexts⟩ | ⟨outcome, ctx, -, hcontexts, -⟩
    · rw [hcontexts]
    · rw [hcontexts, HashMap.lookup_insert_eq_ite, if_neg hother]
  remote_performed request outcome hcall hok := by
    obtain ⟨call, auth, progress⟩ := a
    cases hcall
    rcases hperform : σ.perform wire config client ⟨.destroy request, auth, progress⟩
      with ⟨r, s', l⟩
    rw [hperform] at hok
    obtain ⟨r₀, hdestroy, rfl⟩ := Traced.bind_pure_cases hperform
    rcases destroyLifecycle_cases hdestroy
      with ⟨e, rfl, -⟩ | ⟨performed, now, rfl, -, hlog, hstrict⟩
    · cases hok
    · cases hok
      exact ⟨_, rfl, hlog, fun h => (hstrict h).1⟩

/-- The ceremony is that of the factor on record. -/
theorem runsCeremony_of_recorded {k : FactorKind} {c : Ceremony}
    (hrecorded : σ.recorded a.call.contextId = some k) (hc : a.call.ceremony = some c) :
    RunsCeremony c k (σ.perform wire config client a).1.toBool
      (σ.perform wire config client a).2.2 := by
  obtain ⟨ctx, hctx, rfl⟩ := Option.map_eq_some_iff.mp hrecorded
  obtain ⟨call, auth, progress⟩ := a
  rcases hperform : σ.perform wire config client ⟨call, auth, progress⟩ with ⟨r, s', l⟩
  cases call with
  | activate request =>
    cases hc
    obtain ⟨r₀, hactivate, rfl⟩ := Traced.bind_pure_cases hperform
    have hceremony := (activateLifecycle_cases hactivate).1 ctx hctx
    cases r₀ <;> exact hceremony
  | rotate request =>
    cases hc
    obtain ⟨r₀, hrotate, rfl⟩ := Traced.bind_pure_cases hperform
    have hceremony := (rotateLifecycle_cases hrotate).1 ctx hctx
    cases r₀ <;> exact hceremony
  | register request => cases hc
  | destroy request => cases hc

theorem runsRegistered (h : σ.RecordsRegistered) : RunsRegistered wire config client σ a :=
  fun _ _ hregistered hc => runsCeremony_of_recorded (h _ _ hregistered) hc

/-! ### The registered factors along a run -/

/-- A record of another factor than OPAQUE is the work of a registration with it. -/
def Contexts.FactorsRegistered (σ : Contexts W) : Prop :=
  ∀ contextId k, σ.recorded contextId = some k → k ≠ .opaqueFactor →
    σ.registered contextId = some k

theorem step_of_error {e : WscdError} (h : (σ.perform wire config client a).1 = .error e)
    (contextId : String) :
    (step wire config client σ a).registered contextId = σ.registered contextId ∧
      (step wire config client σ a).recorded contextId = σ.recorded contextId := by
  constructor
  · obtain ⟨call, auth, progress⟩ := a
    unfold step
    rw [h]
    cases call <;> rfl
  · unfold Contexts.recorded
    rw [lifecycle_step_of_error h]

/-- Where an operation that returned has a context: of another context nothing changed; a
registration replaces both the factor registered and the one on record. -/
theorem step_of_ok {outcome : LifecycleOutcome}
    (h : (σ.perform wire config client a).1 = .ok outcome) (contextId : String) :
    ((step wire config client σ a).registered contextId = σ.registered contextId ∧
        (step wire config client σ a).recorded contextId = σ.recorded contextId) ∨
      (∃ k, (step wire config client σ a).registered contextId = some k ∧
        (step wire config client σ a).recorded contextId = some k) ∨
      ∃ request, a.call = .destroy request ∧ contextId = request.contextId ∧
        (step wire config client σ a).registered contextId = σ.registered contextId ∧
        (step wire config client σ a).recorded contextId = some .opaqueFactor := by
  have hrecorded := recorded_step_of_ok h contextId
  have hregistered : (step wire config client σ a).registered =
      registeredAfter σ.registered a.call (.ok outcome) := by
    unfold step
    rw [h]
  rw [hregistered, hrecorded]
  obtain ⟨call, auth, progress⟩ := a
  by_cases hc : contextId = call.contextId
  · rw [if_pos hc]
    cases call with
    | register request => exact .inr (.inl ⟨request.factorKind, if_pos hc, rfl⟩)
    | activate request => exact .inl ⟨rfl, rfl⟩
    | rotate request => exact .inl ⟨rfl, rfl⟩
    | destroy request => exact .inr (.inr ⟨request, rfl, hc, rfl, rfl⟩)
  · rw [if_neg hc]
    cases call with
    | register request => exact .inl ⟨if_neg hc, rfl⟩
    | activate request => exact .inl ⟨rfl, rfl⟩
    | rotate request => exact .inl ⟨rfl, rfl⟩
    | destroy request => exact .inl ⟨rfl, rfl⟩

/-- A destruction under the condition that returns does not change the factor on record. -/
theorem recorded_of_destroyed {request : DestroyLifecycleRequest} {outcome : LifecycleOutcome}
    {k : FactorKind} (hkeeps : KeepsFactor client σ a) (hcall : a.call = .destroy request)
    (h : (σ.perform wire config client a).1 = .ok outcome)
    (hrecorded : σ.recorded request.contextId = some k) : k = .opaqueFactor := by
  by_contra hk
  obtain ⟨hstrict, hfails⟩ := hkeeps request k hcall hrecorded hk
  obtain ⟨call, auth, progress⟩ := a
  cases hcall
  rcases hperform : σ.perform wire config client ⟨.destroy request, auth, progress⟩
    with ⟨r, s', l⟩
  rw [hperform] at h
  obtain ⟨r₀, hdestroy, rfl⟩ := Traced.bind_pure_cases hperform
  rcases destroyLifecycle_cases hdestroy with ⟨e, rfl, -⟩ | ⟨performed, now, -, -, -, hrevokes⟩
  · cases h
  · exact hfails (hrevokes hstrict).2

/-- Nothing destroys a context under the other half of the condition. -/
theorem ok_of_not_keepsFactor (wire : R2psWire) (config : R2psConfig)
    (h : ¬ KeepsFactor client σ a) :
    ∃ request k outcome, a.call = .destroy request ∧
      σ.recorded request.contextId = some k ∧ k ≠ .opaqueFactor ∧
      (σ.perform wire config client a).1 = .ok outcome := by
  unfold KeepsFactor at h
  push Not at h
  obtain ⟨request, k, hcall, hrecorded, hk, hrevokes⟩ := h
  obtain ⟨call, auth, progress⟩ := a
  cases hcall
  rcases hperform : σ.perform wire config client ⟨.destroy request, auth, progress⟩
    with ⟨r, s', l⟩
  obtain ⟨r₀, hdestroy, rfl⟩ := Traced.bind_pure_cases hperform
  rcases destroyLifecycle_cases hdestroy
    with ⟨e, -, -, hstrict, hfails⟩ | ⟨performed, now, rfl, -⟩
  · exact absurd (hrevokes hstrict) hfails
  · exact ⟨request, k, _, rfl, hrecorded, hk, rfl⟩

theorem Contexts.FactorsRegistered.step (wire : R2psWire) (config : R2psConfig)
    (client : LifecycleClient W) (h : σ.FactorsRegistered) (a : Action W) :
    (step wire config client σ a).FactorsRegistered := by
  intro contextId k hrecorded hk
  rcases hresult : (σ.perform wire config client a).1 with e | outcome
  · obtain ⟨hreg, hrec⟩ := step_of_error hresult contextId
    rw [hreg]
    exact h contextId k (hrec ▸ hrecorded) hk
  rcases step_of_ok hresult contextId with
    ⟨hreg, hrec⟩ | ⟨k', hreg, hrec⟩ | ⟨request, -, -, -, hrec⟩
  · rw [hreg]
    exact h contextId k (hrec ▸ hrecorded) hk
  · rw [hreg, ← hrec]
    exact hrecorded
  · rw [hrec] at hrecorded
    exact absurd (Option.some.inj hrecorded).symm hk

theorem Contexts.RecordsRegistered.step (h : σ.RecordsRegistered)
    (hkeeps : KeepsFactor client σ a) : (step wire config client σ a).RecordsRegistered := by
  intro contextId k hregistered
  rcases hresult : (σ.perform wire config client a).1 with e | outcome
  · obtain ⟨hreg, hrec⟩ := step_of_error hresult contextId
    rw [hrec]
    exact h contextId k (hreg ▸ hregistered)
  rcases step_of_ok hresult contextId with
    ⟨hreg, hrec⟩ | ⟨k', hreg, hrec⟩ | ⟨request, hcall, rfl, hreg, hrec⟩
  · rw [hrec]
    exact h contextId k (hreg ▸ hregistered)
  · rw [hrec, ← hreg]
    exact hregistered
  · -- a destroyed context keeps its factor only where that is the one written
    have hrecorded := h request.contextId k (hreg ▸ hregistered)
    rw [hrec, recorded_of_destroyed hkeeps hcall hresult hrecorded]

/-- A step against the condition leaves the record without the registered factor. -/
theorem not_recordsRegistered_step (wire : R2psWire) (config : R2psConfig)
    (h : σ.FactorsRegistered) (hbreaks : ¬ KeepsFactor client σ a) :
    ¬ (step wire config client σ a).RecordsRegistered := by
  obtain ⟨request, k, outcome, hcall, hrecorded, hk, hok⟩ :=
    ok_of_not_keepsFactor wire config hbreaks
  intro hrecords
  have hregistered : (Lifecycle.step wire config client σ a).registered request.contextId =
      some k := by
    rw [← h request.contextId k hrecorded hk]
    unfold Lifecycle.step registeredAfter
    rw [hcall]
  have hwritten := recorded_step_of_ok hok request.contextId
  rw [hcall] at hwritten
  rw [hrecords _ _ hregistered] at hwritten
  exact hk (Option.some.inj (hwritten.trans (if_pos rfl)))

/-- The registered factors stay on record all along a run, and every rotation and activation
runs the ceremony of its context's, exactly when no destruction of a context that is recorded
with another factor than OPAQUE succeeds. -/
theorem registered_factor_kept (wire : R2psWire) (config : R2psConfig)
    (client : LifecycleClient W) (world : W) (actions : List (Action W)) :
    Upheld wire config client (.start world) actions ↔
      Along (step wire config client) (KeepsFactor client) (.start world) actions := by
  have hstart : (Contexts.start world).RecordsRegistered ∧
      (Contexts.start world).FactorsRegistered := by
    refine ⟨fun contextId k h => ?_, fun contextId k h => ?_⟩ <;> cases h
  constructor
  · intro h
    by_contra hnot
    obtain ⟨pre, a, post, rfl, hbreaks⟩ := exists_step_of_not_along hnot
    have hfactors := run_keeps (I := Contexts.FactorsRegistered)
      (fun σ a hσ => Contexts.FactorsRegistered.step wire config client hσ a) pre hstart.2
    refine not_recordsRegistered_step wire config hfactors hbreaks ?_
    have hrecords := h.records (pre ++ [a]) post (by simp)
    rwa [run_append, run_cons, run_nil] at hrecords
  · intro h
    have hrecords : ∀ pre post, actions = pre ++ post →
        (run (step wire config client) (.start world) pre).RecordsRegistered := by
      rintro pre post rfl
      exact run_invariant (fun σ a hσ hkeeps => hσ.step hkeeps) hstart.1 (along_append.mp h).1
    exact ⟨hrecords, fun pre a post _ => lawful wire config client _ a,
      fun pre a post hactions => runsRegistered (hrecords pre _ hactions)⟩

end Runs

/-! ### A WebAuthn context destroyed locally -/

namespace FactorLossDemo

/-- A server that takes every registration and authentication. -/
def client : LifecycleClient Unit where
  register _ w := (.ok (), w)
  registerFido2 _ := .done fun w => (.ok (), w)
  authenticate _ w := (.ok (), w)
  authenticateFido2 _ _ _ := .done fun w => (.ok (), w)
  wiRevoke _ w := (.ok (), w)
  nowUnix _ := 0

def wire : R2psWire :=
  ⟨cborWire, base64urlDecode, fun _ => .error "", fun _ => .error "", fun _ => ""⟩

/-- An operation whose user has the PIN 1234. -/
def action (call : LifecycleCall) : Action Unit :=
  ⟨call, ⟨fun _ w => (.ok [49, 50, 51, 52], w), fun _ _ w => (.ok [49, 50, 51, 52], w),
    fun _ _ _ _ w => (.ok [], w)⟩, ⟨fun _ w => w⟩⟩

def config : R2psConfig := ⟨"webauthn", "example.com", []⟩

/-- Registered with WebAuthn, destroyed, and rotated. -/
def actions : List (Action Unit) :=
  [action (.register ⟨"r2ps", "ctx", .webAuthn⟩),
    action (.destroy ⟨"r2ps", "ctx", .localOnly, none⟩), action (.rotate ⟨"r2ps", "ctx"⟩)]

end FactorLossDemo

/-- The rotation of a destroyed WebAuthn context registers it with a PIN. -/
theorem registered_factor_lost :
    ¬ Upheld FactorLossDemo.wire FactorLossDemo.config FactorLossDemo.client (.start ())
      FactorLossDemo.actions := by
  intro h
  have hrotation := h.runs (FactorLossDemo.actions.take 2)
    (FactorLossDemo.action (.rotate ⟨"r2ps", "ctx"⟩)) [] rfl .webAuthn .registration rfl rfl
  have honly := hrotation.only (.registered [49, 50, 51, 52] (.ok ()))
    (by exact .tail _ (.head _)) (.registration, .opaqueFactor) rfl
  cases honly

end Lifecycle

end Wscd.R2psPlugin
