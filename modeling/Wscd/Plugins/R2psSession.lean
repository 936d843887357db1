import Wscd.Lib.Pool
import Wscd.Plugins.R2ps

/-!
# Calls of the R2PS plugin on one session

All calls of the R2PS plugin share one client with one session. In OPAQUE mode a signature
finds out whether it needs a PIN, asks for it, and only then takes the client's lock, under
which it authenticates and signs; `activate_lifecycle` replaces the session in the same way.
A `Place` is a call between two atomic steps, and any number of calls run on one client in
any order of steps.

Results:
1. `signWithFactors_alone`: a signature that nothing interrupts is the sequential operation.
-/

namespace Wscd.R2psPlugin

open Lib

/-! ## The client and its sessions -/

/-- A session: the PIN that established it, unless a WebAuthn ceremony did, and its number. -/
structure Session where
  pin : Option Secret
  serial : Nat
  deriving DecidableEq, Repr

/-- The session in force, and how many there have been. -/
structure Sessions where
  current : Option Session
  established : Nat
  numbered : ∀ s, current = some s → s.serial < established

namespace Sessions

/-- The session the next authentication establishes. -/
def next (sessions : Sessions) (pin : Option Secret) : Session := ⟨pin, sessions.established⟩

def establish (sessions : Sessions) (pin : Option Secret) : Sessions where
  current := some (sessions.next pin)
  established := sessions.established + 1
  numbered := by
    rintro s ⟨⟩
    exact Nat.lt_succ_self _

end Sessions

/-- The remote end. Which requests succeed is up to it; a signature is made under the session
the client has. -/
structure Server (W : Type) where
  isAuthenticated : Option Session → W → Bool
  authenticate : Option Session → Secret → W → Except R2psError Unit × W
  authenticateFido2 : Option Session → W → Except R2psError Unit × W
  rawSign : Option Session → List UInt8 → List UInt8 → W → Except R2psError (List UInt8) × W

variable {W : Type}

/-- An authentication replaces the session of the client, or fails and leaves it. -/
def Sessions.after (pin : Option Secret) (answer : W → Except R2psError Unit × W)
    (w : W × Sessions) : Except R2psError Unit × (W × Sessions) :=
  match answer w.1 with
  | (.ok (), w') => (.ok (), w', w.2.establish pin)
  | (.error e, w') => (.error e, w', w.2)

namespace Server

variable (server : Server W)

def client : R2psSession (W × Sessions) where
  isAuthenticated w := server.isAuthenticated w.2.current w.1
  authenticate pin w := Sessions.after (some pin) (server.authenticate w.2.current pin) w
  rawSign kid data w :=
    ((server.rawSign w.2.current kid data w.1).1, (server.rawSign w.2.current kid data w.1).2, w.2)

/-- `R2psClient::authenticate_fido2` -/
def clientFido2 (w : W × Sessions) : Except R2psError Unit × (W × Sessions) :=
  Sessions.after none (server.authenticateFido2 w.2.current) w

/-- The authentication of an activation: by a PIN, or by a WebAuthn ceremony. -/
def activate : Option Secret → W × Sessions → Except R2psError Unit × (W × Sessions)
  | some pin => server.client.authenticate pin
  | none => server.clientFido2

end Server

/-! ## Calls and their steps -/

/-- The plugin's own record of a context. -/
structure LifecycleContext where
  factorKind : FactorKind
  state : LifecycleState
  updatedAt : Int
  deriving DecidableEq, Repr

inductive Call where
  | signWithFactors (kid : KeyId) (data : List UInt8) (options : SignOptions)
  | activateLifecycle (request : ActivateLifecycleRequest) (now : Int)

inductive Outcome where
  | signed (outcome : SignOutcome)
  | activated (outcome : ActivationOutcome)
  deriving DecidableEq

/-- Where a call is; `inside` and `authenticated` hold the client's lock. -/
inductive Place where
  | start
  | deciding
  | prompting
  | collected (pin : Option Secret)
  | waiting (pin : Option Secret)
  | inside (pin : Option Secret)
  | authenticated (pin : Option Secret)
  | recording
  | completing (outcome : Outcome)
  | returned (result : Except WscdError Outcome)

/-- What a call has done with PINs and sessions. -/
inductive SessionEvent where
  | gavePin (pin : Secret)
  | established (s : Session)
  | refused
  | signed (session : Option Session) (signature : List UInt8)
  deriving DecidableEq, Repr

/-- A call with its own callbacks, where it is, and what it has done. -/
structure Thread (W : Type) where
  call : Call
  auth : AuthCallback W
  progress : ProgressCallback W
  place : Place
  log : List SessionEvent

/-- The client with what it is connected to, its lock, and the plugin's contexts. -/
structure Shared (W : Type) where
  world : W × Sessions
  locked : Bool
  lifecycle : HashMap String LifecycleContext

def Thread.go (t : Thread W) (place : Place) : Thread W := { t with place := place }

def Thread.note (t : Thread W) (event : SessionEvent) : Thread W :=
  { t with log := t.log ++ [event] }

/-- The world is reported progress to. -/
def Shared.onProgress (s : Shared W) (progress : ProgressCallback W) (p : OperationProgress) :
    Shared W :=
  { s with world := (progress.onProgress p s.world.1, s.world.2) }

def Shared.unlock (s : Shared W) (world : W × Sessions) : Shared W :=
  { s with world := world, locked := false }

section Steps

variable (wire : R2psWire) (server : Server W) (nfc : String → String)
  (setLastAmr : List String → W → W)

/-- The prompt for a PIN; the client is not locked meanwhile. -/
def prompt (next : Option Secret → Place) (t : Thread W) (s : Shared W) : Thread W × Shared W :=
  match t.auth.requestPin "r2ps" s.world.1 with
  | (.error e, w') => (t.go (.returned (.error e)), { s with world := (w', s.world.2) })
  | (.ok pin, w') =>
    ((t.note (.gavePin pin)).go (next (some pin)), { s with world := (w', s.world.2) })

/-- The lock, taken once it is free. -/
def takeLock (pin : Option Secret) (t : Thread W) (s : Shared W) : Thread W × Shared W :=
  if s.locked then (t, s) else (t.go (.inside pin), { s with locked := true })

/-- The steps of a signature. -/
def signStep (kid : KeyId) (data : List UInt8) (options : SignOptions) (t : Thread W)
    (s : Shared W) : Thread W × Shared W :=
  match t.place with
  | .start =>
    match options.validate with
    | .error e => (t.go (.returned (.error e)), s)
    | .ok () =>
      (t.go .deciding,
        (s.onProgress t.progress (.started "sign")).onProgress t.progress .waitingForUser)
  | .deciding =>
    if options.requireFreshUserAuthentication then (t.go .prompting, s)
    else if s.locked then (t, s)
    else if server.client.isAuthenticated s.world then (t.go (.collected none), s)
    else (t.go .prompting, s)
  | .prompting => prompt .collected t s
  | .collected pin => (t.go (.waiting pin), s.onProgress t.progress (.networkRoundTrip 1 1))
  | .waiting pin => takeLock pin t s
  | .inside none => (t.go (.authenticated none), s)
  | .inside (some pin) =>
    match server.client.authenticate pin s.world with
    | (.error e, world) =>
      ((t.note .refused).go (.returned (clientResult wire "OPAQUE auth" (.error e))),
        s.unlock world)
    | (.ok (), world) =>
      ((t.note (.established (s.world.2.next (some pin)))).go (.authenticated (some pin)),
        { s with world := world })
  | .authenticated pin =>
    match server.client.rawSign (utf8 kid.asStr) data s.world with
    | (.error e, world) =>
      (t.go (.returned (clientResult wire "R2PS sign" (.error e))), s.unlock world)
    | (.ok signature, world) =>
      ((t.note (.signed s.world.2.current signature)).go
          (.completing (.signed ⟨⟨signature⟩, deriveFactors "key_in_remote_wscd"
            (pin.map (classifyPin nfc "r2ps")) false none options
            ("no PIN was entered for this sign: a cached session was reused " ++
              "(set require_fresh_user_authentication)")⟩)),
        s.unlock (setLastAmr ["pwd"] world.1, world.2))
  | .recording => (t, s)
  | .completing outcome =>
    (t.go (.returned (.ok outcome)), s.onProgress t.progress .complete)
  | .returned _ => (t, s)

/-- The steps of an activation. -/
def activateStep (request : ActivateLifecycleRequest) (now : Int) (t : Thread W)
    (s : Shared W) : Thread W × Shared W :=
  match t.place with
  | .start => (t.go .deciding, s.onProgress t.progress (.started "activate_lifecycle"))
  | .deciding =>
    match (s.lifecycle.lookup request.contextId).map LifecycleContext.factorKind with
    | none => (t.go (.returned (.error (.keyNotFound request.contextId))), s)
    | some .opaqueFactor => (t.go .prompting, s)
    | some .webAuthn => (t.go (.waiting none), s)
    | some .rawSign =>
      (t.go (.returned (.error (.unsupported "r2ps" "activate_lifecycle(raw_sign)"))), s)
  | .prompting => prompt .waiting t s
  | .collected pin => (t.go (.waiting pin), s)
  | .waiting pin => takeLock pin t s
  | .inside pin =>
    match server.activate pin s.world with
    | (.error e, world) =>
      ((t.note .refused).go (.returned (clientResult wire
        (if pin.isSome then "OPAQUE auth" else "FIDO2 auth") (.error e))), s.unlock world)
    | (.ok (), world) =>
      ((t.note (.established (s.world.2.next pin))).go .recording, s.unlock world)
  | .authenticated _ => (t, s)
  | .recording =>
    let lifecycle :=
      match s.lifecycle.lookup request.contextId with
      | some ctx =>
        s.lifecycle.insert request.contextId { ctx with state := .active, updatedAt := now }
      | none => s.lifecycle
    (t.go (.completing (.activated ⟨request.contextId, .active⟩)),
      { s with lifecycle := lifecycle })
  | .completing outcome =>
    (t.go (.returned (.ok outcome)), s.onProgress t.progress .complete)
  | .returned _ => (t, s)

def step (t : Thread W) (s : Shared W) : Thread W × Shared W :=
  match t.call with
  | .signWithFactors kid data options =>
    signStep wire server nfc setLastAmr kid data options t s
  | .activateLifecycle request now => activateStep wire server request now t s

end Steps

/-! ### A signature on its own -/

section Alone

variable (wire : R2psWire) (server : Server W) (nfc : String → String)
  (setLastAmr : List String → W → W) (auth : AuthCallback W) (progress : ProgressCallback W)
  (kid : KeyId) (data : List UInt8) (options : SignOptions)
  (lifecycle : HashMap String LifecycleContext)

/-- What surrounds a call of the plugin, with the sessions beside the outside. -/
def sessionHost
    (signWithSad : String → List String → String → List UInt8 →
      CeremonyCall (W × Sessions) (List UInt8)) : R2psHost (W × Sessions) where
  client := { server.client with signWithSad := signWithSad }
  progress := progress.beside
  setLastAmr amr w := (setLastAmr amr w.1, w.2)

/-- `signOpaque` once the PIN is collected. -/
def signCollected {S : Type} (session : R2psSession S) (progress : ProgressCallback S)
    (setLastAmr : List String → S → S) (pin : Option Secret) : HostM S (List UInt8) := do
  HostM.onProgress progress (.networkRoundTrip 1 1)
  authenticate wire session pin
  let signature ← rawSign wire session kid data
  Traced.modify (setLastAmr ["pwd"])
  return signature

/-- What `signWithFactors` returns for a signature or an error of `signCollected`. -/
def withFactors (pin : Option Secret) (r : Except WscdError (List UInt8)) (w : W × Sessions) :
    Except WscdError SignOutcome × (W × Sessions) :=
  match r with
  | .error e => (.error e, w)
  | .ok signature =>
    (.ok ⟨⟨signature⟩, deriveFactors "key_in_remote_wscd" (pin.map (classifyPin nfc "r2ps")) false
      none options ("no PIN was entered for this sign: a cached session was reused " ++
        "(set require_fresh_user_authentication)")⟩,
      progress.onProgress .complete w.1, w.2)

/-- The call on its own, from a place. -/
def aloneFrom (n : Nat) (place : Place) (w : W × Sessions) (log : List SessionEvent) :
    Thread W × Shared W :=
  Pool.alone (step wire server nfc setLastAmr) n
    ⟨.signWithFactors kid data options, auth, progress, place, log⟩ ⟨w, false, lifecycle⟩

/-- The call has returned `r` and left the lock free. -/
def EndsAs (r : Except WscdError SignOutcome × (W × Sessions)) (q : Thread W × Shared W) : Prop :=
  q.1.place = .returned (r.1.map .signed) ∧ q.2 = ⟨r.2, false, lifecycle⟩

/-- From the collected PIN on: a step for the lock, one each for the two requests. -/
theorem collected_alone (pin : Option Secret) (w : W × Sessions) (log : List SessionEvent) :
    let r := signCollected wire kid data server.client progress.beside
      (fun amr w => (setLastAmr amr w.1, w.2)) pin w
    EndsAs lifecycle (withFactors nfc progress options pin r.1 r.2.1)
      (aloneFrom wire server nfc setLastAmr auth progress kid data options lifecycle 5
        (.collected pin) w log) := by
  generalize hw₁ : (progress.onProgress (.networkRoundTrip 1 1) w.1, w.2) = w₁
  have hround : HostM.onProgress progress.beside (.networkRoundTrip 1 1) w = (.ok (), w₁, []) := by
    rw [← hw₁]
    rfl
  -- the last two steps, once the session is settled
  have hsign : ∀ (w₂ : W × Sessions) (log : List SessionEvent),
      let r := (rawSign wire server.client kid data >>= fun signature =>
        Traced.modify (fun w => (setLastAmr ["pwd"] w.1, w.2)) >>= fun _ => pure signature :
          HostM (W × Sessions) (List UInt8)) w₂
      EndsAs lifecycle (withFactors nfc progress options pin r.1 r.2.1)
        (Pool.alone (step wire server nfc setLastAmr) 2
          ⟨.signWithFactors kid data options, auth, progress, .authenticated pin, log⟩
          ⟨w₂, true, lifecycle⟩) := by
    intro w₂ log r
    rcases hanswer : server.client.rawSign (utf8 kid.asStr) data w₂ with ⟨e | signature, w₃⟩
    · have hr : r = (clientResult wire "R2PS sign" (.error e), w₃, _) :=
        Traced.bind_of_error (Traced.bind_of_ok (Traced.draw_ok_iff.mpr ⟨hanswer, rfl⟩) rfl)
      simp only [hr, Pool.alone, step, signStep, hanswer]
      exact ⟨rfl, rfl⟩
    · have hr : r = (.ok signature, (setLastAmr ["pwd"] w₃.1, w₃.2), _) :=
        Traced.bind_of_ok (Traced.bind_of_ok (Traced.draw_ok_iff.mpr ⟨hanswer, rfl⟩) rfl) rfl
      simp only [hr, Pool.alone, step, signStep, hanswer]
      exact ⟨rfl, rfl⟩
  have hlocked : aloneFrom wire server nfc setLastAmr auth progress kid data options lifecycle 5
      (.collected pin) w log = Pool.alone (step wire server nfc setLastAmr) 3
        ⟨.signWithFactors kid data options, auth, progress, .inside pin, log⟩
        ⟨w₁, true, lifecycle⟩ := by
    rw [← hw₁]
    rfl
  intro r
  rw [hlocked]
  cases pin with
  | none =>
    have hr : r = _ := Traced.bind_of_ok hround (Traced.bind_of_ok rfl rfl)
    rw [hr]
    exact hsign w₁ log
  | some pin =>
    -- the session is authenticated first; where that fails nothing is signed
    rcases hanswer : server.client.authenticate pin w₁ with ⟨e | _, w₂⟩
    · have hr : r = (clientResult wire "OPAQUE auth" (.error e), w₂, _) :=
        Traced.bind_of_ok hround (Traced.bind_of_error
          (Traced.bind_of_ok (Traced.draw_ok_iff.mpr ⟨hanswer, rfl⟩) rfl))
      simp only [hr, Pool.alone, step, signStep, hanswer]
      exact ⟨rfl, rfl⟩
    · have hr : r = _ := Traced.bind_of_ok hround (Traced.bind_of_ok
        (Traced.bind_of_ok (Traced.draw_ok_iff.mpr ⟨hanswer, rfl⟩) rfl) rfl)
      rw [hr, Pool.alone]
      simp only [step, signStep, hanswer]
      exact hsign w₂ _

variable (signWithSad : String → List String → String → List UInt8 →
  CeremonyCall (W × Sessions) (List UInt8)) (config : R2psConfig)

/-- The sequential operation from its second progress report on, the recorder beside it. -/
theorem signWithFactors_eq (hmode : config.authMode = "opaque")
    (hvalid : options.validate = .ok ()) (w : W × Sessions) :
    signWithFactors wire config auth.beside
        (sessionHost server setLastAmr progress signWithSad) nfc kid data options w =
      (Traced.withLocal []
        (collectOpaquePin config (recordingAuth nfc auth.beside)
            (server.client.beside (T := List (Option String))).isAuthenticated
            options.requireFreshUserAuthentication >>= fun pin =>
          signCollected wire kid data server.client.beside (progress.beside (T := Sessions)).beside
            (fun amr w => ((setLastAmr amr w.1.1, w.1.2), w.2)) pin) >>= fun signed =>
        HostM.onProgress progress.beside .complete >>= fun _ =>
          pure ⟨⟨signed.1⟩, deriveFactors "key_in_remote_wscd" signed.2.getLast? false none options
            ("no PIN was entered for this sign: a cached session was reused " ++
              "(set require_fresh_user_authentication)")⟩ : HostM (W × Sessions) SignOutcome)
      (progress.onProgress .waitingForUser (progress.onProgress (.started "sign") w.1), w.2) := by
  simp only [signWithFactors, hvalid, hmode]
  simp only [String.reduceEq, decide_false, Bool.and_false, Bool.false_eq_true, if_false]
  rfl

/-- A run with the recorder, from the collected PIN on: the recorder is left alone. -/
theorem signWithFactors_of_collected (hmode : config.authMode = "opaque")
    (hvalid : options.validate = .ok ()) {pin : Option Secret} {w w₁ : W × Sessions}
    {pins : List (Option String)} {l : List HostEvent}
    (hcollect : collectOpaquePin config (recordingAuth nfc auth.beside)
      (server.client.beside (T := List (Option String))).isAuthenticated
      options.requireFreshUserAuthentication
      ((progress.onProgress .waitingForUser (progress.onProgress (.started "sign") w.1), w.2), []) =
        (.ok pin, (w₁, pins), l))
    (hpins : pins.getLast? = pin.map (classifyPin nfc "r2ps")) :
    ((signWithFactors wire config auth.beside
        (sessionHost server setLastAmr progress signWithSad) nfc kid data options w).1,
      (signWithFactors wire config auth.beside
        (sessionHost server setLastAmr progress signWithSad) nfc kid data options w).2.1) =
      withFactors nfc progress options pin
        (signCollected wire kid data server.client progress.beside
          (fun amr w => (setLastAmr amr w.1, w.2)) pin w₁).1
        (signCollected wire kid data server.client progress.beside
          (fun amr w => (setLastAmr amr w.1, w.2)) pin w₁).2.1 := by
  have hlifts : Traced.Lifts
      (signCollected wire kid data (server.client.beside (T := List (Option String)))
        (progress.beside (T := Sessions)).beside
        (fun amr w => ((setLastAmr amr w.1.1, w.1.2), w.2)) pin)
      (signCollected wire kid data server.client progress.beside
        (fun amr w => (setLastAmr amr w.1, w.2)) pin) := by
    refine Traced.Lifts.bind (fun _ _ => rfl) fun _ => Traced.Lifts.bind ?_ fun _ =>
      Traced.Lifts.bind (Traced.Lifts.bind (fun _ _ => rfl) fun _ _ _ => rfl) fun _ =>
        Traced.Lifts.bind (fun _ _ => rfl) fun _ _ _ => rfl
    cases pin with
    | none => exact fun _ _ => rfl
    | some pin => exact Traced.Lifts.bind (fun _ _ => rfl) fun _ _ _ => rfl
  have hlifted := hlifts w₁ pins
  rw [signWithFactors_eq wire server nfc setLastAmr auth progress kid data options signWithSad
    config hmode hvalid w]
  generalize signCollected wire kid data server.client progress.beside
    (fun amr w => (setLastAmr amr w.1, w.2)) pin w₁ = r' at hlifted ⊢
  obtain ⟨e | signature, w₂, l₂⟩ := r'
  · rw [Traced.bind_of_error (Traced.withLocal_of_error (Traced.bind_of_ok hcollect hlifted))]
    rfl
  · rw [Traced.bind_of_ok
      (Traced.withLocal_ok_iff.mpr (Traced.bind_of_ok hcollect hlifted)) rfl]
    simp only [withFactors, ← hpins]
    rfl

section Collect

variable {S : Type} (auth : AuthCallback S) (isAuthenticated : S → Bool) {fresh : Bool} (s : S)

theorem collectOpaquePin_of_reuse (hmode : config.authMode = "opaque")
    (h : (!fresh && isAuthenticated s) = true) :
    collectOpaquePin config auth isAuthenticated fresh s = (.ok none, s, []) := by
  unfold collectOpaquePin
  rw [if_neg (not_not_intro hmode)]
  refine Traced.bind_of_ok (l := []) (Traced.get_ok_iff.mpr ⟨rfl, rfl, rfl⟩) ?_
  rw [if_pos h]
  rfl

theorem collectOpaquePin_of_prompt (hmode : config.authMode = "opaque")
    (h : ¬ (!fresh && isAuthenticated s) = true) :
    collectOpaquePin config auth isAuthenticated fresh s =
      ((auth.requestPin "r2ps" s).1.map some, (auth.requestPin "r2ps" s).2,
        [.requestedPin "r2ps" (auth.requestPin "r2ps" s).1]) := by
  unfold collectOpaquePin
  rw [if_neg (not_not_intro hmode)]
  refine Traced.bind_of_ok (l := [_]) (Traced.get_ok_iff.mpr ⟨rfl, rfl, rfl⟩) ?_
  rw [if_neg h]
  rcases hanswer : auth.requestPin "r2ps" s with ⟨e | pin, s'⟩
  · refine Traced.bind_of_error ?_
    simp only [HostM.requestPin, Traced.ask, hanswer]
  · refine Traced.bind_of_ok (Traced.ask_ok_iff.mpr ⟨hanswer, rfl⟩) rfl

end Collect

section Steps

variable {w w' : W × Sessions} (log : List SessionEvent) (n : Nat)

theorem alone_start (hvalid : options.validate = .ok ()) :
    aloneFrom wire server nfc setLastAmr auth progress kid data options lifecycle (n + 1) .start w
        log =
      aloneFrom wire server nfc setLastAmr auth progress kid data options lifecycle n .deciding
        (progress.onProgress .waitingForUser (progress.onProgress (.started "sign") w.1), w.2)
        log := by
  unfold aloneFrom
  rw [Pool.alone]
  simp only [step, signStep, hvalid]
  rfl

theorem alone_reuse
    (h : (!options.requireFreshUserAuthentication && server.client.isAuthenticated w) = true) :
    aloneFrom wire server nfc setLastAmr auth progress kid data options lifecycle (n + 1)
        .deciding w log =
      aloneFrom wire server nfc setLastAmr auth progress kid data options lifecycle n
        (.collected none) w log := by
  obtain ⟨hfresh, hauth⟩ := Bool.and_eq_true_iff.mp h
  have hfresh : options.requireFreshUserAuthentication = false := by simpa using hfresh
  unfold aloneFrom
  rw [Pool.alone]
  simp only [step, signStep, hauth, hfresh]
  rfl

theorem alone_decide
    (h : ¬ (!options.requireFreshUserAuthentication && server.client.isAuthenticated w) = true) :
    aloneFrom wire server nfc setLastAmr auth progress kid data options lifecycle (n + 1)
        .deciding w log =
      aloneFrom wire server nfc setLastAmr auth progress kid data options lifecycle n .prompting w
        log := by
  unfold aloneFrom
  rw [Pool.alone]
  simp only [step, signStep]
  cases hfresh : options.requireFreshUserAuthentication with
  | true => rfl
  | false =>
    have hauth : server.client.isAuthenticated w = false := by simpa [hfresh] using h
    simp only [hauth]
    rfl

theorem alone_prompt {pin : Secret} {w₁ : W}
    (hanswer : auth.requestPin "r2ps" w.1 = (.ok pin, w₁)) :
    aloneFrom wire server nfc setLastAmr auth progress kid data options lifecycle (n + 1)
        .prompting w log =
      aloneFrom wire server nfc setLastAmr auth progress kid data options lifecycle n
        (.collected (some pin)) (w₁, w.2) (log ++ [.gavePin pin]) := by
  unfold aloneFrom
  rw [Pool.alone]
  simp only [step, signStep, prompt, hanswer]
  rfl

end Steps

/-- A signature that nothing interrupts is the sequential operation. -/
theorem signWithFactors_alone (hmode : config.authMode = "opaque") (w : W × Sessions) :
    let r := signWithFactors wire config auth.beside
      (sessionHost server setLastAmr progress signWithSad) nfc kid data options w
    ∃ n, EndsAs lifecycle (r.1, r.2.1)
      (aloneFrom wire server nfc setLastAmr auth progress kid data options lifecycle n .start w
        []) := by
  intro r
  cases hvalid : options.validate with
  | error e =>
    have hr : r = (.error e, w, []) := by
      simp only [r, signWithFactors, hvalid]
      rfl
    refine ⟨1, ?_⟩
    rw [hr]
    simp only [EndsAs, aloneFrom, Pool.alone, step, signStep, hvalid]
    exact ⟨rfl, trivial⟩
  | ok _ =>
    have hsequential := fun pin w₁ pins l => @signWithFactors_of_collected W wire server nfc
      setLastAmr auth progress kid data options signWithSad config hmode hvalid pin w w₁ pins l
    have hequation := signWithFactors_eq wire server nfc setLastAmr auth progress kid data options
      signWithSad config hmode hvalid w
    have hstart := fun n => alone_start wire server nfc setLastAmr auth progress kid data options
      lifecycle (w := w) [] n hvalid
    generalize (progress.onProgress .waitingForUser (progress.onProgress (.started "sign") w.1),
      w.2) = w₁ at hsequential hequation hstart
    have hcollected := collected_alone wire server nfc setLastAmr auth progress kid data options
      lifecycle
    by_cases hreuse : (!options.requireFreshUserAuthentication &&
      server.client.isAuthenticated w₁) = true
    · -- no PIN is asked for: two steps to where a PIN would be at hand, and five from there
      refine ⟨7, ?_⟩
      rw [hsequential none w₁ [] [] (collectOpaquePin_of_reuse _ _ _ _ hmode hreuse) rfl, hstart,
        alone_reuse _ _ _ _ _ _ _ _ _ _ [] 5 hreuse]
      exact hcollected none w₁ []
    · have hcollect := collectOpaquePin_of_prompt config (recordingAuth nfc auth.beside)
        (server.client.beside (T := List (Option String))).isAuthenticated (w₁, []) hmode hreuse
      have hdeciding := fun n => alone_decide wire server nfc setLastAmr auth progress kid data
        options lifecycle [] n hreuse
      rcases hanswer : auth.requestPin "r2ps" w₁.1 with ⟨e | pin, w₂⟩
      · have hrecorded : (recordingAuth nfc auth.beside).requestPin "r2ps" (w₁, []) =
            (.error e, (w₂, w₁.2), []) := by
          simp [recordingAuth, AuthCallback.beside, hanswer]
        rw [hrecorded] at hcollect
        refine ⟨3, ?_⟩
        rw [show r = _ from hequation.trans
          (Traced.bind_of_error (Traced.withLocal_of_error (Traced.bind_of_error hcollect))),
          hstart, hdeciding]
        simp only [EndsAs, aloneFrom, Pool.alone, step, signStep, prompt, hanswer]
        exact ⟨rfl, trivial⟩
      · have hrecorded : (recordingAuth nfc auth.beside).requestPin "r2ps" (w₁, []) =
            (.ok pin, (w₂, w₁.2), [classifyPin nfc "r2ps" pin]) := by
          simp [recordingAuth, AuthCallback.beside, hanswer]
        rw [hrecorded] at hcollect
        refine ⟨8, ?_⟩
        rw [hsequential _ _ _ _ hcollect rfl, hstart, hdeciding,
          alone_prompt _ _ _ _ _ _ _ _ _ _ [] 5 hanswer]
        exact hcollected _ _ _

end Alone

end Wscd.R2psPlugin
