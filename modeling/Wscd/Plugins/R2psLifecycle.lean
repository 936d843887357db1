import Wscd.Lib.Run
import Wscd.Plugins.R2psSession

/-!
# Lifecycle contexts of the R2PS plugin

A context of the R2PS plugin is a factor to authenticate with, where it is in its lifecycle,
and when it last changed. A registration and an activation run the ceremony of the factor
against the server; a rotation registers again with the factor the record has; a destruction
may revoke the wallet instance at the server first.

The client's answers are up to the outside. The log has what the host was asked, and every
request of the client about a context with its answer.
-/

namespace Wscd.R2psPlugin

open Lib

/-! ## What the operations ask -/

inductive LifecycleEvent where
  | host (event : HostEvent)
  | registered (pin : Secret) (answer : Except R2psError Unit)
  | registeredFido2 (answer : Except R2psError Unit)
  | authenticated (pin : Secret) (answer : Except R2psError Unit)
  | authenticatedFido2 (answer : Except R2psError Unit)
  | revoked (reason : Option String) (answer : Except R2psError Unit)

/-- The requests of the client that the lifecycle of a context makes, and the clock. -/
structure LifecycleClient (W : Type) where
  register : Secret → W → Except R2psError Unit × W
  registerFido2 : String → CeremonyCall W Unit
  authenticate : Secret → W → Except R2psError Unit × W
  authenticateFido2 : String → String → List String → CeremonyCall W Unit
  wiRevoke : Option String → W → Except R2psError Unit × W
  nowUnix : W → Int

/-- An operation works on the outside and on the plugin's contexts. -/
abbrev LifecycleM (W α : Type) : Type :=
  Traced LifecycleEvent (W × HashMap String LifecycleContext) WscdError α

namespace Lifecycle

variable {W : Type}

section Operations

variable (wire : R2psWire) (config : R2psConfig) (client : LifecycleClient W)
  (auth : AuthCallback W) (progress : ProgressCallback W)

def hosted {α : Type} (x : HostM W α) : LifecycleM W α := Traced.embed .host x

def onProgress (p : OperationProgress) : LifecycleM W Unit := hosted (HostM.onProgress progress p)

def requestPin : LifecycleM W Secret := hosted (HostM.requestPin auth id)

/-- A request the client exchanges with the server by itself. -/
def request (send : W → Except R2psError Unit × W) (event : Except R2psError Unit → LifecycleEvent) :
    LifecycleM W (Except R2psError Unit) :=
  Traced.draw (fun w => ((send w.1).1, (send w.1).2, w.2)) event

/-- A request of the client that runs a WebAuthn ceremony. -/
def ceremony (call : CeremonyCall W Unit) (event : Except R2psError Unit → LifecycleEvent) :
    LifecycleM W (Except R2psError Unit) := do
  let (answer, _) ← hosted (Traced.withLocal CeremonyRecord.new (call.run wire auth))
  Traced.draw (fun w => (answer, w)) event

def registerFido2 : LifecycleM W Unit := do
  let answer ← ceremony wire auth (client.registerFido2 config.rpId) .registeredFido2
  Traced.lift (clientResult wire "FIDO2 registration" answer)

/-- The ceremony of a registration. -/
def registerFactor : FactorKind → LifecycleM W Unit
  | .opaqueFactor => do
    let pin ← requestPin auth
    let answer ← request (client.register pin) (.registered pin)
    Traced.lift (clientResult wire "OPAQUE registration" answer)
  | .webAuthn =>
    if config.rpId = "" then
      Traced.lift (.error (.plugin "R2PS WebAuthn mode requires non-empty rp_id"))
    else registerFido2 wire config client auth
  | .rawSign => Traced.lift (.error (.unsupported id "register_lifecycle(raw_sign)"))

/-- The ceremony of an activation. -/
def authenticateFactor : FactorKind → LifecycleM W Unit
  | .opaqueFactor => do
    let pin ← requestPin auth
    let answer ← request (client.authenticate pin) (.authenticated pin)
    Traced.lift (clientResult wire "OPAQUE auth" answer)
  | .webAuthn => do
    let answer ← ceremony wire auth
      (client.authenticateFido2 config.rpId "session" config.allowedCredentialIds)
      .authenticatedFido2
    Traced.lift (clientResult wire "FIDO2 auth" answer)
  | .rawSign => Traced.lift (.error (.unsupported id "activate_lifecycle(raw_sign)"))

/-- The factor on record, which the operation goes on with. -/
def recordedFactor (contextId : String) : LifecycleM W FactorKind := do
  match ← Traced.get fun w => (w.2.lookup contextId).map LifecycleContext.factorKind with
  | some factorKind => return factorKind
  | none => Traced.lift (.error (.keyNotFound contextId))

/-- A fresh record of the context. -/
def insertContext (contextId : String) (factorKind : FactorKind) (state : LifecycleState) :
    LifecycleM W Unit :=
  Traced.modify fun w => (w.1, w.2.insert contextId ⟨factorKind, state, client.nowUnix w.1⟩)

/-- The record of the context in another state, if there is one. -/
def moveContext (contextId : String) (state : LifecycleState) : LifecycleM W Unit :=
  Traced.modify fun w =>
    match w.2.lookup contextId with
    | some ctx =>
      (w.1, w.2.insert contextId { ctx with state := state, updatedAt := client.nowUnix w.1 })
    | none => w

def registerLifecycle (request : RegisterLifecycleRequest) : LifecycleM W RegistrationOutcome := do
  onProgress progress (.started "register_lifecycle")
  registerFactor wire config client auth request.factorKind
  insertContext client request.contextId request.factorKind .registered
  onProgress progress .complete
  return ⟨request.contextId, .registered⟩

def activateLifecycle (request : ActivateLifecycleRequest) : LifecycleM W ActivationOutcome := do
  onProgress progress (.started "activate_lifecycle")
  let factorKind ← recordedFactor request.contextId
  authenticateFactor wire config client auth factorKind
  moveContext client request.contextId .active
  onProgress progress .complete
  return ⟨request.contextId, .active⟩

def rotateLifecycle (request : RotateLifecycleRequest) : LifecycleM W RotationOutcome := do
  let factorKind ← recordedFactor request.contextId
  let _ ← registerLifecycle wire config client auth progress
    ⟨request.pluginId, request.contextId, factorKind⟩
  moveContext client request.contextId .registered
  return ⟨request.contextId, .registered⟩

/-- The remote side of a destruction, and whether it was performed. -/
def revoke (mode : DestroyMode) (reason : Option String) : LifecycleM W Bool :=
  if mode = .localOnly then pure false
  else do
    match ← request (client.wiRevoke reason) (.revoked reason) with
    | .ok () => return true
    | .error e =>
      if mode = .strict then
        Traced.lift
          (.error (.plugin s!"strict destroy failed remote revoke: {wire.displayError e}"))
      else return false

/-- The record written is a fresh one, and names the OPAQUE factor whatever was recorded. -/
def destroyLifecycle (request : DestroyLifecycleRequest) : LifecycleM W DestructionOutcome := do
  onProgress progress (.started "destroy_lifecycle")
  let remotePerformed ← revoke wire client request.mode request.reason
  insertContext client request.contextId .opaqueFactor .destroyed
  onProgress progress .complete
  return ⟨request.contextId, .destroyed, remotePerformed⟩

end Operations

/-! ## Runs -/

inductive LifecycleCall where
  | register (request : RegisterLifecycleRequest)
  | activate (request : ActivateLifecycleRequest)
  | rotate (request : RotateLifecycleRequest)
  | destroy (request : DestroyLifecycleRequest)
  deriving DecidableEq, Repr

inductive LifecycleOutcome where
  | registered (outcome : RegistrationOutcome)
  | activated (outcome : ActivationOutcome)
  | rotated (outcome : RotationOutcome)
  | destroyed (outcome : DestructionOutcome)
  deriving DecidableEq, Repr

def LifecycleCall.contextId : LifecycleCall → String
  | .register request => request.contextId
  | .activate request => request.contextId
  | .rotate request => request.contextId
  | .destroy request => request.contextId

/-- An operation with the callbacks it was called with. -/
structure Action (W : Type) where
  call : LifecycleCall
  auth : AuthCallback W
  progress : ProgressCallback W

/-- The outside and the plugin's contexts, and beside them the factor of every context's last
successful `register_lifecycle`. -/
structure Contexts (W : Type) where
  world : W
  lifecycle : HashMap String LifecycleContext
  registered : String → Option FactorKind

/-- A plugin nothing has been registered with. -/
def Contexts.start (world : W) : Contexts W := ⟨world, ∅, fun _ => none⟩

section Runs

variable (wire : R2psWire) (config : R2psConfig) (client : LifecycleClient W)

def Action.perform (a : Action W) : LifecycleM W LifecycleOutcome :=
  match a.call with
  | .register request => do
    return .registered (← registerLifecycle wire config client a.auth a.progress request)
  | .activate request => do
    return .activated (← activateLifecycle wire config client a.auth a.progress request)
  | .rotate request => do
    return .rotated (← rotateLifecycle wire config client a.auth a.progress request)
  | .destroy request => do
    return .destroyed (← destroyLifecycle wire client a.progress request)

/-- What an operation returns, what it leaves and what it asked. -/
def Contexts.perform (σ : Contexts W) (a : Action W) :
    Except WscdError LifecycleOutcome × (W × HashMap String LifecycleContext) ×
      List LifecycleEvent :=
  a.perform wire config client (σ.world, σ.lifecycle)

/-- Only a registration by the caller says what a context is registered with: the one inside
a rotation does not. -/
def registeredAfter (registered : String → Option FactorKind) (call : LifecycleCall)
    (result : Except WscdError LifecycleOutcome) : String → Option FactorKind :=
  match call, result with
  | .register request, .ok _ =>
    fun c => if c = request.contextId then some request.factorKind else registered c
  | _, _ => registered

def step (σ : Contexts W) (a : Action W) : Contexts W where
  world := (σ.perform wire config client a).2.1.1
  lifecycle := (σ.perform wire config client a).2.1.2
  registered := registeredAfter σ.registered a.call (σ.perform wire config client a).1

end Runs

end Lifecycle

end Wscd.R2psPlugin
