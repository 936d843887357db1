import Wscd.Backends

/-!
# Callbacks across the FFI

The host implements the FFI's callback interfaces, which raise `FfiWscdError`; a bridge turns
each into the internal callback, and its error into an internal one. The bridges differ in
which variants survive: the authentication and the Secure Enclave bridge keep a cancellation,
the CTAP2 transport and the Android Keystore bridge turn every other error into text.

`FfiHost` is the host's side and `FfiHost.bridged` what the plugins see of it. A `Raise` is an
error one of the callbacks a ceremony waits in has raised; they are collected beside the state
of the outside, oldest first.
-/

namespace Wscd

open Lib

/-! ## The errors of the FFI -/

namespace FfiWscdError

def display : FfiWscdError → String
  | noPlugin msg => s!"no plugin: {msg}"
  | unsupported msg => s!"unsupported: {msg}"
  | keyNotFound msg => s!"key not found: {msg}"
  | authRequired msg => s!"auth required: {msg}"
  | authCancelled msg => s!"auth cancelled: {msg}"
  | reEnrollmentRequired msg => s!"re-enrollment required: {msg}"
  | plugin msg => s!"plugin error: {msg}"
  | callback msg => s!"callback error: {msg}"
  | serialization msg => s!"serialization error: {msg}"
  | crypto msg => s!"crypto error: {msg}"
  | pin _ msg => s!"PIN error: {msg}"
  | strongBoxUnavailable msg => s!"StrongBox unavailable: {msg}"
  | unconfirmedCleanup msg => s!"unconfirmed cleanup: {msg}"

instance : ToString FfiWscdError := ⟨display⟩

/-- `impl From<WscdError> for FfiWscdError` -/
def ofWscdError (e : WscdError) : FfiWscdError :=
  let msg := e.display
  match e with
  | .noPlugin _ | .noDefault _ => noPlugin msg
  | .unsupported .. => unsupported msg
  | .keyNotFound _ => keyNotFound msg
  | .authRequired => authRequired msg
  | .authCancelled => authCancelled msg
  | .reEnrollmentRequired _ => reEnrollmentRequired msg
  | .plugin _ => plugin msg
  | .callback _ => callback msg
  | .serialization _ => serialization msg
  | .crypto _ => crypto msg
  | .pin failure => pin failure msg
  | .strongBoxUnavailable => strongBoxUnavailable msg
  | .unconfirmedCleanup .. => unconfirmedCleanup msg

/-- The user has said no. -/
def isAuthCancelled : FfiWscdError → Bool
  | authCancelled _ => true
  | _ => false

end FfiWscdError

/-! ## The callback interfaces -/

structure FfiAuthCallback (W : Type) where
  requestPin : String → W → Except FfiWscdError Secret × W
  requestNewPin : String → Nat → W → Except FfiWscdError Secret × W
  requestWebauthnAssertion : String → List UInt8 → String → List (List UInt8) → W →
    Except FfiWscdError (List UInt8) × W

structure FfiCtap2Transport (W : Type) where
  ctap2SendCommand : List UInt8 → W → Except FfiWscdError (List UInt8) × W

structure FfiAndroidKeystoreCallback (W : Type) where
  generate : String → Option (List UInt8) → Bool → List String → Bool → W →
    Except FfiWscdError AndroidKeystoreSecurityLevel × W
  certificateChain : String → W → Except FfiWscdError (List (List UInt8)) × W
  /-- The JWK as a JSON text. -/
  publicKeyJwk : String → W → Except FfiWscdError String × W
  delete : String → W → Except FfiWscdError Unit × W

structure FfiSecureEnclaveCallback (W : Type) where
  generateKey : String → W → Except FfiWscdError SecureEnclavePublicKey × W
  deleteKey : String → W → Except FfiWscdError Unit × W

/-! ## The bridges -/

/-- An error that a callback has raised, by the callback. -/
inductive Raise where
  | requestPin (e : FfiWscdError)
  | requestNewPin (e : FfiWscdError)
  | requestWebauthnAssertion (e : FfiWscdError)
  | ctap2SendCommand (e : FfiWscdError)
  | secureEnclaveGenerateKey (e : FfiWscdError)
  deriving DecidableEq, Repr

section Bridges

variable {W α : Type}

/-- A callback with its error under `mapErr`; that it raised one is recorded. -/
def recording (raise : FfiWscdError → Raise) (mapErr : FfiWscdError → WscdError)
    (f : W → Except FfiWscdError α × W) (w : W × List Raise) :
    Except WscdError α × (W × List Raise) :=
  match f w.1 with
  | (.ok a, w') => (.ok a, w', w.2)
  | (.error e, w') => (.error (mapErr e), w', w.2 ++ [raise e])

/-- A callback whose errors are not recorded. -/
def bridging (mapErr : FfiWscdError → WscdError) (f : W → Except FfiWscdError α × W)
    (w : W × List Raise) : Except WscdError α × (W × List Raise) :=
  ((f w.1).1.mapError mapErr, (f w.1).2, w.2)

/-- `InternalError::Callback(format!("{e}"))` -/
def callbackError (e : FfiWscdError) : WscdError := .callback e.display

namespace AuthCallbackBridge

def mapErr : FfiWscdError → WscdError
  | .authCancelled _ => .authCancelled
  | .authRequired _ => .authRequired
  | other => callbackError other

def authCallback (inner : FfiAuthCallback W) : AuthCallback (W × List Raise) where
  requestPin pluginId := recording .requestPin mapErr (inner.requestPin pluginId)
  requestPinFor pluginId
    | .enterPin => recording .requestPin mapErr (inner.requestPin pluginId)
    | .setNewPin minLength =>
      recording .requestNewPin mapErr (inner.requestNewPin pluginId minLength)
  requestWebauthnAssertion pluginId challenge rpId allowedCredentials :=
    recording .requestWebauthnAssertion mapErr
      (inner.requestWebauthnAssertion pluginId challenge rpId allowedCredentials)

end AuthCallbackBridge

/-- Every error of the host becomes text; the transport does not verify users itself. -/
def Ctap2TransportBridge.ctap2Transport (inner : FfiCtap2Transport W) :
    Ctap2Transport (W × List Raise) where
  ctap2SendCommand command :=
    recording .ctap2SendCommand callbackError (inner.ctap2SendCommand command)
  performsUserVerification _ := false

namespace AndroidKeystoreCallbackBridge

def mapGenerateErr : FfiWscdError → WscdError
  | .strongBoxUnavailable _ => .strongBoxUnavailable
  | other => callbackError other

/-- `jsonFromStr` is `serde_json::from_str`. -/
def androidKeystoreCallback (jsonFromStr : String → Except String Json)
    (inner : FfiAndroidKeystoreCallback W) : AndroidKeystoreCallback (W × List Raise) where
  generate keyAlias challenge strongBox methods unlocked :=
    bridging mapGenerateErr (inner.generate keyAlias challenge strongBox methods unlocked)
  certificateChain keyAlias := bridging callbackError (inner.certificateChain keyAlias)
  publicKeyJwk keyAlias w :=
    match bridging callbackError (inner.publicKeyJwk keyAlias) w with
    | (.error e, w') => (.error e, w')
    | (.ok json, w') => ((jsonFromStr json).mapError .serialization, w')
  delete keyAlias := bridging callbackError (inner.delete keyAlias)

/-- What is made of the answer is the bridge's own. -/
theorem snd_publicKeyJwk (jsonFromStr : String → Except String Json)
    (inner : FfiAndroidKeystoreCallback W) (keyAlias : String) (w : W × List Raise) :
    ((androidKeystoreCallback jsonFromStr inner).publicKeyJwk keyAlias w).2 =
      (bridging callbackError (inner.publicKeyJwk keyAlias) w).2 := by
  dsimp only [androidKeystoreCallback]
  rcases bridging callbackError (inner.publicKeyJwk keyAlias) w with ⟨e | json, w'⟩ <;> rfl

end AndroidKeystoreCallbackBridge

def secureEnclaveCallbackError : FfiWscdError → WscdError
  | .authCancelled _ => .authCancelled
  | .authRequired _ => .authRequired
  | .keyNotFound msg => .keyNotFound msg
  | other => callbackError other

def SecureEnclaveCallbackBridge.secureEnclaveCallback (inner : FfiSecureEnclaveCallback W) :
    SecureEnclaveCallback (W × List Raise) where
  generateKey keyTag :=
    recording .secureEnclaveGenerateKey secureEnclaveCallbackError (inner.generateKey keyTag)
  deleteKey keyTag := bridging secureEnclaveCallbackError (inner.deleteKey keyTag)

/-- What a plugin gets for an error that was raised. -/
def Raise.bridged : Raise → WscdError
  | requestPin e | requestNewPin e | requestWebauthnAssertion e => AuthCallbackBridge.mapErr e
  | ctap2SendCommand e => callbackError e
  | secureEnclaveGenerateKey e => secureEnclaveCallbackError e

end Bridges

/-! ## The host's side -/

def R2psKeyClient.beside {W T : Type} (client : R2psKeyClient W) : R2psKeyClient (W × T) where
  generateKey w := ((client.generateKey w.1).1, (client.generateKey w.1).2, w.2)
  listKeys curves w := ((client.listKeys curves w.1).1, (client.listKeys curves w.1).2, w.2)

/-- The host of the FFI: its callbacks, the random numbers and the clock, and the third-party
code. -/
structure FfiHost (W : Type) where
  auth : FfiAuthCallback W
  progress : ProgressCallback W
  transport : FfiCtap2Transport W
  keystore : FfiAndroidKeystoreCallback W
  enclave : FfiSecureEnclaveCallback W
  r2psClient : R2psKeyClient W
  rng : Rng W
  softkeySecret : Algorithm → W → List UInt8 × W
  nowUnix : W → Int
  softkey : SoftkeyCrypto
  ctap : CtapCrypto
  r2ps : R2psWire
  spki : SpkiWire
  jsonFromStr : String → Except String Json
  other : OtherMethods (Backend (W × List Raise)) (W × List Raise)

/-- The host as the plugins see it, through the bridges. -/
def FfiHost.bridged {W : Type} (host : FfiHost W) : PluginHost (W × List Raise) where
  auth := AuthCallbackBridge.authCallback host.auth
  progress := host.progress.beside
  transport := Ctap2TransportBridge.ctap2Transport host.transport
  keystore := AndroidKeystoreCallbackBridge.androidKeystoreCallback host.jsonFromStr host.keystore
  enclave := SecureEnclaveCallbackBridge.secureEnclaveCallback host.enclave
  r2psClient := host.r2psClient.beside
  rng := host.rng.beside
  softkeySecret algorithm w :=
    ((host.softkeySecret algorithm w.1).1, (host.softkeySecret algorithm w.1).2, w.2)
  nowUnix w := host.nowUnix w.1
  softkey := host.softkey
  ctap := host.ctap
  r2ps := host.r2ps
  spki := host.spki
  other := host.other

/-- A manager behind the FFI. -/
abbrev FfiSys (W : Type) : Type := Sys (Backend (W × List Raise)) (PluginEnv (W × List Raise))

namespace FfiWscdManager

variable {W : Type}

/-- The manager with the callbacks of one call. -/
def inCall (host : FfiHost W) (sys : FfiSys W) : FfiSys W :=
  { sys with env := { sys.env with host := host.bridged } }

def generateKeyForLevel (host : FfiHost W) (requiredLevel : CertificationLevel)
    (candidatePluginIds : List String) (algorithm : Algorithm) (sys : FfiSys W) :
    Except FfiWscdError GeneratedKey × FfiSys W :=
  let out := (inCall host sys).generateKeyForLevel requiredLevel candidatePluginIds algorithm
  (out.1.mapError .ofWscdError, out.2)

end FfiWscdManager

end Wscd
