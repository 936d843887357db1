import Wscd.Plugins.Fido2Sign
import Wscd.Plugins.R2psKeys
import Wscd.Restore

/-!
# The five plugins behind the trait

The plugins the crate ships, as one instance of the plugin trait: how each generates a key,
deletes one and reports its level, with the callbacks, the transport and the random numbers
around it. `PluginEnv` is the host of that instance; its log has what the plugins asked.

The trait's other methods neither generate nor delete keys and are up to the host.
-/

namespace Wscd

open Lib

/-! ## The host -/

/-- What the plugins asked of the outside. -/
inductive PluginEvent where
  | host (event : HostEvent)
  | keystore (event : AndroidKeystorePlugin.KeystoreEvent)
  | enclave (event : AppleSecureEnclavePlugin.EnclaveEvent)

/-- A plugin object of any of the five types. The transport and the callbacks they own are those
of `PluginHost`. -/
abbrev Backend (W : Type) : Type := PluginObject Unit (R2psPlugin W)

/-- The methods of the trait that neither generate nor delete keys. -/
structure OtherMethods (S W : Type) where
  sign : KeyId → List UInt8 → Algorithm → PluginM S W Signature
  listKeys : PluginM S W (List KeyInfo)
  attestationChain : KeyId → PluginM S W (Option AttestationChain)
  exportPublicKey : KeyId → PluginM S W Json
  supportsImport : S → W → Bool
  importKey : Algorithm → PluginM S W MigrationResult
  lifecycleStatus : String → PluginM S W LifecycleStatus
  registerLifecycle : RegisterLifecycleRequest → PluginM S W RegistrationOutcome
  activateLifecycle : ActivateLifecycleRequest → PluginM S W ActivationOutcome
  rotateLifecycle : RotateLifecycleRequest → PluginM S W RotationOutcome
  destroyLifecycle : DestroyLifecycleRequest → PluginM S W DestructionOutcome

/-- The callbacks of the caller and of the plugins, the clock and the random numbers, and the
third-party code. -/
structure PluginHost (W : Type) where
  auth : AuthCallback W
  progress : ProgressCallback W
  transport : Ctap2Transport W
  keystore : AndroidKeystoreCallback W
  enclave : SecureEnclaveCallback W
  r2psClient : R2psKeyClient W
  rng : Rng W
  /-- The secret of a new softkey; nothing is drawn for an algorithm that is refused. -/
  softkeySecret : Algorithm → W → List UInt8 × W
  nowUnix : W → Int
  softkey : SoftkeyCrypto
  ctap : CtapCrypto
  r2ps : R2psWire
  spki : SpkiWire
  other : OtherMethods (Backend W) W

namespace PluginHost

variable {W : Type} (host : PluginHost W)

def fido2 : Fido2Crypto :=
  { host.softkey.toDigest with cbor := host.ctap.cbor, kdf := host.ctap.kdf, p256 := host.ctap.p256 }

def androidKeystore : AndroidKeystorePlugin.Host W :=
  ⟨host.keystore, host.progress, host.rng, host.softkey.toDigest, host.nowUnix⟩

def appleSecureEnclave : AppleSecureEnclavePlugin.Host W :=
  ⟨host.enclave, host.progress, host.rng, host.softkey.toDigest, host.nowUnix⟩

end PluginHost

/-- The host of the plugins, the state of the outside, and what was asked, oldest first. -/
structure PluginEnv (W : Type) where
  host : PluginHost W
  world : W
  log : List PluginEvent

namespace Backend

variable {W α : Type}

/-! ## Generating a key -/

/-- A method of the plugin's own, with nothing of the outside. -/
def onSelf {P : Type} (f : P → Except WscdError α × P) : HostM (W × P) α := do
  let outcome ← Traced.update fun s => ((f s.2).1, s.1, (f s.2).2)
  Traced.lift outcome

/-- A computation on the outside alone. -/
def outside {P : Type} (x : HostM W α) : HostM (W × P) α := Traced.embed (fun e => e) x

def softkeyGenerateKey (host : PluginHost W) (algorithm : Algorithm) :
    HostM (W × SoftkeyPlugin) GeneratedKey := do
  outside (HostM.onProgress host.progress (.started "generate_key"))
  let secret ← outside (Traced.update (host.softkeySecret algorithm))
  let now ← outside (Traced.get host.nowUnix)
  let generated ← onSelf (SoftkeyPlugin.generateKey host.softkey algorithm ⟨secret, now⟩)
  outside (HostM.onProgress host.progress .complete)
  return generated

/-- A seed is derived from with fresh octets; a key that is none draws nothing. -/
def drawsIkm (host : PluginHost W) (algorithm : Algorithm)
    (result : PreviewSign.MakeCredentialResult) : Bool :=
  decide (algorithm = .es256) &&
    match host.ctap.cbor.read result.generatedKey.publicKeyCose with
    | .ok coseValue => (Arkg.parseArkgPubSeed host.ctap.p256 coseValue).isOk
    | .error _ => false

/-- The ceremony with the authenticator, and what the plugin makes of its result. -/
def fido2GenerateKey (host : PluginHost W) (algorithm : Algorithm) :
    HostM (W × Fido2SignPlugin) GeneratedKey := do
  if algorithm = .edDSA then
    Traced.lift (.error (.unsupported Fido2SignPlugin.id "generate_key(EdDSA)"))
  else
    outside (HostM.onProgress host.progress (.started "generate_key"))
    let userId ← outside (HostM.randomBytes host.rng 32)
    let clientDataHash ← outside (HostM.randomBytes host.rng 32)
    outside (HostM.onProgress host.progress .waitingForUser)
    let result ← outside (PreviewSign.makeCredential host.ctap host.transport host.rng host.auth
      Fido2SignPlugin.rawSignRpId userId clientDataHash
      ⟨Fido2SignPlugin.requestedAlgorithms algorithm⟩)
    let ikm ← if drawsIkm host algorithm result then outside (HostM.randomBytes host.rng 32)
      else pure []
    let now ← outside (Traced.get host.nowUnix)
    let generated ← onSelf
      (Fido2SignPlugin.generateKey host.fido2 algorithm ⟨.ok result, clientDataHash, ikm, now⟩)
    outside (HostM.onProgress host.progress .complete)
    return generated

/-! ## The trait's methods -/

/-- A call of a plugin, its events in the log. -/
def perform {E P : Type} (event : E → PluginEvent) (rebuild : P → Backend W)
    (x : PluginHost W → Traced E (W × P) WscdError α) (p : P) (env : PluginEnv W) :
    Except WscdError α × Backend W × PluginEnv W :=
  let out := x env.host (env.world, p)
  (out.1, rebuild out.2.1.2,
    { env with world := out.2.1.1, log := env.log ++ out.2.2.map event })

def generateKey (algorithm : Algorithm) : PluginM (Backend W) (PluginEnv W) GeneratedKey
  | .softkey p => perform .host .softkey (softkeyGenerateKey · algorithm) p
  | .fido2 transport p => perform .host (.fido2 transport) (fido2GenerateKey · algorithm) p
  | .androidKeystore callback p => perform .keystore (.androidKeystore callback)
      (fun host => AndroidKeystorePlugin.generateKey host.androidKeystore algorithm) p
  | .appleSecureEnclave callback p => perform .enclave (.appleSecureEnclave callback)
      (fun host => AppleSecureEnclavePlugin.generateKey host.appleSecureEnclave algorithm) p
  | .other p => perform .host .other (fun host =>
      outside (R2psPlugin.generateKey host.r2ps host.spki host.softkey.toDigest host.r2psClient
        host.progress)) p

def deleteKey (kid : KeyId) : PluginM (Backend W) (PluginEnv W) Unit
  | .softkey p => perform .host .softkey (fun _ => onSelf (SoftkeyPlugin.deleteKey kid)) p
  | .fido2 transport p =>
    perform .host (.fido2 transport) (fun _ => onSelf (Fido2SignPlugin.deleteKey kid)) p
  | .androidKeystore callback p => perform .keystore (.androidKeystore callback)
      (fun host => AndroidKeystorePlugin.deleteKey host.androidKeystore kid) p
  | .appleSecureEnclave callback p => perform .enclave (.appleSecureEnclave callback)
      (fun host => AppleSecureEnclavePlugin.deleteKey host.appleSecureEnclave kid) p
  | .other p => perform .host .other (fun _ => Traced.lift (R2psPlugin.deleteKey kid)) p

def securityProperties (kid : KeyId) : Backend W → Except WscdError SecurityProperties
  | .softkey p => p.securityProperties kid
  | .fido2 _ p => p.securityProperties kid
  | .androidKeystore _ p => p.securityProperties kid
  | .appleSecureEnclave _ p => p.securityProperties kid
  | .other p => p.securityProperties kid

/-- One of the other methods, which leaves no trace in the log. -/
def elsewhere (f : OtherMethods (Backend W) W → PluginM (Backend W) W α) :
    PluginM (Backend W) (PluginEnv W) α := fun self env =>
  let out := f env.host.other self env.world
  (out.1, out.2.1, { env with world := out.2.2 })

end Backend

open Backend in
instance {W : Type} : WscdPlugin (Backend W) (PluginEnv W) where
  generateKey := Backend.generateKey
  sign kid data algorithm := elsewhere fun other => other.sign kid data algorithm
  listKeys := elsewhere fun other => other.listKeys
  attestationChain kid := elsewhere fun other => other.attestationChain kid
  deleteKey := Backend.deleteKey
  exportPublicKey kid := elsewhere fun other => other.exportPublicKey kid
  supportsImport self env := env.host.other.supportsImport self env.world
  importKey algorithm := elsewhere fun other => other.importKey algorithm
  securityProperties kid self env := (Backend.securityProperties kid self, env)
  lifecycleStatus contextId := elsewhere fun other => other.lifecycleStatus contextId
  registerLifecycle request := elsewhere fun other => other.registerLifecycle request
  activateLifecycle request := elsewhere fun other => other.activateLifecycle request
  rotateLifecycle request := elsewhere fun other => other.rotateLifecycle request
  destroyLifecycle request := elsewhere fun other => other.destroyLifecycle request

end Wscd
