import Wscd.Types

/-!
# The plugin trait

`WscdPlugin S E` is the trait every backend implements, for a plugin whose own
state is `S` in a host whose state is `E`. The host state stands for everything a
call depends on beside the plugin: the authentication and progress callbacks, the
transport, the clock and the random numbers. A method takes both states and gives
both back, so a plugin and a host may answer a call by anything they have seen so
far; the manager's theorems hold for every instance of the class.

`securityProperties` and `supportsImport` are the two synchronous queries: they
read the plugin.
-/

namespace Wscd

open Lib

/-- A plugin method: plugin and host state in, outcome and both states out. -/
abbrev PluginM (S E α : Type) : Type := S → E → Except WscdError α × S × E

class WscdPlugin (S : Type) (E : outParam Type) where
  generateKey : Algorithm → PluginM S E GeneratedKey
  sign : KeyId → List UInt8 → Algorithm → PluginM S E Signature
  listKeys : PluginM S E (List KeyInfo)
  attestationChain : KeyId → PluginM S E (Option AttestationChain)
  deleteKey : KeyId → PluginM S E Unit
  exportPublicKey : KeyId → PluginM S E Json
  supportsImport : S → E → Bool
  importKey : Algorithm → PluginM S E MigrationResult
  securityProperties : KeyId → S → E → Except WscdError SecurityProperties × E
  lifecycleStatus : String → PluginM S E LifecycleStatus
  registerLifecycle : RegisterLifecycleRequest → PluginM S E RegistrationOutcome
  activateLifecycle : ActivateLifecycleRequest → PluginM S E ActivationOutcome
  rotateLifecycle : RotateLifecycleRequest → PluginM S E RotationOutcome
  destroyLifecycle : DestroyLifecycleRequest → PluginM S E DestructionOutcome

/-- The body of a default method: the plugin `id` does not support `op`. -/
def unsupported {S E α : Type} (id op : String) : PluginM S E α := fun self env =>
  (.error (.unsupported id op), self, env)

/-- A plugin object: its id, which never changes, and its current state. -/
structure Plugin (S : Type) where
  id : String
  self : S
  deriving DecidableEq, Repr

/-- The trait's methods, as the call log names them. -/
inductive Method where
  | generateKey (algorithm : Algorithm)
  | sign (kid : KeyId)
  | listKeys
  | attestationChain (kid : KeyId)
  | deleteKey (kid : KeyId)
  | exportPublicKey (kid : KeyId)
  | importKey (algorithm : Algorithm)
  | securityProperties (kid : KeyId)
  | lifecycleStatus (contextId : String)
  | registerLifecycle (contextId : String)
  | activateLifecycle (contextId : String)
  | rotateLifecycle (contextId : String)
  | destroyLifecycle (contextId : String)
  deriving DecidableEq, Repr

/-- One call the manager made: on which plugin, what, and whether it succeeded. -/
structure Call where
  pluginId : String
  method : Method
  ok : Bool
  deriving DecidableEq, Repr

end Wscd
