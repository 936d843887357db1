import Wscd.Lib.Run
import Wscd.Manager

/-!
# Runs of the manager

`Op` lists the manager's operations with their arguments and `Sys.apply` is the system
after one of them, its result dropped. A run is a list of operations.

Results:
1. `importForMigration_path`: every way a migration can go, up to the import.
2. `registered_of_resolveForKey`, `registered_of_getPlugin`: a handle the manager obtains
   is that of a registered plugin.
-/

namespace Wscd

open Lib

inductive Op (S : Type) where
  | registerPlugin (plugin : Plugin S)
  | bindKeys (pluginId : String) (kids : List KeyId)
  | generateKey (algorithm : Algorithm)
  | generateKeyWithPlugin (pluginId : String) (algorithm : Algorithm)
  | generateKeyForLevel (required : CertificationLevel) (candidates : List String)
      (algorithm : Algorithm)
  | migrateKey (kid : KeyId) (targetPluginId : String)
  | deleteKey (kid : KeyId)
  | sign (kid : KeyId) (data : List UInt8) (algorithm : Algorithm)
  | attestationChain (kid : KeyId)
  | exportPublicKey (kid : KeyId)
  | securityProperties (kid : KeyId)
  | lifecycleStatus (pluginId contextId : String)
  | registerLifecycle (request : RegisterLifecycleRequest)
  | activateLifecycle (request : ActivateLifecycleRequest)
  | rotateLifecycle (request : RotateLifecycleRequest)
  | destroyLifecycle (request : DestroyLifecycleRequest)

namespace Sys

variable {S E : Type} [WscdPlugin S E]

/-- The system after one operation. -/
def apply (sys : Sys S E) : Op S → Sys S E
  | .registerPlugin plugin => sys.registerPlugin plugin
  | .bindKeys pluginId kids => (sys.bindKeys pluginId kids).2
  | .generateKey algorithm => (sys.generateKey algorithm).2
  | .generateKeyWithPlugin pluginId algorithm => (sys.generateKeyWithPlugin pluginId algorithm).2
  | .generateKeyForLevel required candidates algorithm =>
    (sys.generateKeyForLevel required candidates algorithm).2
  | .migrateKey kid targetPluginId => (sys.migrateKey kid targetPluginId).2
  | .deleteKey kid => (sys.deleteKey kid).2
  | .sign kid data algorithm => (sys.sign kid data algorithm).2
  | .attestationChain kid => (sys.attestationChain kid).2
  | .exportPublicKey kid => (sys.exportPublicKey kid).2
  | .securityProperties kid => (sys.securityProperties kid).2
  | .lifecycleStatus pluginId contextId => (sys.lifecycleStatus pluginId contextId).2
  | .registerLifecycle request => (sys.registerLifecycle request).2
  | .activateLifecycle request => (sys.activateLifecycle request).2
  | .rotateLifecycle request => (sys.rotateLifecycle request).2
  | .destroyLifecycle request => (sys.destroyLifecycle request).2

/-! ## Handles -/

omit [WscdPlugin S E] in
theorem registered_of_lookup {sys : Sys S E} {c : String} {p : Plugin S}
    (hl : sys.manager.plugins.lookup c = some p) : p.id = c ∧ sys.registered p.id = true := by
  obtain rfl := sys.manager.id_eq _ _ hl
  exact ⟨rfl, by simp [registered, hl]⟩

omit [WscdPlugin S E] in
theorem registered_of_getPlugin {sys : Sys S E} {id : String} {p : Plugin S}
    (h : sys.manager.getPlugin id = .ok p) : p.id = id ∧ sys.registered p.id = true :=
  registered_of_lookup ((sys.manager.getPlugin_eq_ok_iff id p).mp h)

omit [WscdPlugin S E] in
theorem registered_of_resolveForKey {sys : Sys S E} {kid : KeyId} {op : String} {p : Plugin S}
    (h : sys.manager.resolveForKey kid op = .ok p) : sys.registered p.id = true := by
  unfold WscdManager.resolveForKey at h
  split at h
  · exact (registered_of_getPlugin h).2
  · split at h
    · exact (registered_of_getPlugin h).2
    · exact (registered_of_getPlugin h).2

omit [WscdPlugin S E] in
theorem registered_of_resolveForGenerate {sys : Sys S E} {p : Plugin S}
    (h : sys.manager.resolveForGenerate = .ok p) : sys.registered p.id = true := by
  unfold WscdManager.resolveForGenerate at h
  split at h
  · exact (registered_of_getPlugin h).2
  · exact (registered_of_getPlugin h).2

omit [WscdPlugin S E] in
theorem registered_call {α : Type} (sys : Sys S E) (p : Plugin S) (method : Method)
    (f : PluginM S E α) (id : String) :
    (sys.call p method f).2.registered id = (sys.registered id || decide (id = p.id)) := by
  unfold registered
  rw [call_lookup]
  by_cases hid : id = p.id <;> simp [hid]

omit [WscdPlugin S E] in
theorem registered_of_call {α : Type} {sys sys' : Sys S E} {p : Plugin S} {method : Method}
    {f : PluginM S E α} {r : Except WscdError α} (h : sys.call p method f = (r, sys'))
    {id : String} (hid : sys.registered id = true) : sys'.registered id = true := by
  have hreg := registered_call sys p method f id
  rw [h, hid, Bool.true_or] at hreg
  exact hreg

/-! ## The path of a migration -/

/-- The ways `migrate_key` goes up to its last call: it stops before any call, at one of the
two calls on the source, because the source does not list the key, or it takes the answer of
the target's `import_key`. -/
inductive MigrationPath (sys : Sys S E) (kid : KeyId) (targetPluginId : String) :
    Except WscdError MigrationResult → Sys S E → Prop
  | stopped {r : Except WscdError MigrationResult} :
      (∀ newKid, r ≠ .ok (.migrated newKid)) → MigrationPath sys kid targetPluginId r sys
  | exportFailed {source : Plugin S} {e : WscdError} {sys₁ : Sys S E} :
      sys.manager.resolveForKey kid "migrate" = .ok source →
      sys.call source (.exportPublicKey kid) (WscdPlugin.exportPublicKey kid) = (.error e, sys₁) →
      MigrationPath sys kid targetPluginId (.error e) sys₁
  | listed {source : Plugin S} {jwk : Json} {listing : Except WscdError (List KeyInfo)}
      {e : WscdError} {sys₁ sys₂ : Sys S E} :
      sys.manager.resolveForKey kid "migrate" = .ok source →
      sys.call source (.exportPublicKey kid) (WscdPlugin.exportPublicKey kid) = (.ok jwk, sys₁) →
      sys₁.call source .listKeys WscdPlugin.listKeys = (listing, sys₂) →
      MigrationPath sys kid targetPluginId (.error e) sys₂
  | imported {source target : Plugin S} {jwk : Json} {keys : List KeyInfo} {keyInfo : KeyInfo}
      {r : Except WscdError MigrationResult} {sys₁ sys₂ sys₃ : Sys S E} :
      sys.manager.getPlugin targetPluginId = .ok target →
      sys.manager.resolveForKey kid "migrate" = .ok source →
      sys.call source (.exportPublicKey kid) (WscdPlugin.exportPublicKey kid) = (.ok jwk, sys₁) →
      sys₁.call source .listKeys WscdPlugin.listKeys = (.ok keys, sys₂) →
      sys₂.call target (.importKey keyInfo.algorithm) (WscdPlugin.importKey keyInfo.algorithm) =
        (r, sys₃) →
      MigrationPath sys kid targetPluginId r sys₃

/-- Nothing is bound unless a key has been imported. -/
theorem migrateKey_of_not_migrated {sys sys' : Sys S E} {kid : KeyId} {targetPluginId : String}
    {r : Except WscdError MigrationResult}
    (h : sys.importForMigration kid targetPluginId = (r, sys'))
    (hr : ∀ newKid, r ≠ .ok (.migrated newKid)) : (sys.migrateKey kid targetPluginId).2 = sys' := by
  rw [migrateKey, h]
  cases r with
  | error e => rfl
  | ok result =>
    cases result with
    | reEnrollmentRequired oldKid => rfl
    | migrated newKid => exact absurd rfl (hr newKid)

theorem importForMigration_path (sys : Sys S E) (kid : KeyId) (targetPluginId : String) :
    MigrationPath sys kid targetPluginId (sys.importForMigration kid targetPluginId).1
      (sys.importForMigration kid targetPluginId).2 := by
  unfold importForMigration
  cases ht : sys.manager.getPlugin targetPluginId with
  | error e => exact .stopped nofun
  | ok target =>
    dsimp only
    split
    · exact .stopped nofun
    cases hs : sys.manager.resolveForKey kid "migrate" with
    | error e => exact .stopped nofun
    | ok source =>
      dsimp only
      cases h₁ : sys.call source (.exportPublicKey kid) (WscdPlugin.exportPublicKey kid) with
      | mk r sys₁ =>
        cases r with
        | error e => exact .exportFailed hs h₁
        | ok jwk =>
          dsimp only
          cases h₂ : sys₁.call source .listKeys WscdPlugin.listKeys with
          | mk r sys₂ =>
            cases r with
            | error e => exact .listed hs h₁ h₂
            | ok keys =>
              dsimp only
              cases keys.find? fun k => k.kid = kid with
              | none => exact .listed hs h₁ h₂
              | some keyInfo => exact .imported ht hs h₁ h₂ rfl

theorem MigrationPath.config {sys sys' : Sys S E} {kid : KeyId} {targetPluginId : String}
    {r : Except WscdError MigrationResult} (h : MigrationPath sys kid targetPluginId r sys') :
    sys'.manager.config = sys.manager.config := by
  cases h with
  | stopped _ => rfl
  | exportFailed _ h₁ => exact config_of_call h₁
  | listed _ h₁ h₂ => exact (config_of_call h₂).trans (config_of_call h₁)
  | imported _ _ h₁ h₂ h₃ =>
    exact (config_of_call h₃).trans ((config_of_call h₂).trans (config_of_call h₁))

end Sys

end Wscd
