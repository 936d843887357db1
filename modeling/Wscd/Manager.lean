import Wscd.Lib.ForLoop
import Wscd.Traits

/-!
# The manager

`WscdManager` routes an operation on a key to a plugin: by the key's binding, else
by the operation's default, else by the default plugin. `Sys` is a manager in its
host, with the log of the plugin calls it has made; an operation takes a `Sys` and
gives back its result and the `Sys` after it.

A plugin handle (`Plugin S`) names a plugin object: a call acts on the object's
current state and stores the state the call leaves.

Results:
1. `resolveForKey_of_bound`, `resolveForKey_of_unbound`: the resolution chain.
2. `call_lookup`, `config_of_call`, `call_congr`: all that a plugin call changes.
-/

namespace Wscd

open Lib

/-! ## The manager and its tables -/

structure WscdManager (S : Type) where
  config : WscdConfig
  plugins : HashMap String (Plugin S)
  /-- A plugin is registered under its own id. -/
  id_eq : ∀ id p, plugins.lookup id = some p → p.id = id

namespace WscdManager

variable {S : Type}

/-- `WscdManager::new` -/
def new (config : WscdConfig) : WscdManager S where
  config := config
  plugins := ∅
  id_eq := by simp

/-- Register a plugin. Replaces any existing plugin with the same id. -/
def registerPlugin (m : WscdManager S) (plugin : Plugin S) : WscdManager S where
  config := m.config
  plugins := m.plugins.insert plugin.id plugin
  id_eq := by
    intro id p h
    rw [HashMap.lookup_insert_eq_ite] at h
    split at h
    · cases h
      exact Eq.symm ‹_›
    · exact m.id_eq id p h

def getPlugin (m : WscdManager S) (id : String) : Except WscdError (Plugin S) :=
  match m.plugins.lookup id with
  | some p => .ok p
  | none => .error (.noPlugin id)

/-- Resolve the plugin for a key, falling back through the resolution chain. -/
def resolveForKey (m : WscdManager S) (kid : KeyId) (op : String) : Except WscdError (Plugin S) :=
  match m.config.keyBindings.lookup kid with
  | some pluginId => m.getPlugin pluginId
  | none =>
    match m.config.operationDefaults.lookup op with
    | some pluginId => m.getPlugin pluginId
    | none => m.getPlugin m.config.defaultPlugin

/-- Resolve the plugin for a generate operation (no key yet). -/
def resolveForGenerate (m : WscdManager S) : Except WscdError (Plugin S) :=
  match m.config.operationDefaults.lookup "generate_key" with
  | some pluginId => m.getPlugin pluginId
  | none => m.getPlugin m.config.defaultPlugin

/-- `self.config.key_bindings.insert(kid, plugin_id)` -/
def bind (m : WscdManager S) (kid : KeyId) (pluginId : String) : WscdManager S :=
  { m with config := { m.config with keyBindings := m.config.keyBindings.insert kid pluginId } }

/-- `self.config.key_bindings.remove(kid)` -/
def unbind (m : WscdManager S) (kid : KeyId) : WscdManager S :=
  { m with config := { m.config with keyBindings := m.config.keyBindings.erase kid } }

def boundElsewhereMsg (kid : KeyId) (existing pluginId : String) : String :=
  s!"key {kid} is already bound to plugin {existing}, cannot bind it to {pluginId}"

/-- One pass of the loop of `bind_keys`. -/
def bindOne (pluginId : String) (kid : KeyId) (m : WscdManager S) :
    Ctl (WscdManager S) (Except WscdError Unit × WscdManager S) :=
  match m.config.keyBindings.lookup kid with
  | some existing =>
    if existing ≠ pluginId then
      .ret (.error (.plugin (boundElsewhereMsg kid existing pluginId)), m)
    else .next (m.bind kid pluginId)
  | none => .next (m.bind kid pluginId)

/-- Bind existing keys to the plugin that holds them, in the order they come. -/
def bindKeys (m : WscdManager S) (pluginId : String) (kids : List KeyId) :
    Except WscdError Unit × WscdManager S :=
  match forLoop (bindOne pluginId) kids m with
  | .ret out => out
  | .next m' => (.ok (), m')

/-- The state a plugin object has after a call. -/
def setSelf (m : WscdManager S) (id : String) (self : S) : WscdManager S :=
  m.registerPlugin ⟨id, self⟩

/-- The plugin `kid` is bound to, if any. -/
def boundTo (m : WscdManager S) (kid : KeyId) : Option String :=
  m.config.keyBindings.lookup kid

theorem getPlugin_eq_ok_iff (m : WscdManager S) (id : String) (p : Plugin S) :
    m.getPlugin id = .ok p ↔ m.plugins.lookup id = some p := by
  unfold getPlugin
  cases m.plugins.lookup id <;> simp

theorem getPlugin_of_lookup {m : WscdManager S} {id : String} {p : Plugin S}
    (h : m.plugins.lookup id = some p) : m.getPlugin id = .ok p :=
  (m.getPlugin_eq_ok_iff id p).mpr h

theorem resolveForKey_of_bound {m : WscdManager S} {kid : KeyId} {id : String}
    (h : m.config.keyBindings.lookup kid = some id) (op : String) :
    m.resolveForKey kid op = m.getPlugin id := by
  simp only [resolveForKey, h]

/-- The fallback of an unbound key. -/
theorem resolveForKey_of_unbound {m : WscdManager S} {kid : KeyId}
    (h : m.config.keyBindings.lookup kid = none) (op : String) :
    m.resolveForKey kid op =
      m.getPlugin ((m.config.operationDefaults.lookup op).getD m.config.defaultPlugin) := by
  simp only [resolveForKey, h]
  cases m.config.operationDefaults.lookup op <;> rfl

/-! ### The loop of `bind_keys` -/

theorem bindOne_guard {m m' : WscdManager S} {pluginId : String} {kid : KeyId}
    (h : bindOne pluginId kid m = .next m') :
    m' = m.bind kid pluginId ∧
      ∀ existing, m.boundTo kid = some existing → existing = pluginId := by
  unfold bindOne at h
  cases hb : m.config.keyBindings.lookup kid with
  | none =>
    simp only [hb] at h
    cases h
    refine ⟨rfl, fun existing he => ?_⟩
    cases hb.symm.trans he
  | some existing =>
    by_cases hex : existing = pluginId
    · simp only [hb, hex, ne_eq, not_true_eq_false, if_false] at h
      cases h
      refine ⟨rfl, fun other ho => ?_⟩
      cases hb.symm.trans ho
      exact hex
    · simp [hb, hex] at h

theorem bindOne_ret {m : WscdManager S} {pluginId : String} {kid : KeyId}
    {out : Except WscdError Unit × WscdManager S}
    (h : bindOne pluginId kid m = .ret out) : out.2 = m := by
  unfold bindOne at h
  split at h
  · split at h
    · cases h
      rfl
    · cases h
  · cases h

/-- What every guarded insertion keeps, `bind_keys` keeps, also when it fails half way. -/
theorem bindKeys_invariant {I : WscdManager S → Prop} {m : WscdManager S} (pluginId : String)
    {kids : List KeyId}
    (hbind : ∀ m kid, kid ∈ kids → I m →
      (∀ existing, m.boundTo kid = some existing → existing = pluginId) → I (m.bind kid pluginId))
    (hm : I m) : I (m.bindKeys pluginId kids).2 := by
  have hloop := forLoop_invariant (Q := fun out => I out.2) (bindOne pluginId)
    (fun kid m m' hkid hI h => by
      obtain ⟨rfl, hguard⟩ := bindOne_guard h
      exact hbind m kid hkid hI hguard)
    (fun kid m out _ hI h => (bindOne_ret h).symm ▸ hI) hm
  unfold bindKeys
  cases h : forLoop (bindOne pluginId) kids m with
  | ret out => exact hloop.2 out h
  | next m' => exact hloop.1 m' h

/-- `kid` is bound, and not to `pluginId`. -/
def BoundElsewhere (m : WscdManager S) (pluginId : String) (kid : KeyId) : Prop :=
  ∃ existing, m.boundTo kid = some existing ∧ existing ≠ pluginId

/-- The manager after a list of bindings to one plugin. -/
def bindAll (m : WscdManager S) (pluginId : String) (kids : List KeyId) : WscdManager S :=
  kids.foldl (fun m kid => m.bind kid pluginId) m

theorem boundTo_bind (m : WscdManager S) (k kid : KeyId) (id : String) :
    (m.bind kid id).boundTo k = if k = kid then some id else m.boundTo k :=
  HashMap.lookup_insert_eq_ite _ _ _ _

theorem boundTo_unbind (m : WscdManager S) (k kid : KeyId) :
    (m.unbind kid).boundTo k = if k = kid then none else m.boundTo k :=
  HashMap.lookup_erase_eq_ite _ _ _

@[simp] theorem bindAll_plugins (m : WscdManager S) (id : String) (kids : List KeyId) :
    (m.bindAll id kids).plugins = m.plugins := by
  induction kids generalizing m with
  | nil => rfl
  | cons kid kids ih => exact ih (m.bind kid id)

theorem boundTo_bindAll (m : WscdManager S) (id : String) (kids : List KeyId) (k : KeyId) :
    (m.bindAll id kids).boundTo k = if k ∈ kids then some id else m.boundTo k := by
  induction kids generalizing m with
  | nil => simp [bindAll]
  | cons kid kids ih =>
    have hstep := ih (m.bind kid id)
    rw [boundTo_bind] at hstep
    refine hstep.trans ?_
    by_cases hk : k = kid <;> simp [hk]

theorem bindOne_of_not_boundElsewhere {m : WscdManager S} {id : String} {kid : KeyId}
    (h : ¬ m.BoundElsewhere id kid) : bindOne id kid m = .next (m.bind kid id) := by
  unfold bindOne
  cases hb : m.config.keyBindings.lookup kid with
  | none => rfl
  | some existing =>
    have hex : existing = id := by
      by_contra hne
      exact h ⟨existing, hb, hne⟩
    simp [hex]

/-- The passes that go on bind what they pass over, none of it bound elsewhere. -/
theorem passes_bindOne {m m' : WscdManager S} {id : String} {kids : List KeyId}
    (h : Passes (bindOne id) kids m m') :
    m' = m.bindAll id kids ∧ ∀ kid ∈ kids, ¬ m.BoundElsewhere id kid := by
  induction h with
  | nil => exact ⟨rfl, fun kid hkid => absurd hkid List.not_mem_nil⟩
  | @cons kid kids m m' m'' hnext _ ih =>
    obtain ⟨rfl, hguard⟩ := bindOne_guard hnext
    obtain ⟨rfl, hclear⟩ := ih
    refine ⟨rfl, fun k hk => ?_⟩
    rintro ⟨existing, hex, hne⟩
    rcases List.mem_cons.mp hk with rfl | hk
    · exact hne (hguard existing hex)
    · refine hclear k hk ⟨existing, ?_, hne⟩
      rw [boundTo_bind]
      split
      · subst k
        exact absurd (hguard existing hex) hne
      · exact hex

/-- `bind_keys` binds every key, or the keys in front of the first that is bound elsewhere. -/
theorem bindKeys_cases (m : WscdManager S) (id : String) (kids : List KeyId) :
    ((∀ kid ∈ kids, ¬ m.BoundElsewhere id kid) ∧
      m.bindKeys id kids = (.ok (), m.bindAll id kids)) ∨
    ∃ pre kid post existing, kids = pre ++ kid :: post ∧
      (∀ k ∈ pre, ¬ m.BoundElsewhere id k) ∧ m.boundTo kid = some existing ∧ existing ≠ id ∧
      m.bindKeys id kids =
        (.error (.plugin (boundElsewhereMsg kid existing id)), m.bindAll id pre) := by
  unfold bindKeys
  obtain ⟨m', hpass, heq⟩ | ⟨pre, kid, post, m', out, rfl, hpass, hret, heq⟩ :=
    forLoop_cases (bindOne id) kids m
  · obtain ⟨rfl, hclear⟩ := passes_bindOne hpass
    exact .inl ⟨hclear, by rw [heq]⟩
  · obtain ⟨rfl, hclear⟩ := passes_bindOne hpass
    obtain ⟨existing, hex, hne⟩ : (m.bindAll id pre).BoundElsewhere id kid := by
      by_contra h
      cases (bindOne_of_not_boundElsewhere h).symm.trans hret
    have hmem : kid ∉ pre := by
      intro h
      rw [boundTo_bindAll, if_pos h] at hex
      exact hne (Option.some.inj hex).symm
    have hout : out = (.error (.plugin (boundElsewhereMsg kid existing id)), m.bindAll id pre) := by
      have hlookup : (m.bindAll id pre).config.keyBindings.lookup kid = some existing := hex
      simpa [bindOne, hlookup, hne, eq_comm] using hret
    refine .inr ⟨pre, kid, post, existing, rfl, hclear, ?_, hne, by rw [heq, hout]⟩
    rwa [boundTo_bindAll, if_neg hmem] at hex

end WscdManager

/-! ## A manager in its host -/

structure Sys (S E : Type) where
  manager : WscdManager S
  env : E
  /-- The plugin calls made so far, oldest first. -/
  calls : List Call

namespace Sys

variable {S E α : Type}

/-- The object behind a handle, as it is now. -/
def current (sys : Sys S E) (p : Plugin S) : S :=
  ((sys.manager.plugins.lookup p.id).map Plugin.self).getD p.self

/-- Call a method of the plugin behind the handle `p`. -/
def call (sys : Sys S E) (p : Plugin S) (method : Method) (f : PluginM S E α) :
    Except WscdError α × Sys S E :=
  let out := f (sys.current p) sys.env
  (out.1,
    { manager := sys.manager.setSelf p.id out.2.1
      env := out.2.2
      calls := sys.calls ++ [⟨p.id, method, out.1.isOk⟩] })

def bind (sys : Sys S E) (kid : KeyId) (pluginId : String) : Sys S E :=
  { sys with manager := sys.manager.bind kid pluginId }

def unbind (sys : Sys S E) (kid : KeyId) : Sys S E :=
  { sys with manager := sys.manager.unbind kid }

def registerPlugin (sys : Sys S E) (plugin : Plugin S) : Sys S E :=
  { sys with manager := sys.manager.registerPlugin plugin }

def bindKeys (sys : Sys S E) (pluginId : String) (kids : List KeyId) :
    Except WscdError Unit × Sys S E :=
  let out := sys.manager.bindKeys pluginId kids
  (out.1, { sys with manager := out.2 })

/-! ### What a call changes -/

@[simp] theorem call_fst (sys : Sys S E) (p : Plugin S) (method : Method) (f : PluginM S E α) :
    (sys.call p method f).1 = (f (sys.current p) sys.env).1 := rfl

@[simp] theorem call_config (sys : Sys S E) (p : Plugin S) (method : Method)
    (f : PluginM S E α) : (sys.call p method f).2.manager.config = sys.manager.config := rfl

theorem fst_of_call {sys sys' : Sys S E} {p : Plugin S} {method : Method} {f : PluginM S E α}
    {r : Except WscdError α} (h : sys.call p method f = (r, sys')) :
    (f (sys.current p) sys.env).1 = r := by
  rw [← call_fst sys p method f, h]

theorem config_of_call {sys sys' : Sys S E} {p : Plugin S} {method : Method} {f : PluginM S E α}
    {r : Except WscdError α} (h : sys.call p method f = (r, sys')) :
    sys'.manager.config = sys.manager.config := by
  rw [← call_config sys p method f, h]

theorem boundTo_of_call {sys sys' : Sys S E} {p : Plugin S} {method : Method} {f : PluginM S E α}
    {r : Except WscdError α} (h : sys.call p method f = (r, sys')) (kid : KeyId) :
    sys'.manager.boundTo kid = sys.manager.boundTo kid := by
  unfold WscdManager.boundTo
  rw [config_of_call h]

@[simp] theorem call_calls (sys : Sys S E) (p : Plugin S) (method : Method) (f : PluginM S E α) :
    (sys.call p method f).2.calls =
      sys.calls ++ [⟨p.id, method, (f (sys.current p) sys.env).1.isOk⟩] := rfl

theorem call_lookup (sys : Sys S E) (p : Plugin S) (method : Method) (f : PluginM S E α)
    (id : String) :
    (sys.call p method f).2.manager.plugins.lookup id =
      if id = p.id then some ⟨p.id, (f (sys.current p) sys.env).2.1⟩
      else sys.manager.plugins.lookup id :=
  HashMap.lookup_insert_eq_ite _ _ _ _

/-- A handle is its id: once the plugin is registered, nothing else about it matters. -/
theorem current_of_lookup {sys : Sys S E} {p q : Plugin S}
    (h : sys.manager.plugins.lookup p.id = some q) : sys.current p = q.self := by
  simp [current, h]

theorem call_congr {sys : Sys S E} {p q : Plugin S} (method : Method) (f : PluginM S E α)
    (h : sys.manager.plugins.lookup p.id = some q) : sys.call q method f = sys.call p method f := by
  have hid : q.id = p.id := sys.manager.id_eq _ _ h
  have hself : sys.current q = sys.current p := by
    rw [current_of_lookup h, current_of_lookup (hid ▸ h)]
  simp only [call, hself, hid]

/-- A plugin is registered as `id`. -/
def registered (sys : Sys S E) (id : String) : Bool := (sys.manager.plugins.lookup id).isSome

/-- The plugins whose `generate_key` was called, oldest call first. -/
def generateCalls (sys : Sys S E) : List String :=
  sys.calls.filterMap fun c =>
    match c.method with
    | .generateKey _ => some c.pluginId
    | _ => none

variable [WscdPlugin S E]

/-! ## Key generation -/

def collisionMsg (pluginId : String) (kid : KeyId) (existing : String) : String :=
  s!"plugin {pluginId} generated key {kid} which is already bound to plugin {existing}"

def generateKeyOn (sys : Sys S E) (plugin : Plugin S) (algorithm : Algorithm) :
    Except WscdError GeneratedKey × Sys S E :=
  match sys.call plugin (.generateKey algorithm) (WscdPlugin.generateKey algorithm) with
  | (.error e, sys') => (.error e, sys')
  | (.ok result, sys') =>
    match sys'.manager.config.keyBindings.lookup result.kid with
    | some existing =>
      if existing ≠ plugin.id then
        (.error (.plugin (collisionMsg plugin.id result.kid existing)), sys')
      else (.ok result, sys'.bind result.kid plugin.id)
    | none => (.ok result, sys'.bind result.kid plugin.id)

/-- Generate a new key using the configured default plugin. -/
def generateKey (sys : Sys S E) (algorithm : Algorithm) : Except WscdError GeneratedKey × Sys S E :=
  match sys.manager.resolveForGenerate with
  | .error e => (.error e, sys)
  | .ok plugin => sys.generateKeyOn plugin algorithm

/-- Generate a new key using a specific registered plugin. -/
def generateKeyWithPlugin (sys : Sys S E) (pluginId : String) (algorithm : Algorithm) :
    Except WscdError GeneratedKey × Sys S E :=
  match sys.manager.getPlugin pluginId with
  | .error e => (.error e, sys)
  | .ok plugin => sys.generateKeyOn plugin algorithm

/-! ## Operations on a key -/

def sign (sys : Sys S E) (kid : KeyId) (data : List UInt8) (algorithm : Algorithm) :
    Except WscdError Signature × Sys S E :=
  match sys.manager.resolveForKey kid "sign" with
  | .error e => (.error e, sys)
  | .ok plugin => sys.call plugin (.sign kid) (WscdPlugin.sign kid data algorithm)

def attestationChain (sys : Sys S E) (kid : KeyId) :
    Except WscdError (Option AttestationChain) × Sys S E :=
  match sys.manager.resolveForKey kid "attestation" with
  | .error e => (.error e, sys)
  | .ok plugin => sys.call plugin (.attestationChain kid) (WscdPlugin.attestationChain kid)

def exportPublicKey (sys : Sys S E) (kid : KeyId) : Except WscdError Json × Sys S E :=
  match sys.manager.resolveForKey kid "export_public_key" with
  | .error e => (.error e, sys)
  | .ok plugin => sys.call plugin (.exportPublicKey kid) (WscdPlugin.exportPublicKey kid)

/-- Delete a key. -/
def deleteKey (sys : Sys S E) (kid : KeyId) : Except WscdError Unit × Sys S E :=
  match sys.manager.resolveForKey kid "delete" with
  | .error e => (.error e, sys)
  | .ok plugin =>
    match sys.call plugin (.deleteKey kid) (WscdPlugin.deleteKey kid) with
    | (.error e, sys') => (.error e, sys')
    | (.ok _, sys') => (.ok (), sys'.unbind kid)

/-- A query reads the plugin: it is a call that leaves the plugin as it is. -/
def query (f : S → E → Except WscdError α × E) : PluginM S E α := fun self env =>
  ((f self env).1, self, (f self env).2)

/-- Get the security properties for a key. -/
def securityProperties (sys : Sys S E) (kid : KeyId) :
    Except WscdError SecurityProperties × Sys S E :=
  match sys.manager.resolveForKey kid "security_properties" with
  | .error e => (.error e, sys)
  | .ok plugin =>
    sys.call plugin (.securityProperties kid) (query (WscdPlugin.securityProperties kid))

/-- `migrate_key` up to the answer of the target's `import_key`. -/
def importForMigration (sys : Sys S E) (kid : KeyId) (targetPluginId : String) :
    Except WscdError MigrationResult × Sys S E :=
  match sys.manager.getPlugin targetPluginId with
  | .error e => (.error e, sys)
  | .ok target =>
    if ¬ WscdPlugin.supportsImport (sys.current target) sys.env then
      (.ok (.reEnrollmentRequired kid), sys)
    else
      match sys.manager.resolveForKey kid "migrate" with
      | .error e => (.error e, sys)
      | .ok source =>
        match sys.call source (.exportPublicKey kid) (WscdPlugin.exportPublicKey kid) with
        | (.error e, sys₁) => (.error e, sys₁)
        | (.ok _, sys₁) =>
          match sys₁.call source .listKeys WscdPlugin.listKeys with
          | (.error e, sys₂) => (.error e, sys₂)
          | (.ok keys, sys₂) =>
            match keys.find? fun k => k.kid = kid with
            | none => (.error (.keyNotFound kid.asStr), sys₂)
            | some keyInfo =>
              sys₂.call target (.importKey keyInfo.algorithm)
                (WscdPlugin.importKey keyInfo.algorithm)

/-- Migrate a key from its current plugin to a target plugin. The new key is bound to the
target, whatever its kid was bound to before. -/
def migrateKey (sys : Sys S E) (kid : KeyId) (targetPluginId : String) :
    Except WscdError MigrationResult × Sys S E :=
  match sys.importForMigration kid targetPluginId with
  | (.ok (.migrated newKid), sys') => (.ok (.migrated newKid), sys'.bind newKid targetPluginId)
  | (.ok (.reEnrollmentRequired oldKid), sys') => (.ok (.reEnrollmentRequired oldKid), sys')
  | (.error e, sys') => (.error e, sys')

/-! ## Lifecycle operations -/

/-- A lifecycle operation goes to the plugin its request names; `key_bindings` plays
no part in it. -/
def onPlugin (sys : Sys S E) (pluginId : String) (method : Method) (f : PluginM S E α) :
    Except WscdError α × Sys S E :=
  match sys.manager.getPlugin pluginId with
  | .error e => (.error e, sys)
  | .ok plugin => sys.call plugin method f

def lifecycleStatus (sys : Sys S E) (pluginId contextId : String) :
    Except WscdError LifecycleStatus × Sys S E :=
  sys.onPlugin pluginId (.lifecycleStatus contextId) (WscdPlugin.lifecycleStatus contextId)

def registerLifecycle (sys : Sys S E) (request : RegisterLifecycleRequest) :
    Except WscdError RegistrationOutcome × Sys S E :=
  sys.onPlugin request.pluginId (.registerLifecycle request.contextId)
    (WscdPlugin.registerLifecycle request)

def activateLifecycle (sys : Sys S E) (request : ActivateLifecycleRequest) :
    Except WscdError ActivationOutcome × Sys S E :=
  sys.onPlugin request.pluginId (.activateLifecycle request.contextId)
    (WscdPlugin.activateLifecycle request)

def rotateLifecycle (sys : Sys S E) (request : RotateLifecycleRequest) :
    Except WscdError RotationOutcome × Sys S E :=
  sys.onPlugin request.pluginId (.rotateLifecycle request.contextId)
    (WscdPlugin.rotateLifecycle request)

def destroyLifecycle (sys : Sys S E) (request : DestroyLifecycleRequest) :
    Except WscdError DestructionOutcome × Sys S E :=
  sys.onPlugin request.pluginId (.destroyLifecycle request.contextId)
    (WscdPlugin.destroyLifecycle request)

/-! ## Confirming a level -/

/-- Ordinal rank of a certification level. -/
def certificationRank : CertificationLevel → Nat
  | .unattested => 0
  | .attestedSharedEnvironment => 1
  | .attestedDedicatedHardware => 2

def noCandidatesMsg : String := "generate_key_for_level: no candidate plugins were offered"

def noneSatisfiedMsg : String :=
  "generate_key_for_level: no candidate plugin satisfied the required level"

def unconfirmedLevelMsg (pluginId : String) (e deleteErr : WscdError) : String :=
  s!"generate_key_for_level: could not confirm the level {pluginId} reached ({e}), " ++
    s!"and deleting its key also failed ({deleteErr})"

def insufficientKeyMsg (shortfall deleteErr : WscdError) : String :=
  s!"{shortfall}, and deleting the insufficient key also failed ({deleteErr})"

def shortfallErr (pluginId : String) (achieved required : CertificationLevel) : WscdError :=
  .unsupported pluginId
    s!"generate_key_for_level: reached {achieved.debug}, required {required.debug}"

/-- A generation failure that must stop the whole operation. -/
def stopsOperation : WscdError → Bool
  | .unconfirmedCleanup _ _ | .authCancelled | .pin _ => true
  | _ => false

/-- What one pass of the candidate loop carries: the system and the last error. -/
abbrev LevelState (S E : Type) : Type := Sys S E × Option WscdError

/-- One pass of the loop of `generate_key_for_level`. -/
def tryCandidate (requiredLevel : CertificationLevel) (algorithm : Algorithm) (pluginId : String) :
    LevelState S E → Ctl (LevelState S E) (Except WscdError GeneratedKey × Sys S E)
  | (sys, _) =>
    match sys.manager.getPlugin pluginId with
    | .error e => .next (sys, some e)
    | .ok plugin =>
      match sys.generateKeyOn plugin algorithm with
      | (.error e, sys₁) =>
        if stopsOperation e then .ret (.error e, sys₁) else .next (sys₁, some e)
      | (.ok generated, sys₁) =>
        match sys₁.securityProperties generated.kid with
        | (.error e, sys₂) =>
          match sys₂.deleteKey generated.kid with
          | (.error deleteErr, sys₃) =>
            .ret (.error (.plugin (unconfirmedLevelMsg pluginId e deleteErr)), sys₃)
          | (.ok _, sys₃) => .next (sys₃, some e)
        | (.ok props, sys₂) =>
          if certificationRank props.certification ≥ certificationRank requiredLevel then
            .ret (.ok generated, sys₂)
          else
            let shortfall := shortfallErr pluginId props.certification requiredLevel
            match sys₂.deleteKey generated.kid with
            | (.error deleteErr, sys₃) =>
              .ret (.error (.plugin (insufficientKeyMsg shortfall deleteErr)), sys₃)
            | (.ok _, sys₃) => .next (sys₃, some shortfall)

/-- Generate a key that meets `requiredLevel`, trying each candidate in order. -/
def generateKeyForLevel (sys : Sys S E) (requiredLevel : CertificationLevel)
    (candidatePluginIds : List String) (algorithm : Algorithm) :
    Except WscdError GeneratedKey × Sys S E :=
  if candidatePluginIds.isEmpty then (.error (.noPlugin noCandidatesMsg), sys)
  else
    match forLoop (tryCandidate requiredLevel algorithm) candidatePluginIds (sys, none) with
    | .ret out => out
    | .next (sys', lastErr) => (.error (lastErr.getD (.noPlugin noneSatisfiedMsg)), sys')

end Sys

end Wscd
