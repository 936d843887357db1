import Wscd.Manager
import Wscd.Plugins.AndroidKeystore
import Wscd.Plugins.AppleSecureEnclave
import Wscd.Plugins.Fido2
import Wscd.Plugins.Softkey

/-!
# Restoring plugins

The entry points through which a host hands a saved state blob back to the manager, four of
the FFI and two of the WASM bindings. Five decode the blob, register the plugin and then
bind its keys; the softkey container of the FFI is registered and nothing is bound. No
entry point takes the registration back when binding fails.

Results:
1. `restoreAndBind_cases`: the three ways the shared body ends.
2. `restore_atomicAndComplete_iff`: when an entry point either restores everything or
   changes nothing.
-/

namespace Wscd

open Lib

/-! ## The bindings' own types -/

inductive FfiWscdError where
  | noPlugin (msg : String)
  | unsupported (msg : String)
  | keyNotFound (msg : String)
  | authRequired (msg : String)
  | authCancelled (msg : String)
  | reEnrollmentRequired (msg : String)
  | plugin (msg : String)
  | callback (msg : String)
  | serialization (msg : String)
  | crypto (msg : String)
  | pin (reason : PinFailure) (msg : String)
  | strongBoxUnavailable (msg : String)
  | unconfirmedCleanup (msg : String)
  deriving DecidableEq, Repr

structure JsError where
  msg : String
  deriving DecidableEq, Repr

/-- The transport a fido2 plugin is built around: the one the host hands in, behind its bridge,
or the browser's. -/
inductive Fido2Transport (C : Type) where
  | ctap2TransportBridge (inner : C)
  | wasmFido2Transport
  deriving DecidableEq, Repr

/-- The plugin objects of a manager by their type, with the transport or callback each owns; `C`
are those a host hands in, and `other` is any type no entry point restores. -/
inductive PluginObject (C O : Type) where
  | softkey (p : SoftkeyPlugin)
  | fido2 (transport : Fido2Transport C) (p : Fido2SignPlugin)
  | androidKeystore (callback : C) (p : AndroidKeystorePlugin)
  | appleSecureEnclave (callback : C) (p : AppleSecureEnclavePlugin)
  | other (o : O)

/-- The codecs and the iteration orders of the four restorable plugins. -/
structure RestoreHost where
  softkeyCodec : SoftkeyPlugin.ContainerCodec
  softkeyOrder : HashMap.IterOrder String Softkey.StoredKey
  fido2Codec : Codec Fido2.ExportedPluginState
  fido2Order : HashMap.IterOrder String Fido2.StoredFidoKey
  androidKeystoreCodec : Codec AndroidKeystore.ExportedPluginState
  androidKeystoreOrder : HashMap.IterOrder String AndroidKeystore.StoredAndroidKey
  appleSecureEnclaveCodec : Codec AppleSecureEnclave.ExportedContainer
  appleSecureEnclaveOrder : HashMap.IterOrder String AppleSecureEnclave.StoredKey

variable {C O : Type}

namespace PluginObject

/-- The plugin has a record for the key. -/
def Holds (kid : KeyId) : PluginObject C O → Prop
  | .softkey p => p.keys.lookup kid.asStr ≠ none
  | .fido2 _ p => p.keys.lookup kid.asStr ≠ none
  | .androidKeystore _ p => p.keys.lookup kid.asStr ≠ none
  | .appleSecureEnclave _ p => p.keys.lookup kid.asStr ≠ none
  | .other _ => False

/-- `key_ids()` -/
def keyIds (host : RestoreHost) : PluginObject C O → List KeyId
  | .softkey p => p.keyIds host.softkeyOrder
  | .fido2 _ p => p.keyIds host.fido2Order
  | .androidKeystore _ p => p.keyIds host.androidKeystoreOrder
  | .appleSecureEnclave _ p => p.keyIds host.appleSecureEnclaveOrder
  | .other _ => []

end PluginObject

/-! ## The entry points -/

abbrev RestoreManager (C O : Type) : Type := WscdManager (PluginObject C O)

/-- Register a decoded plugin and bind the keys it brings. -/
def restoreAndBind {ε : Type} (host : RestoreHost) (decodeErr bindErr : WscdError → ε)
    (id : String) (restored : Except WscdError (PluginObject C O)) (mgr : RestoreManager C O) :
    Except ε Unit × RestoreManager C O :=
  match restored with
  | .error e => (.error (decodeErr e), mgr)
  | .ok plugin =>
    match (mgr.registerPlugin ⟨id, plugin⟩).bindKeys id (plugin.keyIds host) with
    | (.error e, mgr') => (.error (bindErr e), mgr')
    | (.ok (), mgr') => (.ok (), mgr')

namespace FfiWscdManager

def serializationError (e : WscdError) : FfiWscdError := .serialization e.display

def pluginError (e : WscdError) : FfiWscdError := .plugin e.display

/-- No key of the container is bound. -/
def importSoftkeyContainer (host : RestoreHost) (container : List UInt8)
    (mgr : RestoreManager C O) : Except FfiWscdError Unit × RestoreManager C O :=
  match SoftkeyPlugin.fromContainer host.softkeyCodec container with
  | .error e => (.error (serializationError e), mgr)
  | .ok plugin => (.ok (), mgr.registerPlugin ⟨SoftkeyPlugin.id, .softkey plugin⟩)

def registerFido2PluginWithState (host : RestoreHost) (transport : C) (state : List UInt8)
    (mgr : RestoreManager C O) : Except FfiWscdError Unit × RestoreManager C O :=
  restoreAndBind host serializationError pluginError Fido2SignPlugin.id
    ((Fido2SignPlugin.fromState host.fido2Codec state).map
      (.fido2 (.ctap2TransportBridge transport))) mgr

def registerAndroidKeystorePluginWithState (host : RestoreHost) (callback : C)
    (state : List UInt8) (mgr : RestoreManager C O) :
    Except FfiWscdError Unit × RestoreManager C O :=
  restoreAndBind host serializationError pluginError AndroidKeystorePlugin.id
    ((AndroidKeystorePlugin.fromState host.androidKeystoreCodec state).map
      (.androidKeystore callback)) mgr

def registerAppleSecureEnclavePluginWithState (host : RestoreHost) (callback : C)
    (state : List UInt8) (mgr : RestoreManager C O) :
    Except FfiWscdError Unit × RestoreManager C O :=
  restoreAndBind host serializationError pluginError AppleSecureEnclavePlugin.id
    ((AppleSecureEnclavePlugin.fromContainer host.appleSecureEnclaveCodec state).map
      (.appleSecureEnclave callback)) mgr

end FfiWscdManager

namespace WasmWscdManager

def jsError (e : WscdError) : JsError := ⟨e.display⟩

def importContainer (host : RestoreHost) (container : List UInt8) (mgr : RestoreManager C O) :
    Except JsError Unit × RestoreManager C O :=
  restoreAndBind host jsError jsError SoftkeyPlugin.id
    ((SoftkeyPlugin.fromContainer host.softkeyCodec container).map .softkey) mgr

def registerFido2WithState (host : RestoreHost) (state : List UInt8) (mgr : RestoreManager C O) :
    Except JsError Unit × RestoreManager C O :=
  restoreAndBind host jsError jsError Fido2SignPlugin.id
    ((Fido2SignPlugin.fromState host.fido2Codec state).map (.fido2 .wasmFido2Transport)) mgr

end WasmWscdManager

/-- The six entry points, with the transport or callback they are given. -/
inductive RestoreEntry (C : Type) where
  | importSoftkeyContainer
  | registerFido2PluginWithState (transport : C)
  | registerAndroidKeystorePluginWithState (callback : C)
  | registerAppleSecureEnclavePluginWithState (callback : C)
  | importContainer
  | registerFido2WithState
  deriving DecidableEq, Repr

namespace RestoreEntry

/-- The id the restored plugin is registered under. -/
def pluginId : RestoreEntry C → String
  | .importSoftkeyContainer | .importContainer => SoftkeyPlugin.id
  | .registerFido2PluginWithState _ | .registerFido2WithState => Fido2SignPlugin.id
  | .registerAndroidKeystorePluginWithState _ => AndroidKeystorePlugin.id
  | .registerAppleSecureEnclavePluginWithState _ => AppleSecureEnclavePlugin.id

/-- The plugin a blob stands for, built around what the entry point is given. -/
def decode (host : RestoreHost) (blob : List UInt8) :
    RestoreEntry C → Except WscdError (PluginObject C O)
  | .importSoftkeyContainer | .importContainer =>
    (SoftkeyPlugin.fromContainer host.softkeyCodec blob).map .softkey
  | .registerFido2PluginWithState transport =>
    (Fido2SignPlugin.fromState host.fido2Codec blob).map (.fido2 (.ctap2TransportBridge transport))
  | .registerFido2WithState =>
    (Fido2SignPlugin.fromState host.fido2Codec blob).map (.fido2 .wasmFido2Transport)
  | .registerAndroidKeystorePluginWithState callback =>
    (AndroidKeystorePlugin.fromState host.androidKeystoreCodec blob).map
      (.androidKeystore callback)
  | .registerAppleSecureEnclavePluginWithState callback =>
    (AppleSecureEnclavePlugin.fromContainer host.appleSecureEnclaveCodec blob).map
      (.appleSecureEnclave callback)

/-- An outcome under the error type of both bindings. -/
def mapErr {ε : Type} (f : ε → FfiWscdError ⊕ JsError) (out : Except ε Unit × RestoreManager C O) :
    Except (FfiWscdError ⊕ JsError) Unit × RestoreManager C O :=
  (out.1.mapError f, out.2)

/-- One call of an entry point. -/
def call (host : RestoreHost) (blob : List UInt8) (mgr : RestoreManager C O) :
    RestoreEntry C → Except (FfiWscdError ⊕ JsError) Unit × RestoreManager C O
  | .importSoftkeyContainer =>
    mapErr .inl (FfiWscdManager.importSoftkeyContainer host blob mgr)
  | .registerFido2PluginWithState transport =>
    mapErr .inl (FfiWscdManager.registerFido2PluginWithState host transport blob mgr)
  | .registerAndroidKeystorePluginWithState callback =>
    mapErr .inl (FfiWscdManager.registerAndroidKeystorePluginWithState host callback blob mgr)
  | .registerAppleSecureEnclavePluginWithState callback =>
    mapErr .inl (FfiWscdManager.registerAppleSecureEnclavePluginWithState host callback blob mgr)
  | .importContainer => mapErr .inr (WasmWscdManager.importContainer host blob mgr)
  | .registerFido2WithState => mapErr .inr (WasmWscdManager.registerFido2WithState host blob mgr)

end RestoreEntry

/-! ## What a restore promises -/

/-- All or nothing: after a success the plugin is registered under `id` and every key it
holds is bound to it; a failure has a reason and leaves the plugin map and the bindings. -/
def AtomicAndComplete {ε : Type} (id : String) (restored : Except WscdError (PluginObject C O))
    (mgr : RestoreManager C O) (out : Except ε Unit × RestoreManager C O) : Prop :=
  match out.1 with
  | .ok () =>
    ∃ plugin, restored = .ok plugin ∧ out.2.plugins.lookup id = some ⟨id, plugin⟩ ∧
      ∀ kid, plugin.Holds kid → out.2.boundTo kid = some id
  | .error _ =>
    ((∃ e, restored = .error e) ∨
      ∃ plugin kid, restored = .ok plugin ∧ plugin.Holds kid ∧ mgr.BoundElsewhere id kid) ∧
    out.2.plugins = mgr.plugins ∧ out.2.config.keyBindings = mgr.config.keyBindings

/-- The very same plugin, around the very same transport or callback, is registered already, and
the keys that come before the first one bound elsewhere are bound to it already: a failing
restore then writes nothing new. -/
def AlreadyRestored (host : RestoreHost) (id : String) (plugin : PluginObject C O)
    (mgr : RestoreManager C O) : Prop :=
  mgr.plugins.lookup id = some ⟨id, plugin⟩ ∧
  ∃ pre kid post, plugin.keyIds host = pre ++ kid :: post ∧ mgr.BoundElsewhere id kid ∧
    ∀ k ∈ pre, mgr.boundTo k = some id

/-- When an entry point that binds keeps its promise on a decodable blob. -/
def Bindable (host : RestoreHost) (id : String) (plugin : PluginObject C O)
    (mgr : RestoreManager C O) : Prop :=
  (∀ kid, plugin.Holds kid → ¬ mgr.BoundElsewhere id kid) ∨ AlreadyRestored host id plugin mgr

namespace RestoreEntry

/-- When an entry point keeps its promise: the blob is undecodable, or the entry point binds
and can, or it does not and every key is bound already. -/
def Restorable (host : RestoreHost) (entry : RestoreEntry C) (blob : List UInt8)
    (mgr : RestoreManager C O) : Prop :=
  ∀ plugin, entry.decode host blob = .ok plugin →
    match entry with
    | .importSoftkeyContainer => ∀ kid, plugin.Holds kid → mgr.boundTo kid = some entry.pluginId
    | _ => Bindable host entry.pluginId plugin mgr

end RestoreEntry

/-! ## The shared body -/

theorem PluginObject.holds_iff_mem_keyIds (host : RestoreHost) (plugin : PluginObject C O)
    (kid : KeyId) : plugin.Holds kid ↔ kid ∈ plugin.keyIds host := by
  have key (V : Type) (order : HashMap.IterOrder String V) (m : HashMap String V) :
      m.lookup kid.asStr ≠ none ↔ kid ∈ (order.keys m).map KeyId.mk := by
    rw [← order.mem_keys, List.mem_map]
    constructor
    · intro h
      exact ⟨kid.asStr, h, rfl⟩
    · rintro ⟨k, hk, rfl⟩
      exact hk
  cases plugin with
  | softkey p => exact key _ host.softkeyOrder p.keys
  | fido2 _ p => exact key _ host.fido2Order p.keys
  | androidKeystore _ p => exact key _ host.androidKeystoreOrder p.keys
  | appleSecureEnclave _ p => exact key _ host.appleSecureEnclaveOrder p.keys
  | other o => exact ⟨False.elim, List.not_mem_nil⟩

theorem lookup_registerPlugin_self {S : Type} (m : WscdManager S) (p : Plugin S) :
    (m.registerPlugin p).plugins.lookup p.id = some p :=
  Finmap.lookup_insert _

/-- Registering leaves the plugin map alone exactly when the plugin was there. -/
theorem registerPlugin_plugins_eq_iff {S : Type} (m : WscdManager S) (p : Plugin S) :
    (m.registerPlugin p).plugins = m.plugins ↔ m.plugins.lookup p.id = some p := by
  constructor
  · intro h
    rw [← h]
    exact lookup_registerPlugin_self m p
  · intro h
    refine Finmap.ext_lookup fun id => ?_
    refine (HashMap.lookup_insert_eq_ite _ _ _ _).trans ?_
    split
    · subst id
      exact h.symm
    · rfl

/-- Binding a list of keys to a plugin leaves the bindings alone exactly when all of them
were bound to it. -/
theorem bindAll_keyBindings_eq_iff {S : Type} (m : WscdManager S) (id : String)
    (kids : List KeyId) :
    (m.bindAll id kids).config.keyBindings = m.config.keyBindings ↔
      ∀ kid ∈ kids, m.boundTo kid = some id := by
  constructor
  · intro h kid hkid
    have hkid' := m.boundTo_bindAll id kids kid
    rw [if_pos hkid] at hkid'
    unfold WscdManager.boundTo at hkid' ⊢
    rwa [h] at hkid'
  · intro h
    refine Finmap.ext_lookup fun kid => (m.boundTo_bindAll id kids kid).trans ?_
    split
    · exact (h kid ‹_›).symm
    · rfl

section Restore

variable {ε : Type} (host : RestoreHost) {decodeErr bindErr : WscdError → ε} {id : String}

/-- A restore that binds everything. -/
theorem atomicAndComplete_of_bound {plugin : PluginObject C O} {mgr : RestoreManager C O} :
    AtomicAndComplete id (.ok plugin) mgr
      ((.ok () : Except ε Unit),
        (mgr.registerPlugin ⟨id, plugin⟩).bindAll id (plugin.keyIds host)) := by
  refine ⟨plugin, rfl, ?_, fun kid hkid => ?_⟩
  · rw [WscdManager.bindAll_plugins]
    exact lookup_registerPlugin_self mgr ⟨id, plugin⟩
  · rw [WscdManager.boundTo_bindAll, if_pos ((plugin.holds_iff_mem_keyIds host kid).mp hkid)]

/-- A restore that stops at a key bound elsewhere changes nothing exactly when there was
nothing left to change. -/
theorem atomicAndComplete_of_conflict_iff {plugin : PluginObject C O} {mgr : RestoreManager C O}
    {pre post : List KeyId} {kid : KeyId} {e : ε}
    (hkids : plugin.keyIds host = pre ++ kid :: post) (hkid : mgr.BoundElsewhere id kid) :
    AtomicAndComplete id (.ok plugin) mgr
        ((.error e : Except ε Unit), (mgr.registerPlugin ⟨id, plugin⟩).bindAll id pre) ↔
      mgr.plugins.lookup id = some ⟨id, plugin⟩ ∧ ∀ k ∈ pre, mgr.boundTo k = some id := by
  have hplugins := registerPlugin_plugins_eq_iff mgr ⟨id, plugin⟩
  have hbindings := bindAll_keyBindings_eq_iff (mgr.registerPlugin ⟨id, plugin⟩) id pre
  have hholds : plugin.Holds kid := by
    rw [plugin.holds_iff_mem_keyIds host, hkids]
    simp
  unfold AtomicAndComplete
  simp only [WscdManager.bindAll_plugins]
  constructor
  · rintro ⟨-, hp, hb⟩
    exact ⟨hplugins.mp hp, hbindings.mp hb⟩
  · rintro ⟨hp, hb⟩
    exact ⟨.inr ⟨plugin, kid, rfl, hholds, hkid⟩, hplugins.mpr hp, hbindings.mpr hb⟩

/-- A failing restore stops at the conflict `AlreadyRestored` speaks of. -/
theorem alreadyRestored_iff {plugin : PluginObject C O} {mgr : RestoreManager C O}
    {pre post : List KeyId} {kid : KeyId}
    (hkids : plugin.keyIds host = pre ++ kid :: post) (hkid : mgr.BoundElsewhere id kid)
    (hpre : ∀ k ∈ pre, ¬ mgr.BoundElsewhere id k) :
    AlreadyRestored host id plugin mgr ↔
      mgr.plugins.lookup id = some ⟨id, plugin⟩ ∧ ∀ k ∈ pre, mgr.boundTo k = some id := by
  constructor
  · rintro ⟨hp, pre', kid', post', hkids', hkid', hbound⟩
    refine ⟨hp, fun k hk => ?_⟩
    rw [hkids] at hkids'
    obtain ⟨mid, rfl, -⟩ | ⟨mid, rfl, hmid⟩ := List.append_eq_append_iff.mp hkids'
    · exact hbound k (List.mem_append_left _ hk)
    · cases mid with
      | nil => exact hbound k (by simpa using hk)
      | cons first mid =>
        -- the other conflict would lie among the keys that had none
        obtain ⟨rfl, -⟩ := List.cons.inj hmid
        exact absurd hkid' (hpre kid' (by simp))
  · rintro ⟨hp, hb⟩
    exact ⟨hp, pre, kid, post, hkids, hkid, hb⟩

/-- The entry points that bind. -/
theorem restoreAndBind_atomicAndComplete_iff (restored : Except WscdError (PluginObject C O))
    (mgr : RestoreManager C O) :
    AtomicAndComplete id restored mgr (restoreAndBind host decodeErr bindErr id restored mgr) ↔
      ∀ plugin, restored = .ok plugin → Bindable host id plugin mgr := by
  cases restored with
  | error e =>
    refine ⟨fun _ plugin h => (nomatch h), fun _ => ⟨.inl ⟨e, rfl⟩, rfl, rfl⟩⟩
  | ok plugin =>
    have hone : (∀ p, (Except.ok plugin : Except WscdError _) = .ok p → Bindable host id p mgr) ↔
        Bindable host id plugin mgr :=
      ⟨fun h => h plugin rfl, fun h p hp => Except.ok.inj hp ▸ h⟩
    rw [hone]
    have hmem := plugin.holds_iff_mem_keyIds host
    obtain ⟨hclear, heq⟩ | ⟨pre, kid, post, existing, hkids, hpre, hex, hne, heq⟩ :=
      (mgr.registerPlugin ⟨id, plugin⟩).bindKeys_cases id (plugin.keyIds host)
    · simp only [restoreAndBind, heq]
      refine ⟨fun _ => .inl fun kid hkid => hclear kid ((hmem kid).mp hkid), fun _ => ?_⟩
      exact atomicAndComplete_of_bound host
    · simp only [restoreAndBind, heq]
      have hkid : mgr.BoundElsewhere id kid := ⟨existing, hex, hne⟩
      rw [atomicAndComplete_of_conflict_iff host hkids hkid,
        ← alreadyRestored_iff host hkids hkid hpre]
      refine ⟨.inr, fun h => h.resolve_left fun hclear => ?_⟩
      exact hclear kid ((hmem kid).mpr (by simp [hkids])) hkid

/-- The entry point that does not. -/
theorem importSoftkeyContainer_atomicAndComplete_iff (container : List UInt8)
    (mgr : RestoreManager C O) :
    AtomicAndComplete SoftkeyPlugin.id
        ((SoftkeyPlugin.fromContainer host.softkeyCodec container).map .softkey) mgr
        (FfiWscdManager.importSoftkeyContainer host container mgr) ↔
      ∀ plugin : PluginObject C O,
        (SoftkeyPlugin.fromContainer host.softkeyCodec container).map .softkey = .ok plugin →
        ∀ kid, plugin.Holds kid → mgr.boundTo kid = some SoftkeyPlugin.id := by
  unfold FfiWscdManager.importSoftkeyContainer
  cases SoftkeyPlugin.fromContainer host.softkeyCodec container with
  | error e =>
    refine ⟨fun _ plugin h => (nomatch h), fun _ => ⟨.inl ⟨e, rfl⟩, rfl, rfl⟩⟩
  | ok plugin =>
    constructor
    · rintro ⟨p, hp, -, hbound⟩ q hq
      cases hp.symm.trans hq
      exact hbound
    · intro h
      exact ⟨.softkey plugin, rfl, lookup_registerPlugin_self mgr _, h _ rfl⟩

end Restore

/-! ## The six entry points -/

theorem atomicAndComplete_mapErr {ε : Type} {id : String}
    {restored : Except WscdError (PluginObject C O)} {mgr : RestoreManager C O}
    (f : ε → FfiWscdError ⊕ JsError) (out : Except ε Unit × RestoreManager C O) :
    AtomicAndComplete id restored mgr (RestoreEntry.mapErr f out) ↔
      AtomicAndComplete id restored mgr out := by
  rcases out with ⟨_ | _, mgr'⟩ <;> exact Iff.rfl

/-- An entry point restores all or changes nothing exactly when it is `Restorable`. -/
theorem restore_atomicAndComplete_iff (host : RestoreHost) (entry : RestoreEntry C)
    (blob : List UInt8) (mgr : RestoreManager C O) :
    AtomicAndComplete entry.pluginId (entry.decode host blob) mgr (entry.call host blob mgr) ↔
      entry.Restorable host blob mgr := by
  cases entry with
  | importSoftkeyContainer =>
    exact (atomicAndComplete_mapErr _ _).trans
      (importSoftkeyContainer_atomicAndComplete_iff host blob mgr)
  | _ =>
    exact (atomicAndComplete_mapErr _ _).trans (restoreAndBind_atomicAndComplete_iff host _ mgr)

/-! ## The two ways to break the promise -/

namespace RestoreHost

/-- A softkey container of one key. -/
def softkeyBlob : List UInt8 :=
  ("\x7b\"keys\":[\x7b\"kid\":\"k\",\"algorithm\":\"ES256\",\"d\":\"AQ\",\"created_at\":0\x7d]," ++
    "\"lifecycle\":\x7b\x7d\x7d").toUTF8.data.toList

/-- A Secure Enclave container of one key. -/
def appleSecureEnclaveBlob : List UInt8 :=
  ("\x7b\"keys\":\x7b\"k\":\x7b\"key_tag\":\"t\",\"pub_x\":[],\"pub_y\":[]," ++
    "\"created_at\":0\x7d\x7d\x7d").toUTF8.data.toList

/-- A codec that knows one blob. -/
def knownBlob {α : Type} (blob : List UInt8) (value : α) : Codec α where
  toVec _ := .ok blob
  fromSlice bytes := if bytes = blob then .ok value else .error "expected value"

/-- A host for the two containers. -/
def known : RestoreHost where
  softkeyCodec := ⟨knownBlob softkeyBlob ⟨[⟨"k", "ES256", "AQ", 0⟩], ∅⟩, knownBlob [] []⟩
  softkeyOrder := .sorted
  fido2Codec := knownBlob [] ⟨[], ∅⟩
  fido2Order := .sorted
  androidKeystoreCodec := knownBlob [] ⟨[]⟩
  androidKeystoreOrder := .sorted
  appleSecureEnclaveCodec :=
    knownBlob appleSecureEnclaveBlob ⟨Finmap.singleton "k" ⟨"t", [], [], 0⟩⟩
  appleSecureEnclaveOrder := .sorted

end RestoreHost

/-- A manager without plugins, with the given bindings. -/
def bareManager (bindings : HashMap KeyId String) : RestoreManager String Empty :=
  .new ⟨SoftkeyPlugin.id, ∅, bindings⟩

/-- The plugin of each container. -/
def softkeyOfBlob : PluginObject String Empty :=
  .softkey ⟨HashMap.ofListLast Softkey.StoredKey.kid [⟨"k", "ES256", "AQ", 0⟩], ∅⟩

def appleSecureEnclaveOfBlob (callback : String) : PluginObject String Empty :=
  .appleSecureEnclave callback ⟨Finmap.singleton "k" ⟨"t", [], [], 0⟩⟩

/-- The Secure Enclave plugin as a host restored it before, its key bound to the softkey plugin. -/
def restoredManager : RestoreManager String Empty :=
  (bareManager (Finmap.singleton ⟨"k"⟩ SoftkeyPlugin.id)).registerPlugin
    ⟨AppleSecureEnclavePlugin.id, appleSecureEnclaveOfBlob "before"⟩

theorem holds_softkeyOfBlob : softkeyOfBlob.Holds ⟨"k"⟩ := by
  show (HashMap.ofListLast Softkey.StoredKey.kid _).lookup "k" ≠ none
  rw [HashMap.lookup_ofListLast]
  decide

theorem holds_appleSecureEnclaveOfBlob (callback : String) :
    (appleSecureEnclaveOfBlob callback).Holds ⟨"k"⟩ := by
  show Finmap.lookup "k" _ ≠ none
  decide

theorem decode_softkeyBlob :
    RestoreEntry.importSoftkeyContainer.decode .known RestoreHost.softkeyBlob =
      .ok softkeyOfBlob := by
  simp [RestoreEntry.decode, SoftkeyPlugin.fromContainer, RestoreHost.known,
    RestoreHost.knownBlob, Except.map, softkeyOfBlob]

theorem decode_appleSecureEnclaveBlob (callback : String) :
    (RestoreEntry.registerAppleSecureEnclavePluginWithState callback).decode .known
        RestoreHost.appleSecureEnclaveBlob = .ok (appleSecureEnclaveOfBlob callback) := by
  simp [RestoreEntry.decode, AppleSecureEnclavePlugin.fromContainer, RestoreHost.known,
    RestoreHost.knownBlob, Except.map, appleSecureEnclaveOfBlob]

/-- The FFI's softkey container leaves its key unbound, and a Secure Enclave container whose
key is bound to the softkey plugin is registered all the same, also over the very same keys
around another callback. -/
theorem restore_breaks_promise :
    ¬ AtomicAndComplete SoftkeyPlugin.id
        (RestoreEntry.importSoftkeyContainer.decode .known RestoreHost.softkeyBlob)
        (bareManager ∅)
        (RestoreEntry.importSoftkeyContainer.call .known RestoreHost.softkeyBlob (bareManager ∅)) ∧
    ¬ AtomicAndComplete AppleSecureEnclavePlugin.id
        ((RestoreEntry.registerAppleSecureEnclavePluginWithState "now").decode .known
          RestoreHost.appleSecureEnclaveBlob)
        (bareManager (Finmap.singleton ⟨"k"⟩ SoftkeyPlugin.id))
        ((RestoreEntry.registerAppleSecureEnclavePluginWithState "now").call .known
          RestoreHost.appleSecureEnclaveBlob
          (bareManager (Finmap.singleton ⟨"k"⟩ SoftkeyPlugin.id))) ∧
    ¬ AtomicAndComplete AppleSecureEnclavePlugin.id
        ((RestoreEntry.registerAppleSecureEnclavePluginWithState "now").decode .known
          RestoreHost.appleSecureEnclaveBlob)
        restoredManager
        ((RestoreEntry.registerAppleSecureEnclavePluginWithState "now").call .known
          RestoreHost.appleSecureEnclaveBlob restoredManager) := by
  have hconflict (mgr : RestoreManager String Empty)
      (hbound : mgr.boundTo ⟨"k"⟩ = some SoftkeyPlugin.id)
      (hnew : mgr.plugins.lookup AppleSecureEnclavePlugin.id ≠
        some ⟨AppleSecureEnclavePlugin.id, appleSecureEnclaveOfBlob "now"⟩) :
      ¬ AtomicAndComplete AppleSecureEnclavePlugin.id
        ((RestoreEntry.registerAppleSecureEnclavePluginWithState "now").decode .known
          RestoreHost.appleSecureEnclaveBlob) mgr
        ((RestoreEntry.registerAppleSecureEnclavePluginWithState "now").call .known
          RestoreHost.appleSecureEnclaveBlob mgr) := by
    intro h
    have hbindable := (restoreAndBind_atomicAndComplete_iff RestoreHost.known _ _).mp
      ((atomicAndComplete_mapErr _ _).mp h) (appleSecureEnclaveOfBlob "now")
      (decode_appleSecureEnclaveBlob "now")
    obtain hclear | ⟨hregistered, -⟩ := hbindable
    · exact hclear ⟨"k"⟩ (holds_appleSecureEnclaveOfBlob _)
        ⟨SoftkeyPlugin.id, hbound, by decide⟩
    · exact hnew hregistered
  refine ⟨fun h => ?_, hconflict _ (by decide) nofun, hconflict _ (by decide) fun hsame => ?_⟩
  · have hall := (importSoftkeyContainer_atomicAndComplete_iff RestoreHost.known
      RestoreHost.softkeyBlob _).mp ((atomicAndComplete_mapErr _ _).mp h)
    cases hall softkeyOfBlob decode_softkeyBlob ⟨"k"⟩ holds_softkeyOfBlob
  · have hregistered := (lookup_registerPlugin_self _ _).symm.trans hsame
    simp [appleSecureEnclaveOfBlob] at hregistered

end Wscd
