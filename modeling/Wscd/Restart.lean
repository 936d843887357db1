import Wscd.ExportOrder
import Wscd.Plugins.SoftkeyContainer
import Wscd.Restore
import Wscd.StateRoundTrip

/-!
# A wallet over a restart

A manager lives as long as its process. The host keeps what the export entry points wrote and
hands each blob to the entry point that restores it, with callbacks of the new process and in an
order of its own, in a process whose hash maps walk in other orders.

Results:
1. `save_cases`: what an export of one plugin restores as.
2. `Carried.concat`: what one plugin that comes over adds to the new manager.
3. `wallet_survives_restart`: a wallet comes back exactly when every fido2 key has a width the
   restore knows and no kid comes back under two plugins, and then with the same records and its
   keys routed to them.
-/

namespace Wscd

open Lib

variable {C O : Type}

/-! ## The export entry points -/

namespace PluginObject

def asSoftkey : PluginObject C O → Option SoftkeyPlugin
  | .softkey p => some p
  | _ => none

def asFido2 : PluginObject C O → Option Fido2SignPlugin
  | .fido2 _ p => some p
  | _ => none

def asAndroidKeystore : PluginObject C O → Option AndroidKeystorePlugin
  | .androidKeystore _ p => some p
  | _ => none

def asAppleSecureEnclave : PluginObject C O → Option AppleSecureEnclavePlugin
  | .appleSecureEnclave _ p => some p
  | _ => none

end PluginObject

namespace AppleSecureEnclavePlugin

def exportContainer (codec : Codec AppleSecureEnclave.ExportedContainer)
    (self : AppleSecureEnclavePlugin) : Except WscdError (List UInt8) :=
  match codec.toVec ⟨self.keys⟩ with
  | .ok bytes => .ok bytes
  | .error e => .error (.serialization e)

end AppleSecureEnclavePlugin

/-- Look the plugin up, downcast it, export it. -/
def exportPlugin {ε P : Type} (noPlugin exportErr : WscdError → ε) (wrongType : ε) (id : String)
    (downcast : PluginObject C O → Option P) (exportState : P → Except WscdError (List UInt8))
    (mgr : RestoreManager C O) : Except ε (List UInt8) :=
  match mgr.getPlugin id with
  | .error e => .error (noPlugin e)
  | .ok plugin =>
    match downcast plugin.self with
    | none => .error wrongType
    | some p => (exportState p).mapError exportErr

/-- `WscdConfig::default` -/
def WscdConfig.default : WscdConfig := ⟨"softkey", ∅, ∅⟩

namespace FfiWscdManager

def noPluginError (e : WscdError) : FfiWscdError := .noPlugin e.display

def exportSoftkeyContainer (host : RestoreHost) (mgr : RestoreManager C O) :
    Except FfiWscdError (List UInt8) :=
  exportPlugin noPluginError serializationError (.plugin "softkey plugin is not a SoftkeyPlugin")
    "softkey" PluginObject.asSoftkey (·.exportContainer host.softkeyCodec host.softkeyOrder) mgr

def exportFido2State (host : RestoreHost) (mgr : RestoreManager C O) :
    Except FfiWscdError (List UInt8) :=
  exportPlugin noPluginError serializationError (.plugin "fido2 plugin is not a Fido2SignPlugin")
    "fido2" PluginObject.asFido2 (·.exportState host.fido2Codec host.fido2Order) mgr

def exportAndroidKeystoreState (host : RestoreHost) (mgr : RestoreManager C O) :
    Except FfiWscdError (List UInt8) :=
  exportPlugin noPluginError serializationError
    (.plugin "android-keystore plugin is not an AndroidKeystorePlugin") AndroidKeystorePlugin.id
    PluginObject.asAndroidKeystore
    (·.exportState host.androidKeystoreCodec host.androidKeystoreOrder) mgr

def exportAppleSecureEnclaveState (host : RestoreHost) (mgr : RestoreManager C O) :
    Except FfiWscdError (List UInt8) :=
  exportPlugin noPluginError serializationError
    (.plugin "apple-se plugin is not an AppleSecureEnclavePlugin") "apple-se"
    PluginObject.asAppleSecureEnclave (·.exportContainer host.appleSecureEnclaveCodec) mgr

/-- The constructor: no plugin is registered, and the host names the default plugin. -/
def new (defaultPlugin : String) : RestoreManager C O :=
  .new { WscdConfig.default with defaultPlugin }

end FfiWscdManager

namespace WasmWscdManager

def exportContainer (host : RestoreHost) (mgr : RestoreManager C O) : Except JsError (List UInt8) :=
  exportPlugin jsError jsError ⟨"softkey plugin is not a SoftkeyPlugin"⟩ "softkey"
    PluginObject.asSoftkey (·.exportContainer host.softkeyCodec host.softkeyOrder) mgr

def exportFido2State (host : RestoreHost) (mgr : RestoreManager C O) :
    Except JsError (List UInt8) :=
  exportPlugin jsError jsError ⟨"fido2 plugin is not a Fido2SignPlugin"⟩ "fido2"
    PluginObject.asFido2 (·.exportState host.fido2Codec host.fido2Order) mgr

/-- The constructor: the softkey plugin is registered, without keys. -/
def new : RestoreManager C O :=
  (WscdManager.new .default).registerPlugin ⟨SoftkeyPlugin.id, .softkey .new⟩

end WasmWscdManager

namespace RestoreEntry

/-- The export whose blob the entry point takes, from the same bindings. -/
def save (host : RestoreHost) (mgr : RestoreManager C O) :
    RestoreEntry C → Except (FfiWscdError ⊕ JsError) (List UInt8)
  | .importSoftkeyContainer => (FfiWscdManager.exportSoftkeyContainer host mgr).mapError .inl
  | .registerFido2PluginWithState _ => (FfiWscdManager.exportFido2State host mgr).mapError .inl
  | .registerAndroidKeystorePluginWithState _ =>
    (FfiWscdManager.exportAndroidKeystoreState host mgr).mapError .inl
  | .registerAppleSecureEnclavePluginWithState _ =>
    (FfiWscdManager.exportAppleSecureEnclaveState host mgr).mapError .inl
  | .importContainer => (WasmWscdManager.exportContainer host mgr).mapError .inr
  | .registerFido2WithState => (WasmWscdManager.exportFido2State host mgr).mapError .inr

/-- The plugin is of the type the entry point restores. -/
def Takes : RestoreEntry C → PluginObject C O → Prop
  | .importSoftkeyContainer, .softkey _ | .importContainer, .softkey _ => True
  | .registerFido2PluginWithState _, .fido2 _ _ | .registerFido2WithState, .fido2 _ _ => True
  | .registerAndroidKeystorePluginWithState _, .androidKeystore _ _ => True
  | .registerAppleSecureEnclavePluginWithState _, .appleSecureEnclave _ _ => True
  | _, _ => False

/-- The plugin with the same records around what the entry point is given. -/
def rehost : RestoreEntry C → PluginObject C O → PluginObject C O
  | .registerFido2PluginWithState transport, .fido2 _ p =>
    .fido2 (.ctap2TransportBridge transport) p
  | .registerFido2WithState, .fido2 _ p => .fido2 .wasmFido2Transport p
  | .registerAndroidKeystorePluginWithState callback, .androidKeystore _ p =>
    .androidKeystore callback p
  | .registerAppleSecureEnclavePluginWithState callback, .appleSecureEnclave _ p =>
    .appleSecureEnclave callback p
  | _, plugin => plugin

/-- All but one bind the keys they restore. -/
def Binds (entry : RestoreEntry C) : Prop := entry ≠ .importSoftkeyContainer

/-- The entry point binds a key the wallet has under this kid. -/
def Brings (entry : RestoreEntry C) (old : RestoreManager C O) (kid : KeyId) : Prop :=
  entry.Binds ∧ ∃ plugin, old.plugins.lookup entry.pluginId = some plugin ∧ plugin.self.Holds kid

/-- No later entry point restores a plugin under the same id. -/
def IsLast (entry : RestoreEntry C) (entries : List (RestoreEntry C)) : Prop :=
  ∃ pre post, entries = pre ++ entry :: post ∧ entry.pluginId ∉ post.map pluginId

end RestoreEntry

/-! ## Two processes -/

/-- How one process walks its hash maps. -/
structure Walks where
  softkey : HashMap.IterOrder String Softkey.StoredKey
  fido2 : HashMap.IterOrder String Fido2.StoredFidoKey
  androidKeystore : HashMap.IterOrder String AndroidKeystore.StoredAndroidKey
  appleSecureEnclave : HashMap.IterOrder String AppleSecureEnclave.StoredKey
  contexts : HashMap.IterOrder String LifecycleContext

/-- `serde_json`, its text layer alone where the documents are known. The Secure Enclave's
container is a hash map, and is written in the order the map is walked. -/
structure StateWire where
  json : JsonText
  androidKeystore : Codec AndroidKeystore.ExportedPluginState
  appleSecureEnclave : HashMap.IterOrder String AppleSecureEnclave.StoredKey →
    Codec AppleSecureEnclave.ExportedContainer

/-- What a process has written, every process reads. -/
structure StateWire.Lawful (wire : StateWire) : Prop where
  json : wire.json.Lawful
  androidKeystore : wire.androidKeystore.Lawful
  appleSecureEnclave : ∀ order order' x bytes, (wire.appleSecureEnclave order).toVec x = .ok bytes →
    (wire.appleSecureEnclave order').fromSlice bytes = .ok x

/-- A process that walks its maps this way. -/
def StateWire.process (wire : StateWire) (walks : Walks) : RestoreHost where
  softkeyCodec := SoftkeyPlugin.containerCodec wire.json walks.contexts
  softkeyOrder := walks.softkey
  fido2Codec := Fido2SignPlugin.stateCodec wire.json walks.contexts
  fido2Order := walks.fido2
  androidKeystoreCodec := wire.androidKeystore
  androidKeystoreOrder := walks.androidKeystore
  appleSecureEnclaveCodec := wire.appleSecureEnclave walks.appleSecureEnclave
  appleSecureEnclaveOrder := walks.appleSecureEnclave

/-- One plugin, exported from the old manager and handed to the new one. -/
def carryOver (before after : RestoreHost) (old : RestoreManager C O) (entry : RestoreEntry C)
    (new : RestoreManager C O) :
    Ctl (RestoreManager C O) (Except (FfiWscdError ⊕ JsError) Unit × RestoreManager C O) :=
  match entry.save before old with
  | .error e => .ret (.error e, new)
  | .ok blob =>
    match entry.call after blob new with
    | (.error e, new') => .ret (.error e, new')
    | (.ok (), new') => .next new'

/-- The bindings of the new process. -/
inductive Binding where
  | ffi (defaultPlugin : String)
  | wasm
  deriving DecidableEq, Repr

namespace Binding

/-- The manager the process constructs. -/
def start : Binding → RestoreManager C O
  | .ffi defaultPlugin => FfiWscdManager.new defaultPlugin
  | .wasm => WasmWscdManager.new

def defaultPlugin : Binding → String
  | .ffi defaultPlugin => defaultPlugin
  | .wasm => SoftkeyPlugin.id

end Binding

/-- The host hands the exports to a new manager, in the order of the entry points. -/
def restart (before after : RestoreHost) (old : RestoreManager C O)
    (entries : List (RestoreEntry C)) (binding : Binding) :
    Except (FfiWscdError ⊕ JsError) Unit × RestoreManager C O :=
  match forLoop (carryOver before after old) entries binding.start with
  | .ret out => out
  | .next new => (.ok (), new)

/-! ## One plugin -/

namespace PluginObject

/-- A run of the plugin's own operations leads to it. -/
def Reachable (json : JsonText) : PluginObject C O → Prop
  | .softkey p => SoftkeyPlugin.Reachable json p
  | .fido2 _ p => Fido2SignPlugin.Reachable json p
  | .androidKeystore _ p => AndroidKeystorePlugin.Reachable p
  | .appleSecureEnclave _ _ | .other _ => True

/-- The coordinates of every fido2 key have a width the restore knows. -/
def KnownWidths : PluginObject C O → Prop
  | .fido2 _ p => ∀ k key, p.keys.lookup k = some key → Fido2SignPlugin.checkWidths key = .ok ()
  | _ => True

end PluginObject

namespace AndroidKeystorePlugin

open AndroidKeystore

theorem mem_sortedKeys (order : HashMap.IterOrder String StoredAndroidKey)
    (p : AndroidKeystorePlugin) (key : StoredAndroidKey) :
    key ∈ p.sortedKeys order ↔ ∃ k, p.keys.lookup k = some key := by
  unfold sortedKeys
  rw [(List.mergeSort_perm _ _).mem_iff, order.mem_values]

theorem fromState_exportState {codec : Codec ExportedPluginState} (hcodec : codec.Lawful)
    {order : HashMap.IterOrder String StoredAndroidKey} {p : AndroidKeystorePlugin}
    (hp : Reachable p) {blob : List UInt8} (hexport : p.exportState codec order = .ok blob) :
    fromState codec blob = .ok p := by
  have hwrite : codec.toVec ⟨p.sortedKeys order⟩ = .ok blob := by
    unfold exportState at hexport
    split at hexport
    · cases hexport
      assumption
    · cases hexport
  unfold fromState
  rw [hcodec _ _ hwrite]
  exact congrArg (fun keys => Except.ok (AndroidKeystorePlugin.mk keys))
    (HashMap.ofListFirst_of_mem_iff (mem_sortedKeys order p) hp.keyed)

end AndroidKeystorePlugin

theorem AppleSecureEnclavePlugin.fromContainer_exportContainer
    {codec codec' : Codec AppleSecureEnclave.ExportedContainer}
    (hcodec : ∀ x bytes, codec.toVec x = .ok bytes → codec'.fromSlice bytes = .ok x)
    {p : AppleSecureEnclavePlugin} {blob : List UInt8}
    (hexport : p.exportContainer codec = .ok blob) : fromContainer codec' blob = .ok p := by
  have hwrite : codec.toVec ⟨p.keys⟩ = .ok blob := by
    unfold exportContainer at hexport
    split at hexport
    · cases hexport
      assumption
    · cases hexport
  unfold fromContainer
  rw [hcodec _ _ hwrite]

namespace Fido2SignPlugin

open Fido2

/-- The export can be taken whatever the widths, and is restored by them. -/
theorem fromState_exportState {json : JsonText} (hjson : json.Lawful)
    (keyOrder : HashMap.IterOrder String StoredFidoKey)
    (order order' : HashMap.IterOrder String LifecycleContext) {p : Fido2SignPlugin}
    (hp : Reachable json p) :
    ∃ blob, p.exportState (stateCodec json order) keyOrder = .ok blob ∧
      ((∀ k key, p.keys.lookup k = some key → checkWidths key = .ok ()) →
        fromState (stateCodec json order') blob = .ok p) ∧
      ∀ q, fromState (stateCodec json order') blob = .ok q →
        ∀ k key, p.keys.lookup k = some key → checkWidths key = .ok () := by
  have hnumbered := hp.storable.numbered keyOrder
  have hread : (stateCodec json order').fromSlice
      (json.toVec (serializeState order ⟨p.sortedKeys keyOrder, p.lifecycle⟩)) =
        .ok ⟨p.sortedKeys keyOrder, p.lifecycle⟩ := by
    unfold stateCodec
    dsimp only
    rw [hjson _ (writable_serializeState order hnumbered), Option.bind_some,
      deserializeState_serializeState order hnumbered]
  have hkeys : HashMap.ofListFirst StoredFidoKey.kid (p.sortedKeys keyOrder) = p.keys :=
    HashMap.ofListFirst_of_mem_iff (mem_sortedKeys keyOrder p) hp.storable.keyed
  have hchecks : (p.sortedKeys keyOrder).forM checkWidths = .ok () ↔
      ∀ k key, p.keys.lookup k = some key → checkWidths key = .ok () := by
    rw [forM_checkWidths_eq_ok_iff]
    simp only [mem_sortedKeys, forall_exists_index]
    exact forall_comm
  refine ⟨_, rfl, fun hwidths => ?_, fun q hq => ?_⟩
  · unfold fromState
    rw [hread]
    dsimp only
    rw [hchecks.mpr hwidths, hkeys]
  · unfold fromState at hq
    rw [hread] at hq
    dsimp only at hq
    split at hq
    · cases hq
    · rename_i hforM
      exact hchecks.mp hforM

end Fido2SignPlugin

/-- A plugin of the right type is exported as it says. -/
theorem exportPlugin_ok {ε ε' P : Type} {noPlugin exportErr : WscdError → ε} {wrongType : ε}
    {id : String} {downcast : PluginObject C O → Option P}
    {exportState : P → Except WscdError (List UInt8)} {mgr : RestoreManager C O} {plugin : Plugin _}
    {p : P} {blob : List UInt8} {f : ε → ε'} (hlookup : mgr.plugins.lookup id = some plugin)
    (hdowncast : downcast plugin.self = some p)
    (h : (exportPlugin noPlugin exportErr wrongType id downcast exportState mgr).mapError f =
      .ok blob) : exportState p = .ok blob := by
  unfold exportPlugin at h
  rw [WscdManager.getPlugin_of_lookup hlookup] at h
  dsimp only at h
  rw [hdowncast] at h
  dsimp only at h
  cases hexport : exportState p with
  | ok bytes =>
    rw [hexport] at h
    cases h
    rfl
  | error e =>
    rw [hexport] at h
    cases h

namespace RestoreEntry

/-- An export of a registered plugin comes back if its widths are known. -/
theorem save_cases {wire : StateWire} (hwire : wire.Lawful) {walks : Walks} (walks' : Walks)
    {old : RestoreManager C O} {entry : RestoreEntry C} {plugin : Plugin (PluginObject C O)}
    {blob : List UInt8} (hlookup : old.plugins.lookup entry.pluginId = some plugin)
    (htakes : entry.Takes plugin.self) (hreachable : plugin.self.Reachable wire.json)
    (hsave : entry.save (wire.process walks) old = .ok blob) :
    (plugin.self.KnownWidths →
      entry.decode (wire.process walks') blob = .ok (entry.rehost plugin.self)) ∧
      ∀ q : PluginObject C O, entry.decode (wire.process walks') blob = .ok q →
        plugin.self.KnownWidths := by
  obtain ⟨id, self⟩ := plugin
  dsimp only at htakes hreachable ⊢
  cases self with
  | softkey p =>
    obtain ⟨bytes, hbytes, hload⟩ := SoftkeyPlugin.fromContainer_exportContainer walks.contexts
      hwire.json walks.softkey hreachable
    have hexport :
        p.exportContainer (wire.process walks).softkeyCodec walks.softkey = .ok blob := by
      cases entry with
      | importSoftkeyContainer => exact exportPlugin_ok hlookup rfl hsave
      | importContainer => exact exportPlugin_ok hlookup rfl hsave
      | _ => exact htakes.elim
    cases hbytes.symm.trans hexport
    refine ⟨fun _ => ?_, fun _ _ => trivial⟩
    cases entry with
    | importSoftkeyContainer | importContainer =>
      exact congrArg (Except.map PluginObject.softkey) hload
    | _ => exact htakes.elim
  | fido2 transport p =>
    obtain ⟨bytes, hbytes, hload, hwidths⟩ := Fido2SignPlugin.fromState_exportState hwire.json
      walks.fido2 walks.contexts walks'.contexts hreachable
    have hexport : p.exportState (wire.process walks).fido2Codec walks.fido2 = .ok blob := by
      cases entry with
      | registerFido2PluginWithState _ => exact exportPlugin_ok hlookup rfl hsave
      | registerFido2WithState => exact exportPlugin_ok hlookup rfl hsave
      | _ => exact htakes.elim
    cases hbytes.symm.trans hexport
    obtain ⟨transport', hrehost, hdecode⟩ : ∃ transport' : Fido2Transport C,
        entry.rehost (PluginObject.fido2 transport p : PluginObject C O) = .fido2 transport' p ∧
        entry.decode (wire.process walks') blob =
          (Fido2SignPlugin.fromState (wire.process walks').fido2Codec blob).map
            (PluginObject.fido2 (O := O) transport') := by
      cases entry with
      | registerFido2PluginWithState _ | registerFido2WithState => exact ⟨_, rfl, rfl⟩
      | _ => exact htakes.elim
    rw [hdecode, hrehost]
    refine ⟨fun hknown => congrArg (Except.map (PluginObject.fido2 transport')) (hload hknown),
      fun q hq => ?_⟩
    cases hfrom : Fido2SignPlugin.fromState (wire.process walks').fido2Codec blob with
    | ok p' => exact hwidths p' hfrom
    | error e =>
      rw [hfrom] at hq
      cases hq
  | androidKeystore callback p =>
    cases entry with
    | registerAndroidKeystorePluginWithState callback' =>
      exact ⟨fun _ => congrArg (Except.map (PluginObject.androidKeystore callback'))
        (AndroidKeystorePlugin.fromState_exportState hwire.androidKeystore hreachable
          (exportPlugin_ok hlookup rfl hsave)), fun _ _ => trivial⟩
    | _ => exact htakes.elim
  | appleSecureEnclave callback p =>
    cases entry with
    | registerAppleSecureEnclavePluginWithState callback' =>
      exact ⟨fun _ => congrArg (Except.map (PluginObject.appleSecureEnclave callback'))
        (AppleSecureEnclavePlugin.fromContainer_exportContainer
          (hwire.appleSecureEnclave walks.appleSecureEnclave walks'.appleSecureEnclave)
          (exportPlugin_ok hlookup rfl hsave)), fun _ _ => trivial⟩
    | _ => exact htakes.elim
  | other o => cases entry <;> exact htakes.elim

@[simp] theorem holds_rehost (entry : RestoreEntry C) (plugin : PluginObject C O) (kid : KeyId) :
    (entry.rehost plugin).Holds kid ↔ plugin.Holds kid := by
  cases entry <;> cases plugin <;> exact Iff.rfl

/-- The kids an entry point binds. -/
def boundKids (host : RestoreHost) (plugin : PluginObject C O) : RestoreEntry C → List KeyId
  | .importSoftkeyContainer => []
  | _ => plugin.keyIds host

theorem mem_boundKids (host : RestoreHost) (plugin : PluginObject C O) (entry : RestoreEntry C)
    (kid : KeyId) : kid ∈ entry.boundKids host plugin ↔ entry.Binds ∧ plugin.Holds kid := by
  rw [plugin.holds_iff_mem_keyIds host]
  cases entry with
  | importSoftkeyContainer => exact iff_of_false List.not_mem_nil fun h => h.1 rfl
  | _ => exact ⟨fun h => ⟨nofun, h⟩, fun h => h.2⟩

/-- The entry points that bind share a body. -/
theorem call_eq (host : RestoreHost) {entry : RestoreEntry C}
    (hbinds : entry ≠ .importSoftkeyContainer) (blob : List UInt8) (new : RestoreManager C O) :
    ∃ (ε : Type) (decodeErr bindErr : WscdError → ε) (f : ε → FfiWscdError ⊕ JsError),
      entry.call host blob new = mapErr f
        (restoreAndBind host decodeErr bindErr entry.pluginId (entry.decode host blob) new) := by
  cases entry with
  | importSoftkeyContainer => exact absurd rfl hbinds
  | _ => exact ⟨_, _, _, _, rfl⟩

/-- A call on a blob that decodes stops at a key that is bound elsewhere, if there is one. -/
theorem call_cases (host : RestoreHost) {entry : RestoreEntry C} {blob : List UInt8}
    {plugin : PluginObject C O} (new : RestoreManager C O)
    (hdecode : entry.decode host blob = .ok plugin) :
    ((∀ kid ∈ entry.boundKids host plugin, ¬ new.BoundElsewhere entry.pluginId kid) ∧
      entry.call host blob new = (.ok (), (new.registerPlugin ⟨entry.pluginId, plugin⟩).bindAll
        entry.pluginId (entry.boundKids host plugin))) ∨
    (∃ kid ∈ entry.boundKids host plugin, new.BoundElsewhere entry.pluginId kid) ∧
      ∃ e new', entry.call host blob new = (.error e, new') := by
  by_cases hbinds : entry = .importSoftkeyContainer
  · subst hbinds
    refine .inl ⟨fun kid hkid => absurd hkid List.not_mem_nil, ?_⟩
    unfold decode at hdecode
    unfold call FfiWscdManager.importSoftkeyContainer
    cases hfrom : SoftkeyPlugin.fromContainer host.softkeyCodec blob with
    | error e =>
      rw [hfrom] at hdecode
      cases hdecode
    | ok p =>
      rw [hfrom] at hdecode
      cases hdecode
      rfl
  · obtain ⟨ε, decodeErr, bindErr, f, heq⟩ := call_eq host hbinds blob new
    have hkids : entry.boundKids host plugin = plugin.keyIds host := by
      cases entry with
      | importSoftkeyContainer => exact absurd rfl hbinds
      | _ => rfl
    rw [heq, hdecode, hkids]
    obtain ⟨hclear, hbind⟩ | ⟨pre, kid, post, existing, hsplit, -, hex, hne, hbind⟩ :=
      (new.registerPlugin ⟨entry.pluginId, plugin⟩).bindKeys_cases entry.pluginId
        (plugin.keyIds host)
    · refine .inl ⟨hclear, ?_⟩
      simp only [restoreAndBind, hbind]
      rfl
    · refine .inr ⟨⟨kid, by simp [hsplit], existing, hex, hne⟩, ?_⟩
      simp only [restoreAndBind, hbind]
      exact ⟨_, _, rfl⟩

/-- A call on a blob that does not. -/
theorem call_error (host : RestoreHost) {entry : RestoreEntry C} {blob : List UInt8} {e : WscdError}
    (new : RestoreManager C O)
    (hdecode : (entry.decode host blob : Except WscdError (PluginObject C O)) = .error e) :
    ∃ e', entry.call host blob new = (.error e', new) := by
  by_cases hbinds : entry = .importSoftkeyContainer
  · subst hbinds
    unfold decode at hdecode
    unfold call FfiWscdManager.importSoftkeyContainer
    cases hfrom : SoftkeyPlugin.fromContainer host.softkeyCodec blob with
    | error e => exact ⟨_, rfl⟩
    | ok p =>
      rw [hfrom] at hdecode
      cases hdecode
  · obtain ⟨ε, decodeErr, bindErr, f, heq⟩ := call_eq host hbinds blob new
    rw [heq, hdecode]
    exact ⟨_, rfl⟩

end RestoreEntry

/-! ## The whole wallet -/

/-- The entry points `done` have run on `start`: their plugins are the old ones, each around what
its last entry point was given, and what is bound is what those that bind have brought. -/
structure Carried (old start : RestoreManager C O) (done : List (RestoreEntry C))
    (new : RestoreManager C O) : Prop where
  untouched : ∀ id, id ∉ done.map RestoreEntry.pluginId →
    new.plugins.lookup id = start.plugins.lookup id
  restored : ∀ (entry : RestoreEntry C) plugin, entry.IsLast done →
    old.plugins.lookup entry.pluginId = some plugin →
    new.plugins.lookup entry.pluginId = some ⟨entry.pluginId, entry.rehost plugin.self⟩
  bound : ∀ kid id, new.boundTo kid = some id ↔
    ∃ entry ∈ done, entry.pluginId = id ∧ entry.Brings old kid
  operationDefaults : new.config.operationDefaults = start.config.operationDefaults
  defaultPlugin : new.config.defaultPlugin = start.config.defaultPlugin

/-- No kid is brought back under two plugins. -/
def KidsApart (old : RestoreManager C O) (entries : List (RestoreEntry C)) : Prop :=
  ∀ entry ∈ entries, ∀ entry' ∈ entries, ∀ kid, entry.Brings old kid → entry'.Brings old kid →
    entry.pluginId = entry'.pluginId

/-- The plugin the entry point restores is registered and a run of its own leads to it, and the
host has its export. -/
structure RestoreEntry.Saves (wire : StateWire) (walks : Walks) (old : RestoreManager C O)
    (entry : RestoreEntry C) (plugin : Plugin (PluginObject C O)) : Prop where
  lookup : old.plugins.lookup entry.pluginId = some plugin
  takes : entry.Takes plugin.self
  reachable : plugin.self.Reachable wire.json
  save : ∃ blob, entry.save (wire.process walks) old = .ok blob

section Wallet

variable {wire : StateWire} (hwire : wire.Lawful) {walks : Walks} (walks' : Walks)
  {old start new : RestoreManager C O} {done : List (RestoreEntry C)} {entry : RestoreEntry C}
  {plugin : Plugin (PluginObject C O)}

theorem KidsApart.mono {entries entries' : List (RestoreEntry C)} (h : KidsApart old entries')
    (hsub : entries ⊆ entries') : KidsApart old entries :=
  fun e he e' he' => h e (hsub he) e' (hsub he')

theorem carried_nil (hstart : start.config.keyBindings = ∅) : Carried old start [] start where
  untouched _ _ := rfl
  restored e _ h := by
    obtain ⟨pre, post, hnil, -⟩ := h
    simp at hnil
  bound kid id := by
    refine iff_of_false (fun h => ?_) fun ⟨e, he, _⟩ => absurd he List.not_mem_nil
    rw [WscdManager.boundTo, hstart] at h
    cases (Finmap.lookup_empty kid).symm.trans h
  operationDefaults := rfl
  defaultPlugin := rfl

theorem bindAll_config (m : RestoreManager C O) (id : String) (kids : List KeyId) :
    (m.bindAll id kids).config.operationDefaults = m.config.operationDefaults ∧
      (m.bindAll id kids).config.defaultPlugin = m.config.defaultPlugin := by
  induction kids generalizing m with
  | nil => exact ⟨rfl, rfl⟩
  | cons kid kids ih => exact ih (m.bind kid id)

theorem mem_boundKids_iff_brings (host : RestoreHost)
    (hlookup : old.plugins.lookup entry.pluginId = some plugin) (kid : KeyId) :
    kid ∈ entry.boundKids host (entry.rehost plugin.self) ↔ entry.Brings old kid := by
  rw [RestoreEntry.mem_boundKids, RestoreEntry.holds_rehost, RestoreEntry.Brings]
  refine and_congr_right fun _ => ⟨fun h => ⟨plugin, hlookup, h⟩, ?_⟩
  rintro ⟨plugin', hlookup', hholds⟩
  cases hlookup.symm.trans hlookup'
  exact hholds

/-- The last entry point of a list with one more is that one, or it was the last before and
restores another plugin. -/
theorem RestoreEntry.isLast_concat {e : RestoreEntry C} (h : e.IsLast (done ++ [entry])) :
    e = entry ∨ e.IsLast done ∧ e.pluginId ≠ entry.pluginId := by
  obtain ⟨pre, post, hsplit, hlater⟩ := h
  rcases List.eq_nil_or_concat post with rfl | ⟨post, last, rfl⟩
  · exact .inl (by simpa using (List.append_inj' hsplit rfl).2.symm)
  · rw [List.concat_eq_append, ← List.cons_append, ← List.append_assoc] at hsplit
    obtain ⟨hdone, hlast⟩ := List.append_inj' hsplit rfl
    obtain rfl := List.singleton_inj.mp hlast
    rw [List.concat_eq_append, List.map_append, List.mem_append, not_or] at hlater
    exact .inr ⟨⟨pre, post, hdone, hlater.1⟩, by simpa using hlater.2⟩

/-- The new manager after one more plugin. -/
theorem Carried.concat (hcarried : Carried old start done new) (host : RestoreHost)
    (hlookup : old.plugins.lookup entry.pluginId = some plugin)
    (hclear : ∀ kid, entry.Brings old kid → ¬ new.BoundElsewhere entry.pluginId kid) :
    Carried old start (done ++ [entry])
      ((new.registerPlugin ⟨entry.pluginId, entry.rehost plugin.self⟩).bindAll entry.pluginId
        (entry.boundKids host (entry.rehost plugin.self))) where
  untouched id hid := by
    rw [List.map_append, List.mem_append, not_or, List.map_singleton, List.mem_singleton] at hid
    rw [WscdManager.bindAll_plugins]
    refine (HashMap.lookup_insert_eq_ite _ _ _ _).trans ?_
    rw [if_neg hid.2]
    exact hcarried.untouched id hid.1
  restored e p he hp := by
    rw [WscdManager.bindAll_plugins]
    refine (HashMap.lookup_insert_eq_ite _ _ _ _).trans ?_
    obtain rfl | ⟨hlast, hne⟩ := RestoreEntry.isLast_concat he
    · cases hlookup.symm.trans hp
      exact if_pos rfl
    · rw [if_neg hne]
      exact hcarried.restored e p hlast hp
  bound kid id := by
    rw [WscdManager.boundTo_bindAll]
    have hbrings := mem_boundKids_iff_brings host hlookup kid
    by_cases hkid : kid ∈ entry.boundKids host (entry.rehost plugin.self)
    · rw [if_pos hkid, Option.some_inj]
      constructor
      · rintro rfl
        exact ⟨entry, by simp, rfl, hbrings.mp hkid⟩
      · rintro ⟨e, he, rfl, hbrought⟩
        rcases List.mem_append.mp he with he | he
        · -- an earlier entry point has bound the kid, to the same plugin
          by_contra hne
          exact hclear kid (hbrings.mp hkid)
            ⟨e.pluginId, (hcarried.bound kid _).mpr ⟨e, he, rfl, hbrought⟩, Ne.symm hne⟩
        · rw [List.mem_singleton.mp he]
    · rw [if_neg hkid]
      refine (hcarried.bound kid id).trans ⟨?_, ?_⟩
      · rintro ⟨e, he, hid⟩
        exact ⟨e, List.mem_append_left _ he, hid⟩
      · rintro ⟨e, he, hid, hbrought⟩
        rcases List.mem_append.mp he with he | he
        · exact ⟨e, he, hid, hbrought⟩
        · -- the new entry point would have bound the kid
          obtain rfl := List.mem_singleton.mp he
          exact absurd (hbrings.mpr hbrought) hkid
  operationDefaults := (bindAll_config _ _ _).1.trans hcarried.operationDefaults
  defaultPlugin := (bindAll_config _ _ _).2.trans hcarried.defaultPlugin

/-- An entry point brings a kid that is bound elsewhere exactly when an earlier one has brought
it under another plugin. -/
theorem Carried.boundElsewhere_iff (hcarried : Carried old start done new) (kid : KeyId) :
    new.BoundElsewhere entry.pluginId kid ↔
      ∃ e ∈ done, e.Brings old kid ∧ e.pluginId ≠ entry.pluginId := by
  constructor
  · rintro ⟨id, hbound, hne⟩
    obtain ⟨e, he, rfl, hbrought⟩ := (hcarried.bound kid id).mp hbound
    exact ⟨e, he, hbrought, hne⟩
  · rintro ⟨e, he, hbrought, hne⟩
    exact ⟨_, (hcarried.bound kid _).mpr ⟨e, he, rfl, hbrought⟩, hne⟩

theorem KidsApart.concat (hcarried : Carried old start done new) (hapart : KidsApart old done)
    (hclear : ∀ kid, entry.Brings old kid → ¬ new.BoundElsewhere entry.pluginId kid) :
    KidsApart old (done ++ [entry]) := by
  have hsame : ∀ e ∈ done, ∀ kid, e.Brings old kid → entry.Brings old kid →
      e.pluginId = entry.pluginId := by
    intro e he kid hbrought hbrings
    by_contra hne
    exact hclear kid hbrings ((hcarried.boundElsewhere_iff kid).mpr ⟨e, he, hbrought, hne⟩)
  intro e he e' he' kid hbrought hbrought'
  rcases List.mem_append.mp he with hdone | hlast <;>
    rcases List.mem_append.mp he' with hdone' | hlast'
  · exact hapart e hdone e' hdone' kid hbrought hbrought'
  · obtain rfl := List.mem_singleton.mp hlast'
    exact hsame e hdone kid hbrought hbrought'
  · obtain rfl := List.mem_singleton.mp hlast
    exact (hsame e' hdone' kid hbrought' hbrought).symm
  · rw [List.mem_singleton.mp hlast, List.mem_singleton.mp hlast']

include hwire

/-- One plugin comes over, or its blob is refused for a width, or the restore stops at a kid that
another plugin has brought. -/
theorem carryOver_cases (hcarried : Carried old start done new) (hapart : KidsApart old done)
    (hsaves : entry.Saves wire walks old plugin) :
    (plugin.self.KnownWidths ∧ KidsApart old (done ++ [entry]) ∧ ∃ new',
      carryOver (wire.process walks) (wire.process walks') old entry new = .next new' ∧
        Carried old start (done ++ [entry]) new') ∨
    ¬ (plugin.self.KnownWidths ∧ KidsApart old (done ++ [entry])) ∧ ∃ e new',
      carryOver (wire.process walks) (wire.process walks') old entry new =
        .ret (.error e, new') := by
  obtain ⟨hlookup, htakes, hreachable, blob, hsave⟩ := hsaves
  obtain ⟨hdecode, hknown⟩ :=
    RestoreEntry.save_cases hwire walks' hlookup htakes hreachable hsave
  have hbrings := mem_boundKids_iff_brings (wire.process walks') hlookup
  unfold carryOver
  rw [hsave]
  dsimp only
  by_cases hwidths : plugin.self.KnownWidths
  · rcases RestoreEntry.call_cases _ new (hdecode hwidths) with
      ⟨hclear, hcall⟩ | ⟨⟨kid, hkid, helsewhere⟩, e, new', hcall⟩
    · simp only [hbrings] at hclear
      rw [hcall]
      exact .inl ⟨hwidths, hapart.concat hcarried hclear, _, rfl,
        hcarried.concat _ hlookup hclear⟩
    · rw [hcall]
      refine .inr ⟨fun ⟨_, hall⟩ => ?_, e, new', rfl⟩
      obtain ⟨e', he', hbrought, hne⟩ := (hcarried.boundElsewhere_iff kid).mp helsewhere
      exact hne (hall e' (List.mem_append_left _ he') entry (by simp) kid hbrought
        ((hbrings kid).mp hkid))
  · refine .inr ⟨fun h => hwidths h.1, ?_⟩
    cases hblob : (entry.decode (wire.process walks') blob :
        Except WscdError (PluginObject C O)) with
    | ok q => exact absurd (hknown q hblob) hwidths
    | error e =>
      obtain ⟨e', hcall⟩ := RestoreEntry.call_error (wire.process walks') new hblob
      exact ⟨e', new, by rw [hcall]⟩

/-- All the plugins come over, or the restores stop at one. -/
theorem forLoop_carryOver (entries : List (RestoreEntry C))
    (hsaves : ∀ e ∈ entries, ∃ plugin, e.Saves wire walks old plugin)
    (hcarried : Carried old start done new) (hapart : KidsApart old done) :
    let widths := ∀ e ∈ entries, ∀ plugin, old.plugins.lookup e.pluginId = some plugin →
      plugin.self.KnownWidths
    (widths ∧ KidsApart old (done ++ entries) ∧ ∃ new',
      forLoop (carryOver (wire.process walks) (wire.process walks') old) entries new =
        .next new' ∧ Carried old start (done ++ entries) new') ∨
    ¬ (widths ∧ KidsApart old (done ++ entries)) ∧ ∃ err new',
      forLoop (carryOver (wire.process walks) (wire.process walks') old) entries new =
        .ret (.error err, new') := by
  intro widths
  induction entries generalizing done new with
  | nil =>
    rw [List.append_nil]
    exact .inl ⟨fun e he => absurd he List.not_mem_nil, hapart, new, rfl, hcarried⟩
  | cons e entries ih =>
    obtain ⟨plugin, hplugin⟩ := hsaves e List.mem_cons_self
    have happend : done ++ e :: entries = done ++ [e] ++ entries := by simp
    rcases carryOver_cases hwire walks' hcarried hapart hplugin with
      ⟨hwidths, hapart', new', hnext, hcarried'⟩ | ⟨hrefused, err, new', hret⟩
    · have hrest := ih (fun e' he' => hsaves e' (List.mem_cons_of_mem _ he')) hcarried' hapart'
      rw [forLoop_cons_next hnext, happend]
      have hall : widths ↔ ∀ e' ∈ entries, ∀ plugin,
          old.plugins.lookup e'.pluginId = some plugin → plugin.self.KnownWidths := by
        refine List.forall_mem_cons.trans (and_iff_right fun plugin' hplugin' => ?_)
        cases hplugin.lookup.symm.trans hplugin'
        exact hwidths
      rw [hall]
      exact hrest
    · rw [forLoop_cons_ret hret, happend]
      refine .inr ⟨fun ⟨hall, hapart'⟩ => hrefused ⟨?_, ?_⟩, err, new', rfl⟩
      · exact hall e List.mem_cons_self plugin hplugin.lookup
      · exact hapart'.mono (List.subset_append_left _ _)

end Wallet

/-- Where a key of the old wallet is routed. -/
theorem Carried.resolveForKey_iff {old start new : RestoreManager C O}
    {entries : List (RestoreEntry C)} (hcarried : Carried old start entries new)
    (hapart : KidsApart old entries) (hdefaults : start.config.operationDefaults = ∅)
    {entry : RestoreEntry C} {plugin : Plugin (PluginObject C O)} (hlast : entry.IsLast entries)
    (hlookup : old.plugins.lookup entry.pluginId = some plugin) {kid : KeyId}
    (hholds : plugin.self.Holds kid) (op : String) :
    new.resolveForKey kid op = .ok ⟨entry.pluginId, entry.rehost plugin.self⟩ ↔
      (∃ e ∈ entries, e.pluginId = entry.pluginId ∧ e.Binds) ∨
        start.config.defaultPlugin = entry.pluginId ∧ ∀ e ∈ entries, ¬ e.Brings old kid := by
  have hregistered := hcarried.restored entry plugin hlast hlookup
  have hresolved (id : String) :
      new.getPlugin id = .ok ⟨entry.pluginId, entry.rehost plugin.self⟩ ↔
        id = entry.pluginId := by
    rw [WscdManager.getPlugin_eq_ok_iff]
    constructor
    · intro h
      exact (new.id_eq _ _ h).symm
    · rintro rfl
      exact hregistered
  have hbrings : ∀ e ∈ entries, e.pluginId = entry.pluginId → e.Binds → e.Brings old kid :=
    fun e _ hid hbinds => ⟨hbinds, plugin, by rw [hid, hlookup], hholds⟩
  cases hbound : new.boundTo kid with
  | some id =>
    obtain ⟨e, he, rfl, hbrought⟩ := (hcarried.bound kid id).mp hbound
    rw [WscdManager.resolveForKey_of_bound hbound, hresolved]
    constructor
    · exact fun hid => .inl ⟨e, he, hid, hbrought.1⟩
    · rintro (⟨e', he', hid, hbinds⟩ | ⟨-, hnone⟩)
      · exact (hapart e he e' he' kid hbrought (hbrings e' he' hid hbinds)).trans hid
      · exact absurd hbrought (hnone e he)
  | none =>
    have hnone : ∀ e ∈ entries, ¬ e.Brings old kid := by
      intro e he hbrought
      have hsome := (hcarried.bound kid e.pluginId).mpr ⟨e, he, rfl, hbrought⟩
      rw [hbound] at hsome
      cases hsome
    rw [WscdManager.resolveForKey_of_unbound hbound, hcarried.operationDefaults, hdefaults,
      hcarried.defaultPlugin, Finmap.lookup_empty, Option.getD_none, hresolved]
    constructor
    · exact fun hdefault => .inr ⟨hdefault, hnone⟩
    · rintro (⟨e, he, hid, hbinds⟩ | ⟨hdefault, -⟩)
      · exact absurd (hbrings e he hid hbinds) (hnone e he)
      · exact hdefault

/-- A new process has no bindings and no defaults of operations. -/
theorem Binding.start_config (binding : Binding) :
    (binding.start : RestoreManager C O).config = ⟨binding.defaultPlugin, ∅, ∅⟩ := by
  cases binding <;> rfl

/-- A wallet that is saved and restored in another process comes back exactly when every fido2
key has a width the restore knows and no kid is brought back under two plugins, whatever the
walks of the two processes, the order of the restores and the callbacks they are given. Then each
plugin has the records it had, around what its last restore was given, beside what the process
started with; nothing is bound that was not brought back; and a key is routed to its plugin
exactly when one of the entry points that bind has restored the plugin, or nothing has bound the
kid and the plugin is the default. -/
theorem wallet_survives_restart (wire : StateWire) (hwire : wire.Lawful) (walks walks' : Walks)
    (old : RestoreManager C O) (entries : List (RestoreEntry C))
    (hsaves : ∀ entry ∈ entries, ∃ plugin, entry.Saves wire walks old plugin)
    (binding : Binding) :
    let out := restart (wire.process walks) (wire.process walks') old entries binding
    (out.1 = .ok () ↔
      (∀ entry ∈ entries, ∀ plugin, old.plugins.lookup entry.pluginId = some plugin →
        plugin.self.KnownWidths) ∧ KidsApart old entries) ∧
    (out.1 = .ok () →
      (∀ id, id ∉ entries.map RestoreEntry.pluginId →
        out.2.plugins.lookup id = binding.start.plugins.lookup id) ∧
      (∀ (entry : RestoreEntry C) plugin, entry.IsLast entries →
        old.plugins.lookup entry.pluginId = some plugin →
        out.2.plugins.lookup entry.pluginId = some ⟨entry.pluginId, entry.rehost plugin.self⟩) ∧
      (∀ kid id, out.2.boundTo kid = some id ↔
        ∃ entry ∈ entries, entry.pluginId = id ∧ entry.Brings old kid) ∧
      ∀ (entry : RestoreEntry C) plugin kid op, entry.IsLast entries →
        old.plugins.lookup entry.pluginId = some plugin → plugin.self.Holds kid →
        (out.2.resolveForKey kid op = .ok ⟨entry.pluginId, entry.rehost plugin.self⟩ ↔
          (∃ e ∈ entries, e.pluginId = entry.pluginId ∧ e.Binds) ∨
            binding.defaultPlugin = entry.pluginId ∧ ∀ e ∈ entries, ¬ e.Brings old kid)) := by
  intro out
  have hconfig := binding.start_config (C := C) (O := O)
  have hnil : KidsApart old ([] : List (RestoreEntry C)) := fun e he => absurd he List.not_mem_nil
  rcases forLoop_carryOver hwire walks' entries hsaves (carried_nil (by rw [hconfig])) hnil with
    ⟨hwidths, hapart, new, hloop, hcarried⟩ | ⟨hrefused, err, new, hloop⟩
  · have hout : out = (.ok (), new) := by
      show restart _ _ _ _ _ = _
      unfold restart
      rw [hloop]
    rw [List.nil_append] at hcarried hapart
    rw [hout]
    refine ⟨iff_of_true rfl ⟨hwidths, hapart⟩, fun _ => ⟨hcarried.untouched, hcarried.restored,
      hcarried.bound, fun entry plugin kid op hlast hlookup hholds => ?_⟩⟩
    have hroute := hcarried.resolveForKey_iff hapart (by rw [hconfig]) hlast hlookup hholds op
    rwa [hconfig] at hroute
  · have hout : out = (.error err, new) := by
      show restart _ _ _ _ _ = _
      unfold restart
      rw [hloop]
    rw [List.nil_append] at hrefused
    rw [hout]
    exact ⟨iff_of_false nofun hrefused, nofun⟩

/-! ## A phone with one Secure Enclave key -/

namespace RestartDemo

deriving instance DecidableEq for AppleSecureEnclave.ExportedContainer

def enclaveKeys : HashMap String AppleSecureEnclave.StoredKey :=
  Finmap.singleton "k" ⟨"t", [], [], 0⟩

def wire : StateWire where
  json := jsonWire
  androidKeystore := ⟨fun _ => .error "no Keystore", fun _ => .error "no Keystore"⟩
  appleSecureEnclave _ := onlyCodec ⟨enclaveKeys⟩ RestoreHost.appleSecureEnclaveBlob

theorem wire_lawful : wire.Lawful where
  json := jsonWire_lawful
  androidKeystore _ _ h := nomatch h
  appleSecureEnclave _ _ := onlyCodec_lawful _ _

def walks : Walks := ⟨.sorted, .sorted, .sorted, .sorted, .sorted⟩

def walksBackwards : Walks :=
  ⟨.reversed .sorted, .reversed .sorted, .reversed .sorted, .reversed .sorted, .reversed .sorted⟩

def softkey : Plugin (PluginObject String Empty) := ⟨"softkey", .softkey .new⟩

/-- The Secure Enclave plugin around a callback of the host's. -/
def appleSe (callback : String) : Plugin (PluginObject String Empty) :=
  ⟨"apple-se", .appleSecureEnclave callback ⟨enclaveKeys⟩⟩

def old : RestoreManager String Empty :=
  ((FfiWscdManager.new "softkey").registerPlugin softkey).registerPlugin (appleSe "before")

def entries : List (RestoreEntry String) :=
  [.registerAppleSecureEnclavePluginWithState "after", .importSoftkeyContainer]

theorem lookup_old (id : String) : old.plugins.lookup id =
    if id = "apple-se" then some (appleSe "before")
    else if id = "softkey" then some softkey else none := by
  refine (HashMap.lookup_insert_eq_ite _ _ _ _).trans ?_
  refine ite_congr rfl (fun _ => rfl) fun _ => ?_
  exact HashMap.lookup_insert_eq_ite _ _ _ _

/-- One of the two entry points binds. -/
theorem kidsApart_entries : KidsApart old entries := by
  have happle : ∀ e ∈ entries, ∀ kid, e.Brings old kid → e.pluginId = "apple-se" := by
    rintro e he kid ⟨hbinds, -⟩
    rcases List.mem_cons.mp he with rfl | he
    · rfl
    · exact absurd (List.mem_singleton.mp he) hbinds
  intro e he e' he' kid hbrought hbrought'
  rw [happle e he kid hbrought, happle e' he' kid hbrought']

theorem saves_entries : ∀ entry ∈ entries, ∃ plugin, entry.Saves wire walks old plugin := by
  intro entry hentry
  rcases List.mem_cons.mp hentry with rfl | hentry
  · exact ⟨_, lookup_old _, trivial, trivial, RestoreHost.appleSecureEnclaveBlob, rfl⟩
  · obtain rfl := List.mem_singleton.mp hentry
    exact ⟨softkey, lookup_old _, trivial, .new, _, rfl⟩

theorem knownWidths_entries : ∀ entry ∈ entries, ∀ plugin,
    old.plugins.lookup entry.pluginId = some plugin → plugin.self.KnownWidths := by
  intro entry hentry plugin hlookup
  rcases List.mem_cons.mp hentry with rfl | hentry
  · cases hlookup.symm.trans (lookup_old _)
    trivial
  · obtain rfl := List.mem_singleton.mp hentry
    cases hlookup.symm.trans (lookup_old _)
    trivial

end RestartDemo

open RestartDemo in
theorem wallet_survives_restart_secureEnclave :
    (restart (wire.process walks) (wire.process walksBackwards) old entries
        (.ffi "softkey")).1 = .ok () ∧
      (restart (wire.process walks) (wire.process walksBackwards) old entries
        (.ffi "softkey")).2.resolveForKey ⟨"k"⟩ "sign" = .ok (appleSe "after") := by
  obtain ⟨hok, hafter⟩ := wallet_survives_restart wire wire_lawful walks walksBackwards old
    entries saves_entries (.ffi "softkey")
  have hdone := hok.mpr ⟨knownWidths_entries, kidsApart_entries⟩
  have hholds : (appleSe "before").self.Holds ⟨"k"⟩ := by
    show Finmap.lookup "k" _ ≠ none
    decide
  obtain ⟨-, -, -, hroutes⟩ := hafter hdone
  exact ⟨hdone, (hroutes _ (appleSe "before") ⟨"k"⟩ "sign" ⟨[], _, rfl, by decide⟩
    (lookup_old _) hholds).mpr (.inl ⟨_, List.mem_cons_self, rfl, nofun⟩)⟩

end Wscd
