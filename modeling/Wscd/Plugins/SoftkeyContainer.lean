import Wscd.JsonWire
import Wscd.KeyringPlugins

/-!
# Softkey containers

The container of the softkey plugin, down to its JSON: the records and contexts as the
derived encoders write them and the derived decoders read them. `from_container` tries the
object first, which as a derived decoder it also takes from a positional array, and then
the older bare array of records.

Results:
1. `deserialize_serialize` of a record, a context and a container.
2. `exported_of_legacy`: no document is both an older container and a newer one.
3. `fromContainer_eq_ok_iff`: what a container loads as.
4. `container_is_faithful`: exports are restored and older containers still load, and an
   object that is damaged does not load.
-/

namespace Wscd

open Lib Content

/-! ## Records as documents -/

namespace FactorKind

def ofName (name : String) : Option FactorKind :=
  [opaqueFactor, webAuthn, rawSign].find? fun kind => kind.debug = name

theorem ofName_debug (kind : FactorKind) : ofName kind.debug = some kind := by
  cases kind <;> rfl

end FactorKind

namespace LifecycleState

/-- The variant's name, as `{:?}` prints it. -/
def debug : LifecycleState → String
  | .uninitialized => "Uninitialized"
  | .registered => "Registered"
  | .active => "Active"
  | .suspended => "Suspended"
  | .destroyed => "Destroyed"

def ofName (name : String) : Option LifecycleState :=
  [uninitialized, registered, active, suspended, destroyed].find? fun state => state.debug = name

theorem ofName_debug (state : LifecycleState) : ofName state.debug = some state := by
  cases state <;> rfl

end LifecycleState

namespace KeyId

def serialize (kid : KeyId) : Content := .str kid.asStr

def deserialize (c : Content) : Option KeyId := c.asStr.map KeyId.mk

theorem deserialize_serialize (kid : KeyId) : deserialize kid.serialize = some kid := rfl

end KeyId

namespace LifecycleContext

def serialize (ctx : LifecycleContext) : Content :=
  .map [("factor_kind", .str ctx.factorKind.debug), ("state", .str ctx.state.debug),
    ("updated_at", .int ctx.updatedAt), ("key_ids", .seq (ctx.keyIds.map KeyId.serialize))]

def deserialize : Content → Option LifecycleContext
  | .map members => do
    let factorKind ← required "factor_kind" (asUnitVariant FactorKind.ofName) members
    let state ← required "state" (asUnitVariant LifecycleState.ofName) members
    let updatedAt ← required "updated_at" asI64 members
    let keyIds ← required "key_ids" (asSeq KeyId.deserialize) members
    return ⟨factorKind, state, updatedAt, keyIds⟩
  | .seq [factorKind, state, updatedAt, keyIds] => do
    let factorKind ← asUnitVariant FactorKind.ofName factorKind
    let state ← asUnitVariant LifecycleState.ofName state
    let updatedAt ← asI64 updatedAt
    let keyIds ← asSeq KeyId.deserialize keyIds
    return ⟨factorKind, state, updatedAt, keyIds⟩
  | _ => none

theorem deserialize_serialize {ctx : LifecycleContext} (h : Cbor.IsI64 ctx.updatedAt) :
    deserialize ctx.serialize = some ctx := by
  have hkeys : asSeq KeyId.deserialize (.seq (ctx.keyIds.map KeyId.serialize)) =
      some ctx.keyIds := asSeq_map fun kid _ => kid.deserialize_serialize
  have hnumber : asI64 (.int ctx.updatedAt) = some ctx.updatedAt := asI64_int h
  simp [serialize, deserialize, required, values, asUnitVariant, FactorKind.ofName_debug,
    LifecycleState.ofName_debug, hkeys, hnumber]

end LifecycleContext

namespace Softkey.StoredKey

def serialize (stored : StoredKey) : Content :=
  .map [("kid", .str stored.kid), ("algorithm", .str stored.algorithm), ("d", .str stored.d),
    ("created_at", .int stored.createdAt)]

def deserialize : Content → Option StoredKey
  | .map members => do
    let kid ← required "kid" asStr members
    let algorithm ← required "algorithm" asStr members
    let d ← required "d" asStr members
    let createdAt ← required "created_at" asI64 members
    return ⟨kid, algorithm, d, createdAt⟩
  | .seq [kid, algorithm, d, createdAt] => do
    let kid ← asStr kid
    let algorithm ← asStr algorithm
    let d ← asStr d
    let createdAt ← asI64 createdAt
    return ⟨kid, algorithm, d, createdAt⟩
  | _ => none

theorem deserialize_serialize {stored : StoredKey} (h : Cbor.IsI64 stored.createdAt) :
    deserialize stored.serialize = some stored := by
  have hnumber : asI64 (.int stored.createdAt) = some stored.createdAt := asI64_int h
  simp [serialize, deserialize, required, values, asStr, hnumber]

end Softkey.StoredKey

namespace SoftkeyPlugin

open Softkey

/-- `Vec<StoredKey>` -/
def serializeKeys (keys : List StoredKey) : Content := .seq (keys.map StoredKey.serialize)

def deserializeKeys : Content → Option (List StoredKey) := asSeq StoredKey.deserialize

/-- `HashMap<String, LifecycleContext>` -/
def serializeLifecycle (order : HashMap.IterOrder String LifecycleContext)
    (lifecycle : LifecycleMap) : Content :=
  .map ((order.entries lifecycle).map fun e => (e.1, e.2.serialize))

def deserializeLifecycle (c : Content) : Option LifecycleMap :=
  (asMap LifecycleContext.deserialize c).map HashMap.collect

namespace ExportedContainer

def serialize (order : HashMap.IterOrder String LifecycleContext) (exported : ExportedContainer) :
    Content :=
  .map [("keys", serializeKeys exported.keys),
    ("lifecycle", serializeLifecycle order exported.lifecycle)]

def deserialize : Content → Option ExportedContainer
  | .map members => do
    let keys ← required "keys" deserializeKeys members
    let lifecycle ← defaulted "lifecycle" ∅ deserializeLifecycle members
    return ⟨keys, lifecycle⟩
  | .seq [keys] => do
    let keys ← deserializeKeys keys
    return ⟨keys, ∅⟩
  | .seq [keys, lifecycle] => do
    let keys ← deserializeKeys keys
    let lifecycle ← deserializeLifecycle lifecycle
    return ⟨keys, lifecycle⟩
  | _ => none

end ExportedContainer

/-- `serde_json` for the two shapes of a container. -/
def containerCodec (json : JsonText) (order : HashMap.IterOrder String LifecycleContext) :
    ContainerCodec where
  exported :=
    { toVec := fun exported => .ok (json.toVec (exported.serialize order))
      fromSlice := fun bytes =>
        match (json.fromSlice bytes).bind ExportedContainer.deserialize with
        | some exported => .ok exported
        | none => .error (json.complaint bytes) }
  legacy :=
    { toVec := fun keys => .ok (json.toVec (serializeKeys keys))
      fromSlice := fun bytes =>
        match (json.fromSlice bytes).bind deserializeKeys with
        | some keys => .ok keys
        | none => .error (json.complaint bytes) }

/-! ## What is written is read back -/

theorem deserializeKeys_serializeKeys {keys : List StoredKey}
    (h : ∀ stored ∈ keys, Cbor.IsI64 stored.createdAt) :
    deserializeKeys (serializeKeys keys) = some keys :=
  asSeq_map fun stored hstored => StoredKey.deserialize_serialize (h stored hstored)

theorem deserializeLifecycle_serializeLifecycle
    (order : HashMap.IterOrder String LifecycleContext) {lifecycle : LifecycleMap}
    (h : ∀ contextId ctx, lifecycle.lookup contextId = some ctx → Cbor.IsI64 ctx.updatedAt) :
    deserializeLifecycle (serializeLifecycle order lifecycle) = some lifecycle := by
  have hentries : asMap LifecycleContext.deserialize (serializeLifecycle order lifecycle) =
      some (order.entries lifecycle) := asMap_map fun e he =>
    LifecycleContext.deserialize_serialize (h e.1 e.2 ((order.mem_entries _ _ _).mp he))
  rw [deserializeLifecycle, hentries, Option.map_some, order.collect_entries]

namespace ExportedContainer

theorem deserialize_serialize (order : HashMap.IterOrder String LifecycleContext)
    (exported : ExportedContainer) (hkeys : ∀ stored ∈ exported.keys, Cbor.IsI64 stored.createdAt)
    (hlifecycle : ∀ contextId ctx, exported.lifecycle.lookup contextId = some ctx →
      Cbor.IsI64 ctx.updatedAt) :
    deserialize (exported.serialize order) = some exported := by
  simp [serialize, deserialize, required, defaulted, values, deserializeKeys_serializeKeys hkeys,
    deserializeLifecycle_serializeLifecycle order hlifecycle]

end ExportedContainer

/-- No document is both a bare array of records and a container. -/
theorem exported_of_legacy {c : Content} {keys : List StoredKey}
    (h : deserializeKeys c = some keys) : ExportedContainer.deserialize c = none := by
  -- The first item would be a record and a list of records.
  have hfirst (v : Content) {stored : StoredKey} (hstored : StoredKey.deserialize v = some stored) :
      deserializeKeys v = none := by
    cases v with
    | seq items =>
      match items with
      | [kid, _, _, _] =>
        obtain ⟨s, hs, -⟩ := Option.bind_eq_some_iff.mp hstored
        cases kid with
        | str s => rfl
        | _ => cases hs
      | [] | [_] | [_, _] | [_, _, _] | _ :: _ :: _ :: _ :: _ :: _ => cases hstored
    | _ => rfl
  obtain ⟨items, rfl, hitems⟩ := (asSeq_eq_some_iff _ _ _).mp h
  match items, hitems with
  | [], _ => rfl
  | [v], .cons hv _ => simp [ExportedContainer.deserialize, hfirst v hv]
  | [v, w], .cons hv _ => simp [ExportedContainer.deserialize, hfirst v hv]
  | _ :: _ :: _ :: _, _ => rfl

/-! ## What a container loads as -/

/-- `Describes c keys lifecycle`: the document is a container of these records and contexts. -/
inductive Describes : Content → List StoredKey → LifecycleMap → Prop
  | object {members : List (String × Content)} {keys : List StoredKey}
      {lifecycle : LifecycleMap} :
      required "keys" deserializeKeys members = some keys →
      defaulted "lifecycle" ∅ deserializeLifecycle members = some lifecycle →
      Describes (.map members) keys lifecycle
  | keysOnly {v : Content} {keys : List StoredKey} : deserializeKeys v = some keys →
      Describes (.seq [v]) keys ∅
  | positional {v w : Content} {keys : List StoredKey} {lifecycle : LifecycleMap} :
      deserializeKeys v = some keys → deserializeLifecycle w = some lifecycle →
      Describes (.seq [v, w]) keys lifecycle
  | legacy {c : Content} {keys : List StoredKey} : deserializeKeys c = some keys →
      Describes c keys ∅

theorem exported_deserialize_describes {c : Content} {exported : ExportedContainer}
    (h : ExportedContainer.deserialize c = some exported) :
    Describes c exported.keys exported.lifecycle := by
  unfold ExportedContainer.deserialize at h
  split at h
  · obtain ⟨keys, hkeys, hrest⟩ := Option.bind_eq_some_iff.mp h
    obtain ⟨lifecycle, hlifecycle, heq⟩ := Option.bind_eq_some_iff.mp hrest
    cases heq
    exact .object hkeys hlifecycle
  · obtain ⟨keys, hkeys, heq⟩ := Option.bind_eq_some_iff.mp h
    cases heq
    exact .keysOnly hkeys
  · obtain ⟨keys, hkeys, hrest⟩ := Option.bind_eq_some_iff.mp h
    obtain ⟨lifecycle, hlifecycle, heq⟩ := Option.bind_eq_some_iff.mp hrest
    cases heq
    exact .positional hkeys hlifecycle
  · cases h

/-- A document describes one container, and says in its shape which reader takes it. -/
theorem describes_iff (c : Content) (keys : List StoredKey) (lifecycle : LifecycleMap) :
    Describes c keys lifecycle ↔
      ExportedContainer.deserialize c = some ⟨keys, lifecycle⟩ ∨
        (ExportedContainer.deserialize c = none ∧ deserializeKeys c = some keys ∧
          lifecycle = ∅) := by
  constructor
  · rintro (⟨hkeys, hlifecycle⟩ | hkeys | ⟨hkeys, hlifecycle⟩ | hkeys)
    · exact .inl (by simp [ExportedContainer.deserialize, hkeys, hlifecycle])
    · exact .inl (by simp [ExportedContainer.deserialize, hkeys])
    · exact .inl (by simp [ExportedContainer.deserialize, hkeys, hlifecycle])
    · exact .inr ⟨exported_of_legacy hkeys, hkeys, rfl⟩
  · rintro (h | ⟨-, hkeys, rfl⟩)
    · exact exported_deserialize_describes h
    · exact .legacy hkeys

variable (json : JsonText) (order : HashMap.IterOrder String LifecycleContext)

theorem fromContainer_eq (bytes : List UInt8) :
    fromContainer (containerCodec json order) bytes =
      match (json.fromSlice bytes).bind ExportedContainer.deserialize with
      | some exported =>
        .ok ⟨HashMap.ofListLast StoredKey.kid exported.keys, exported.lifecycle⟩
      | none =>
        match (json.fromSlice bytes).bind deserializeKeys with
        | some keys => .ok ⟨HashMap.ofListLast StoredKey.kid keys, ∅⟩
        | none => .error (.serialization (json.complaint bytes)) := by
  simp only [fromContainer, containerCodec]
  cases (json.fromSlice bytes).bind ExportedContainer.deserialize with
  | some exported => rfl
  | none => cases (json.fromSlice bytes).bind deserializeKeys <;> rfl

theorem fromContainer_eq_ok_iff (bytes : List UInt8) (p : SoftkeyPlugin) :
    fromContainer (containerCodec json order) bytes = .ok p ↔
      ∃ c keys, json.fromSlice bytes = some c ∧ Describes c keys p.lifecycle ∧
        p.keys = HashMap.ofListLast StoredKey.kid keys := by
  rw [fromContainer_eq]
  cases hbytes : json.fromSlice bytes with
  | none => exact ⟨nofun, by rintro ⟨c, keys, ⟨⟩, -⟩⟩
  | some c =>
    -- the older shape is tried only where the current one fails
    simp only [Option.bind_some, Option.some.injEq]
    cases hexported : ExportedContainer.deserialize c with
    | some exported =>
      constructor
      · rintro ⟨⟩
        exact ⟨c, exported.keys, rfl, (describes_iff _ _ _).mpr (.inl hexported), rfl⟩
      · rintro ⟨_, keys, rfl, hdescribes, hkeys⟩
        rcases (describes_iff _ _ _).mp hdescribes with h | ⟨h, -⟩
        · rw [hexported] at h
          cases h
          dsimp only
          rw [← hkeys]
        · rw [hexported] at h
          cases h
    | none =>
      cases hlegacy : deserializeKeys c with
      | some keys =>
        constructor
        · rintro ⟨⟩
          exact ⟨c, keys, rfl, .legacy hlegacy, rfl⟩
        · rintro ⟨_, keys', rfl, hdescribes, hkeys⟩
          rcases (describes_iff _ _ _).mp hdescribes with h | ⟨-, h, hlifecycle⟩
          · rw [hexported] at h
            cases h
          · rw [hlegacy] at h
            cases h
            dsimp only
            rw [← hkeys, ← hlifecycle]
      | none =>
        refine ⟨nofun, ?_⟩
        rintro ⟨_, keys, rfl, hdescribes, -⟩
        rcases (describes_iff _ _ _).mp hdescribes with h | ⟨-, h, -⟩
        · rw [hexported] at h
          cases h
        · rw [hlegacy] at h
          cases h

/-- A container that does not load is refused for what it says. -/
theorem fromContainer_cases (bytes : List UInt8) :
    (∃ p, fromContainer (containerCodec json order) bytes = .ok p) ∨
      ∃ e, fromContainer (containerCodec json order) bytes = .error (.serialization e) := by
  rw [fromContainer_eq]
  split
  · exact .inl ⟨_, rfl⟩
  · split
    · exact .inl ⟨_, rfl⟩
    · exact .inr ⟨_, rfl⟩

/-! ## Plugins that can come up -/

/-- The times of an operation are `i64`. -/
def Stamped : LifecycleOp Draw → Prop
  | .generateKey _ d => Cbor.IsI64 d.now
  | .deleteKey _ => True
  | .registerLifecycle _ d now | .rotateLifecycle _ d now => Cbor.IsI64 d.now ∧ Cbor.IsI64 now
  | .activateLifecycle _ now | .destroyLifecycle _ now => Cbor.IsI64 now

/-- A plugin after some run of its operations, from a new one or from any container. -/
inductive Reachable : SoftkeyPlugin → Prop
  | new : Reachable .new
  | loaded {order : HashMap.IterOrder String LifecycleContext} {bytes : List UInt8}
      {p : SoftkeyPlugin} : fromContainer (containerCodec json order) bytes = .ok p → Reachable p
  | called (crypto : SoftkeyCrypto) {op : LifecycleOp Draw} {p : SoftkeyPlugin} : Reachable p →
      Stamped op → Reachable (p.apply crypto op).2
  | imported (crypto : SoftkeyCrypto) (algorithm : Algorithm) {d : Draw} {p : SoftkeyPlugin} :
      Reachable p → Cbor.IsI64 d.now → Reachable (p.importKey crypto algorithm d).2

/-- Every record is under its own kid, and every time can be written. -/
structure Storable (r : Keyring StoredKey) : Prop where
  keyed : ∀ kid stored, r.keys.lookup kid = some stored → stored.kid = kid
  createdAt : ∀ kid stored, r.keys.lookup kid = some stored → Cbor.IsI64 stored.createdAt
  updatedAt : ∀ contextId ctx, r.contexts.lookup contextId = some ctx → Cbor.IsI64 ctx.updatedAt

/-- What is required of every record and of every time, one by one. -/
theorem storable_iff_filed {r : Keyring StoredKey} :
    Storable r ↔
      Keyring.Filed StoredKey.kid (fun stored => Cbor.IsI64 stored.createdAt) Cbor.IsI64 r :=
  ⟨fun h => ⟨h.keyed, h.createdAt, h.updatedAt⟩, fun h => ⟨h.keyed, h.record, h.updatedAt⟩⟩

/-- What an operation generates is stamped with its time. -/
theorem createdAt_generated {crypto : SoftkeyCrypto} {op : LifecycleOp Draw} {stored : StoredKey}
    (hop : Stamped op) (h : generated crypto op = .ok stored) : Cbor.IsI64 stored.createdAt := by
  have hdraw {algorithm : Algorithm} {d : Draw} (hd : Cbor.IsI64 d.now)
      (h : (draw crypto algorithm d).map Prod.fst = .ok stored) :
      Cbor.IsI64 stored.createdAt := by
    unfold draw at h
    split at h
    · cases h
    · split at h
      · cases h
      · cases h
        exact hd
  cases op with
  | generateKey algorithm d => exact hdraw hop h
  | registerLifecycle request d now => exact hdraw hop.1 h
  | rotateLifecycle request d now => exact hdraw hop.1 h
  | deleteKey kid => cases h
  | activateLifecycle request now => cases h
  | destroyLifecycle request now => cases h

theorem stamp_isI64 {op : LifecycleOp Draw} (hop : Stamped op) (now : Int)
    (h : Keyring.stamp op = some now) : Cbor.IsI64 now := by
  cases op with
  | registerLifecycle request d now' | rotateLifecycle request d now' =>
    cases h
    exact hop.2
  | activateLifecycle request now' | destroyLifecycle request now' =>
    cases h
    exact hop
  | generateKey algorithm d => cases h
  | deleteKey kid => cases h

/-! A document that loads is storable again. -/

theorem createdAt_of_deserialize (c : Content) (stored : StoredKey)
    (h : StoredKey.deserialize c = some stored) : Cbor.IsI64 stored.createdAt := by
  unfold StoredKey.deserialize at h
  split at h
  · obtain ⟨kid, -, h₁⟩ := Option.bind_eq_some_iff.mp h
    obtain ⟨algorithm, -, h₂⟩ := Option.bind_eq_some_iff.mp h₁
    obtain ⟨d, -, h₃⟩ := Option.bind_eq_some_iff.mp h₂
    obtain ⟨createdAt, hcreatedAt, heq⟩ := Option.bind_eq_some_iff.mp h₃
    obtain ⟨v, -, hv⟩ := (required_eq_some_iff _ _ _ _).mp hcreatedAt
    cases heq
    exact of_asI64_eq_some hv
  · obtain ⟨kid, -, h₁⟩ := Option.bind_eq_some_iff.mp h
    obtain ⟨algorithm, -, h₂⟩ := Option.bind_eq_some_iff.mp h₁
    obtain ⟨d, -, h₃⟩ := Option.bind_eq_some_iff.mp h₂
    obtain ⟨createdAt, hcreatedAt, heq⟩ := Option.bind_eq_some_iff.mp h₃
    cases heq
    exact of_asI64_eq_some hcreatedAt
  · cases h

theorem updatedAt_of_deserialize (c : Content) (ctx : LifecycleContext)
    (h : LifecycleContext.deserialize c = some ctx) : Cbor.IsI64 ctx.updatedAt := by
  unfold LifecycleContext.deserialize at h
  split at h
  · obtain ⟨factorKind, -, h₁⟩ := Option.bind_eq_some_iff.mp h
    obtain ⟨state, -, h₂⟩ := Option.bind_eq_some_iff.mp h₁
    obtain ⟨updatedAt, hupdatedAt, h₃⟩ := Option.bind_eq_some_iff.mp h₂
    obtain ⟨keyIds, -, heq⟩ := Option.bind_eq_some_iff.mp h₃
    obtain ⟨v, -, hv⟩ := (required_eq_some_iff _ _ _ _).mp hupdatedAt
    cases heq
    exact of_asI64_eq_some hv
  · obtain ⟨factorKind, -, h₁⟩ := Option.bind_eq_some_iff.mp h
    obtain ⟨state, -, h₂⟩ := Option.bind_eq_some_iff.mp h₁
    obtain ⟨updatedAt, hupdatedAt, h₃⟩ := Option.bind_eq_some_iff.mp h₂
    obtain ⟨keyIds, -, heq⟩ := Option.bind_eq_some_iff.mp h₃
    cases heq
    exact of_asI64_eq_some hupdatedAt
  · cases h

theorem updatedAt_of_deserializeLifecycle {c : Content} {lifecycle : LifecycleMap}
    (h : deserializeLifecycle c = some lifecycle) (contextId : String) (ctx : LifecycleContext)
    (hctx : lifecycle.lookup contextId = some ctx) : Cbor.IsI64 ctx.updatedAt := by
  obtain ⟨entries, hentries, rfl⟩ := Option.map_eq_some_iff.mp h
  rw [HashMap.lookup_collect] at hctx
  obtain ⟨e, he, rfl⟩ := List.mem_map.mp (List.mem_of_getLast? hctx)
  exact forall_of_asMap updatedAt_of_deserialize hentries e (List.mem_filter.mp he).1

theorem Storable.ofListLast {keys : List StoredKey} {lifecycle : LifecycleMap}
    (hkeys : ∀ stored ∈ keys, Cbor.IsI64 stored.createdAt)
    (hlifecycle : ∀ contextId ctx, lifecycle.lookup contextId = some ctx →
      Cbor.IsI64 ctx.updatedAt) :
    Storable ⟨HashMap.ofListLast StoredKey.kid keys, lifecycle⟩ := by
  have hfound (kid : String) (stored : StoredKey)
      (h : (HashMap.ofListLast StoredKey.kid keys).lookup kid = some stored) :
      stored ∈ keys ∧ stored.kid = kid := by
    rw [HashMap.lookup_ofListLast] at h
    exact ⟨List.mem_reverse.mp (List.mem_of_find?_eq_some h), by simpa using List.find?_some h⟩
  exact ⟨fun kid stored h => (hfound kid stored h).2,
    fun kid stored h => hkeys stored (hfound kid stored h).1, hlifecycle⟩

theorem Describes.storable {c : Content} {keys : List StoredKey} {lifecycle : LifecycleMap}
    (h : Describes c keys lifecycle) :
    Storable ⟨HashMap.ofListLast StoredKey.kid keys, lifecycle⟩ := by
  have hnone (contextId : String) (ctx : LifecycleContext)
      (h : Finmap.lookup contextId (∅ : LifecycleMap) = some ctx) : Cbor.IsI64 ctx.updatedAt := by
    rw [Finmap.lookup_empty] at h
    cases h
  cases h with
  | object hkeys hlifecycle =>
    obtain ⟨v, -, hv⟩ := (required_eq_some_iff _ _ _ _).mp hkeys
    refine .ofListLast (forall_of_asSeq createdAt_of_deserialize hv) ?_
    rcases (defaulted_eq_some_iff _ _ _ _ _).mp hlifecycle with ⟨-, rfl⟩ | ⟨w, -, hw⟩
    · exact hnone
    · exact updatedAt_of_deserializeLifecycle hw
  | keysOnly hkeys => exact .ofListLast (forall_of_asSeq createdAt_of_deserialize hkeys) hnone
  | positional hkeys hlifecycle =>
    exact .ofListLast (forall_of_asSeq createdAt_of_deserialize hkeys)
      (updatedAt_of_deserializeLifecycle hlifecycle)
  | legacy hkeys => exact .ofListLast (forall_of_asSeq createdAt_of_deserialize hkeys) hnone

theorem Storable.apply {p : SoftkeyPlugin} (h : Storable p.toKeyring) (crypto : SoftkeyCrypto)
    {op : LifecycleOp Draw} (hop : Stamped op) : Storable (p.apply crypto op).2.toKeyring := by
  have hmoves := p.toKeyring.step_moves rules StoredKey.kid (generated crypto op) op
  rw [← softkey_apply_eq] at hmoves
  have hfiled := storable_iff_filed.mp h
  exact storable_iff_filed.mpr
    (hfiled.of_moves (fun _ => createdAt_generated hop) (stamp_isI64 hop) hmoves)

theorem importKey_snd (crypto : SoftkeyCrypto) (algorithm : Algorithm) (d : Draw)
    (p : SoftkeyPlugin) :
    (p.importKey crypto algorithm d).2 = (p.apply crypto (.generateKey algorithm d)).2 := by
  show _ = (p.generateKey crypto algorithm d).2
  unfold importKey
  split <;> simp [*]

/-- Every plugin that can come up can be written. -/
theorem Reachable.storable {p : SoftkeyPlugin} (h : Reachable json p) : Storable p.toKeyring := by
  induction h with
  | new => exact ⟨nofun, nofun, nofun⟩
  | loaded hload =>
    obtain ⟨c, keys, -, hdescribes, hkeys⟩ := (fromContainer_eq_ok_iff json _ _ _).mp hload
    rw [toKeyring, hkeys]
    exact hdescribes.storable
  | called crypto _ hop ih => exact ih.apply crypto hop
  | imported crypto algorithm _ hd ih =>
    rw [importKey_snd]
    exact ih.apply crypto hd

/-! ## Containers fit the text layer -/

theorem writable_serializeKeys (depth : Nat) {keys : List StoredKey}
    (h : ∀ stored ∈ keys, Cbor.IsI64 stored.createdAt) :
    (serializeKeys keys).Writable (depth + 2) := by
  intro c hc
  obtain ⟨stored, hstored, rfl⟩ := List.mem_map.mp hc
  obtain ⟨hlow, hhigh⟩ := h stored hstored
  have hnumber : -(2 ^ 63) ≤ stored.createdAt ∧ stored.createdAt < 2 ^ 64 := ⟨hlow, by omega⟩
  simpa [StoredKey.serialize, Writable] using hnumber

theorem writable_serializeLifecycle (depth : Nat)
    (order : HashMap.IterOrder String LifecycleContext) {lifecycle : LifecycleMap}
    (h : ∀ contextId ctx, lifecycle.lookup contextId = some ctx → Cbor.IsI64 ctx.updatedAt) :
    (serializeLifecycle order lifecycle).Writable (depth + 3) := by
  intro m hm
  obtain ⟨e, he, rfl⟩ := List.mem_map.mp hm
  obtain ⟨hlow, hhigh⟩ := h e.1 e.2 ((order.mem_entries _ _ _).mp he)
  have hnumber : -(2 ^ 63) ≤ e.2.updatedAt ∧ e.2.updatedAt < 2 ^ 64 := ⟨hlow, by omega⟩
  simpa [LifecycleContext.serialize, KeyId.serialize, Writable] using hnumber

/-! ## The two shapes -/

/-- The plugin holds these records, each under its kid, and no others. -/
def HoldsExactly (keys : List StoredKey) (p : SoftkeyPlugin) : Prop :=
  ∀ kid stored, p.keys.lookup kid = some stored ↔ stored ∈ keys ∧ stored.kid = kid

theorem holdsExactly_ofListLast {keys : List StoredKey} (h : (keys.map StoredKey.kid).Nodup)
    (lifecycle : LifecycleMap) :
    HoldsExactly keys ⟨HashMap.ofListLast StoredKey.kid keys, lifecycle⟩ := by
  intro kid stored
  rw [HashMap.lookup_ofListLast]
  constructor
  · intro hfind
    exact ⟨List.mem_reverse.mp (List.mem_of_find?_eq_some hfind),
      by simpa using List.find?_some hfind⟩
  · rintro ⟨hmem, rfl⟩
    have hsome : (keys.reverse.find? fun v => v.kid = stored.kid).isSome :=
      List.find?_isSome.mpr ⟨stored, List.mem_reverse.mpr hmem, decide_eq_true rfl⟩
    obtain ⟨other, hother⟩ := Option.isSome_iff_exists.mp hsome
    have hkid : other.kid = stored.kid := by simpa using List.find?_some hother
    have hother' := List.mem_reverse.mp (List.mem_of_find?_eq_some hother)
    rw [hother, List.inj_on_of_nodup_map h hother' hmem hkid]

/-- The plugin holds whatever the members of an object say: a record for each item under
`keys`, a context for each entry under `lifecycle` if there is one. -/
structure HoldsMembers (members : List (String × Content)) (p : SoftkeyPlugin) : Prop where
  keys : ∃ items keys, values "keys" members = [.seq items] ∧
    List.Forall₂ (fun item stored => StoredKey.deserialize item = some stored) items keys ∧
    p.keys = HashMap.ofListLast StoredKey.kid keys
  lifecycle : (values "lifecycle" members = [] ∧ p.lifecycle = ∅) ∨
    ∃ entries contexts, values "lifecycle" members = [.map entries] ∧
      List.Forall₂ (fun e ctx => e.1 = ctx.1 ∧ LifecycleContext.deserialize e.2 = some ctx.2)
        entries contexts ∧
      p.lifecycle = HashMap.collect contexts

/-- The members of an object are those of no container: `keys` is missing, twice there or no
list of records, or `lifecycle` is twice there or no map of contexts. -/
def Malformed (members : List (String × Content)) : Prop :=
  required "keys" deserializeKeys members = none ∨
    defaulted "lifecycle" ∅ deserializeLifecycle members = none

/-- An object loads as what its members say. -/
theorem describes_map_iff (members : List (String × Content)) (p : SoftkeyPlugin) :
    (∃ keys, Describes (.map members) keys p.lifecycle ∧
        p.keys = HashMap.ofListLast StoredKey.kid keys) ↔ HoldsMembers members p := by
  rcases p with ⟨pluginKeys, pluginLifecycle⟩
  constructor
  · rintro ⟨keys, hdescribes, hp⟩
    dsimp only at hdescribes
    cases hdescribes with
    | object hkeys hlifecycle =>
      obtain ⟨v, hv, hread⟩ := (required_eq_some_iff _ _ _ _).mp hkeys
      obtain ⟨items, rfl, hitems⟩ := (asSeq_eq_some_iff _ _ _).mp hread
      refine ⟨⟨items, keys, hv, hitems, hp⟩, ?_⟩
      rcases (defaulted_eq_some_iff _ _ _ _ _).mp hlifecycle with hnone | ⟨w, hw, hread⟩
      · exact .inl hnone
      · obtain ⟨contexts, hcontexts, heq⟩ := Option.map_eq_some_iff.mp hread
        obtain ⟨entries, rfl, hentries⟩ := (asMap_eq_some_iff _ _ _).mp hcontexts
        exact .inr ⟨entries, contexts, hw, hentries, heq.symm⟩
    | legacy hkeys => cases hkeys
  · rintro ⟨⟨items, keys, hv, hitems, hp⟩, hlifecycle⟩
    have hkeys : required "keys" deserializeKeys members = some keys :=
      (required_eq_some_iff _ _ _ _).mpr
        ⟨_, hv, (asSeq_eq_some_iff _ _ _).mpr ⟨items, rfl, hitems⟩⟩
    refine ⟨keys, .object hkeys ((defaulted_eq_some_iff _ _ _ _ _).mpr ?_), hp⟩
    rcases hlifecycle with hnone | ⟨entries, contexts, hw, hentries, heq⟩
    · exact .inl hnone
    · refine .inr ⟨_, hw, ?_⟩
      rw [deserializeLifecycle, (asMap_eq_some_iff _ _ _).mpr ⟨entries, rfl, hentries⟩, heq]
      rfl

section Loads

variable {json : JsonText} (contextOrder : HashMap.IterOrder String LifecycleContext)

theorem fromContainer_toVec (hjson : json.Lawful) {c : Content}
    (hc : c.Writable JsonText.maxDepth) {keys : List StoredKey} {lifecycle : LifecycleMap}
    (hdescribes : Describes c keys lifecycle) :
    fromContainer (containerCodec json contextOrder) (json.toVec c) =
      .ok ⟨HashMap.ofListLast StoredKey.kid keys, lifecycle⟩ :=
  (fromContainer_eq_ok_iff json contextOrder _ _).mpr ⟨c, keys, hjson c hc, hdescribes, rfl⟩

/-- An object without `lifecycle`. -/
theorem fromContainer_keysOnly (hjson : json.Lawful) {keys : List StoredKey}
    (htimes : ∀ stored ∈ keys, Cbor.IsI64 stored.createdAt) :
    fromContainer (containerCodec json contextOrder)
        (json.toVec (.map [("keys", serializeKeys keys)])) =
      .ok ⟨HashMap.ofListLast StoredKey.kid keys, ∅⟩ := by
  have hkeys : required "keys" deserializeKeys [("keys", serializeKeys keys)] = some keys :=
    deserializeKeys_serializeKeys htimes
  refine fromContainer_toVec contextOrder hjson ?_ (.object hkeys rfl)
  intro m hm
  obtain rfl := List.mem_singleton.mp hm
  exact writable_serializeKeys 124 htimes

theorem fromContainer_exportContainer (hjson : json.Lawful)
    (keyOrder : HashMap.IterOrder String StoredKey) {p : SoftkeyPlugin} (hp : Reachable json p) :
    ∃ bytes, p.exportContainer (containerCodec json contextOrder) keyOrder = .ok bytes ∧
      fromContainer (containerCodec json contextOrder) bytes = .ok p := by
  obtain ⟨hkeyed, hcreated, hupdated⟩ := hp.storable
  have htimes (stored : StoredKey) (hmem : stored ∈ keyOrder.values p.keys) :
      Cbor.IsI64 stored.createdAt := by
    obtain ⟨kid, hkid⟩ := (keyOrder.mem_values p.keys stored).mp hmem
    exact hcreated kid stored hkid
  have hdescribes := exported_deserialize_describes
    (ExportedContainer.deserialize_serialize contextOrder
      ⟨keyOrder.values p.keys, p.lifecycle⟩ htimes hupdated)
  refine ⟨_, rfl, (fromContainer_toVec contextOrder hjson ?_ hdescribes).trans ?_⟩
  · intro m hm
    rcases List.mem_cons.mp hm with rfl | hm
    · exact writable_serializeKeys 124 htimes
    · obtain rfl := List.mem_singleton.mp hm
      exact writable_serializeLifecycle 123 contextOrder hupdated
  · rw [HashMap.ofListLast_of_mem_iff (keyOrder.mem_values p.keys) hkeyed]

theorem fromContainer_of_malformed {bytes : List UInt8} {members : List (String × Content)}
    (hbytes : json.fromSlice bytes = some (.map members)) (hmalformed : Malformed members) :
    ∃ e, fromContainer (containerCodec json contextOrder) bytes = .error (.serialization e) := by
  refine (fromContainer_cases json contextOrder bytes).resolve_left ?_
  rintro ⟨p, hp⟩
  obtain ⟨c, keys, hc, hdescribes, -⟩ := (fromContainer_eq_ok_iff json _ _ _).mp hp
  rw [hbytes] at hc
  cases hc
  -- whatever loads has both members in order, or is a bare array
  generalize p.lifecycle = lifecycle at hdescribes
  cases hdescribes with
  | object hkeys hlifecycle =>
    rcases hmalformed with h | h
    · rw [hkeys] at h
      cases h
    · rw [hlifecycle] at h
      cases h
  | legacy hkeys => cases hkeys

end Loads

/-- Every export of every plugin that can come up restores it. An older container, a bare
array of records, loads as its records and no contexts, and so does an object without
`lifecycle`. An object loads only as all that its members say, and one whose members are
malformed does not load. -/
theorem container_is_faithful (json : JsonText) (hjson : json.Lawful)
    (keyOrder : HashMap.IterOrder String StoredKey)
    (contextOrder : HashMap.IterOrder String LifecycleContext) :
    (∀ p, Reachable json p →
      ∃ bytes, p.exportContainer (containerCodec json contextOrder) keyOrder = .ok bytes ∧
        fromContainer (containerCodec json contextOrder) bytes = .ok p) ∧
    (∀ keys : List StoredKey, (keys.map StoredKey.kid).Nodup →
      (∀ stored ∈ keys, Cbor.IsI64 stored.createdAt) →
      ∃ bytes p, (containerCodec json contextOrder).legacy.toVec keys = .ok bytes ∧
        fromContainer (containerCodec json contextOrder) bytes = .ok p ∧
        HoldsExactly keys p ∧ p.lifecycle = ∅) ∧
    (∀ keys : List StoredKey, (keys.map StoredKey.kid).Nodup →
      (∀ stored ∈ keys, Cbor.IsI64 stored.createdAt) →
      ∃ p, fromContainer (containerCodec json contextOrder)
          (json.toVec (.map [("keys", serializeKeys keys)])) = .ok p ∧
        HoldsExactly keys p ∧ p.lifecycle = ∅) ∧
    (∀ bytes members, json.fromSlice bytes = some (.map members) →
      (∀ p, fromContainer (containerCodec json contextOrder) bytes = .ok p ↔
        HoldsMembers members p) ∧
      (Malformed members →
        ∃ e, fromContainer (containerCodec json contextOrder) bytes =
          .error (.serialization e))) := by
  refine ⟨fun p hp => fromContainer_exportContainer contextOrder hjson keyOrder hp,
    fun keys hnodup htimes => ?_, fun keys hnodup htimes => ?_, fun bytes members hbytes =>
      ⟨fun p => ?_, fromContainer_of_malformed contextOrder hbytes⟩⟩
  · refine ⟨_, _, rfl, ?_, holdsExactly_ofListLast hnodup _, rfl⟩
    exact fromContainer_toVec contextOrder hjson (writable_serializeKeys 125 htimes)
      (.legacy (deserializeKeys_serializeKeys htimes))
  · exact ⟨_, fromContainer_keysOnly contextOrder hjson htimes, holdsExactly_ofListLast hnodup _,
      rfl⟩
  · rw [fromContainer_eq_ok_iff, ← describes_map_iff]
    simp [hbytes]

/-- The plugin with one key, generated for a context. -/
def registered : SoftkeyPlugin :=
  (SoftkeyPlugin.new.apply SoftkeyHost.secretOneHost.crypto
    (.registerLifecycle ⟨id, "ctx", .rawSign⟩ drawOne 0)).2

theorem reachable_registered : Reachable jsonWire registered :=
  .called _ .new ⟨by decide, by decide⟩

theorem container_is_faithful_registered :
    registered.keys.lookup SoftkeyHost.kidOne.asStr = some recordOne ∧
    (∃ bytes, registered.exportContainer (containerCodec jsonWire .sorted) .sorted = .ok bytes ∧
      fromContainer (containerCodec jsonWire .sorted) bytes = .ok registered) ∧
    ∃ bytes p, (containerCodec jsonWire .sorted).legacy.toVec [recordOne] = .ok bytes ∧
      fromContainer (containerCodec jsonWire .sorted) bytes = .ok p ∧
      HoldsExactly [recordOne] p ∧ p.lifecycle = ∅ :=
  ⟨by decide +kernel, (container_is_faithful jsonWire jsonWire_lawful .sorted .sorted).1 registered
    reachable_registered,
    (container_is_faithful jsonWire jsonWire_lawful .sorted .sorted).2.1 [recordOne]
      (by decide) (by decide)⟩

example : (fromContainer (containerCodec jsonWire .sorted)
    (utf8 ("[\x7b\"kid\":\"sw-0\",\"algorithm\":\"ES256\",\"d\":\"AAAA\"," ++
      "\"created_at\":1700000000\x7d]"))).map (fun p => p.keys.lookup "sw-0") =
    .ok (some ⟨"sw-0", "ES256", "AAAA", 1700000000⟩) := by rfl

example : fromContainer (containerCodec jsonWire .sorted)
    (utf8 "\x7b\"keys\":[],\"lifecycle\":null\x7d") =
      .error (.serialization "invalid type") := by rfl

end SoftkeyPlugin

end Wscd
