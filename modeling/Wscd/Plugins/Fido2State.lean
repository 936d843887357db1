import Wscd.Plugins.SoftkeyContainer

/-!
# The fido2 plugin's exported state

The blob of `export_state` down to its JSON: the list of records in wire order, and the
contexts as the hash map lists them. Two fields of a record came later and may be missing
from a blob.

Results:
1. `deserialize_serialize` of a record and of a state.
2. `Reachable.filed`: every record of a plugin is under its own kid, and its numbers can be
   written.
-/

namespace Wscd

open Lib Content

/-! ## Readers -/

def readBool : Content → Option Bool
  | .bool b => some b
  | _ => none

def readU8 : Content → Option UInt8
  | .int n => if 0 ≤ n ∧ n < 256 then some (UInt8.ofNat n.toNat) else none
  | _ => none

/-- `Vec<u8>`: a list of numbers. -/
def readBytes : Content → Option (List UInt8) := asSeq readU8

def writeBytes (bytes : List UInt8) : Content := .seq (bytes.map fun b => .int b.toNat)

theorem readU8_toNat (b : UInt8) : readU8 (.int b.toNat) = some b := by
  have hbound : b.toNat < 256 := b.toNat_lt
  rw [readU8, if_pos ⟨Int.natCast_nonneg _, Int.ofNat_lt.mpr hbound⟩, Int.toNat_natCast,
    UInt8.ofNat_toNat]

theorem readBytes_writeBytes (bytes : List UInt8) : readBytes (writeBytes bytes) = some bytes :=
  asSeq_map fun b _ => readU8_toNat b

namespace Fido2.StoredFidoKey

/-- `Option<(Vec<u8>, Vec<u8>)>` -/
def readKhAndCtx : Content → Option (Option (List UInt8 × List UInt8))
  | .null => some none
  | .seq [kh, ctx] => do
    let kh ← readBytes kh
    let ctx ← readBytes ctx
    return some (kh, ctx)
  | _ => none

def writeKhAndCtx : Option (List UInt8 × List UInt8) → Content
  | none => .null
  | some (kh, ctx) => .seq [writeBytes kh, writeBytes ctx]

theorem readKhAndCtx_writeKhAndCtx (arkg : Option (List UInt8 × List UInt8)) :
    readKhAndCtx (writeKhAndCtx arkg) = some arkg := by
  rcases arkg with _ | ⟨kh, ctx⟩
  · rfl
  · simp [writeKhAndCtx, readKhAndCtx, readBytes_writeBytes]

def serialize (key : StoredFidoKey) : Content :=
  .map [("kid", .str key.kid), ("credential_id", writeBytes key.credentialId),
    ("key_handle", writeBytes key.keyHandle), ("pub_x", writeBytes key.pubX),
    ("pub_y", writeBytes key.pubY), ("algorithm", .int key.algorithm),
    ("attestation_object", writeBytes key.attestationObject),
    ("has_dedicated_hardware_chain", .bool key.hasDedicatedHardwareChain),
    ("client_data_hash", writeBytes key.clientDataHash),
    ("arkg_kh_and_ctx", writeKhAndCtx key.arkgKhAndCtx), ("created_at", .int key.createdAt)]

/-- A record from what was read for its fields, in their order. -/
def ofFields (kid : Option String) (credentialId keyHandle pubX pubY : Option (List UInt8))
    (algorithm : Option Int) (attestationObject : Option (List UInt8))
    (hasDedicatedHardwareChain : Option Bool) (clientDataHash : Option (List UInt8))
    (arkgKhAndCtx : Option (Option (List UInt8 × List UInt8))) (createdAt : Option Int) :
    Option StoredFidoKey := do
  return ⟨← kid, ← credentialId, ← keyHandle, ← pubX, ← pubY, ← algorithm, ← attestationObject,
    ← hasDedicatedHardwareChain, ← clientDataHash, ← arkgKhAndCtx, ← createdAt⟩

def deserialize : Content → Option StoredFidoKey
  | .map members =>
    ofFields (required "kid" asStr members) (required "credential_id" readBytes members)
      (required "key_handle" readBytes members) (required "pub_x" readBytes members)
      (required "pub_y" readBytes members) (required "algorithm" asI64 members)
      (required "attestation_object" readBytes members)
      (defaulted "has_dedicated_hardware_chain" false readBool members)
      (required "client_data_hash" readBytes members)
      (defaulted "arkg_kh_and_ctx" none readKhAndCtx members)
      (required "created_at" asI64 members)
  | .seq [kid, credentialId, keyHandle, pubX, pubY, algorithm, attestationObject,
      hasDedicatedHardwareChain, clientDataHash, arkgKhAndCtx, createdAt] =>
    ofFields (asStr kid) (readBytes credentialId) (readBytes keyHandle) (readBytes pubX)
      (readBytes pubY) (asI64 algorithm) (readBytes attestationObject)
      (readBool hasDedicatedHardwareChain) (readBytes clientDataHash) (readKhAndCtx arkgKhAndCtx)
      (asI64 createdAt)
  | _ => none

/-- The numbers of a record are `i64`. -/
def Numbered (key : StoredFidoKey) : Prop := Cbor.IsI64 key.algorithm ∧ Cbor.IsI64 key.createdAt

theorem deserialize_serialize {key : StoredFidoKey} (h : key.Numbered) :
    deserialize key.serialize = some key := by
  have halgorithm : asI64 (.int key.algorithm) = some key.algorithm := asI64_int h.1
  have hcreatedAt : asI64 (.int key.createdAt) = some key.createdAt := asI64_int h.2
  simp [serialize, deserialize, required, defaulted, values, asStr, readBool, ofFields,
    halgorithm, hcreatedAt, readBytes_writeBytes, readKhAndCtx_writeKhAndCtx]

theorem numbered_of_ofFields {kid : Option String}
    {credentialId keyHandle pubX pubY attestationObject clientDataHash : Option (List UInt8)}
    {algorithm createdAt : Option Int} {chain : Option Bool}
    {arkg : Option (Option (List UInt8 × List UInt8))} {key : StoredFidoKey}
    (halgorithm : ∀ n, algorithm = some n → Cbor.IsI64 n)
    (hcreatedAt : ∀ n, createdAt = some n → Cbor.IsI64 n)
    (h : ofFields kid credentialId keyHandle pubX pubY algorithm attestationObject chain
      clientDataHash arkg createdAt = some key) : key.Numbered := by
  simp only [ofFields, Option.bind_eq_bind, Option.bind_eq_some_iff] at h
  obtain ⟨_, -, _, -, _, -, _, -, _, -, a, ha, _, -, _, -, _, -, _, -, t, ht, heq⟩ := h
  cases heq
  exact ⟨halgorithm a ha, hcreatedAt t ht⟩

theorem numbered_of_deserialize (c : Content) (key : StoredFidoKey)
    (h : deserialize c = some key) : key.Numbered := by
  unfold deserialize at h
  split at h
  · refine numbered_of_ofFields (fun n hn => ?_) (fun n hn => ?_) h
    · obtain ⟨v, -, hv⟩ := (required_eq_some_iff _ _ _ _).mp hn
      exact of_asI64_eq_some hv
    · obtain ⟨v, -, hv⟩ := (required_eq_some_iff _ _ _ _).mp hn
      exact of_asI64_eq_some hv
  · exact numbered_of_ofFields (fun _ => of_asI64_eq_some) (fun _ => of_asI64_eq_some) h
  · cases h

end Fido2.StoredFidoKey

namespace Fido2SignPlugin

open Fido2

/-! ## The blob -/

def serializeKeys (keys : List StoredFidoKey) : Content :=
  .seq (keys.map StoredFidoKey.serialize)

def deserializeKeys : Content → Option (List StoredFidoKey) := asSeq StoredFidoKey.deserialize

/-- The contexts are written straight from the map, in the order it lists them. -/
def serializeState (order : HashMap.IterOrder String LifecycleContext)
    (exported : ExportedPluginState) : Content :=
  .map [("keys", serializeKeys exported.keys),
    ("lifecycle", SoftkeyPlugin.serializeLifecycle order exported.lifecycle)]

def deserializeState : Content → Option ExportedPluginState
  | .map members => do
    let keys ← required "keys" deserializeKeys members
    let lifecycle ← defaulted "lifecycle" ∅ SoftkeyPlugin.deserializeLifecycle members
    return ⟨keys, lifecycle⟩
  | .seq [keys] => do
    let keys ← deserializeKeys keys
    return ⟨keys, ∅⟩
  | .seq [keys, lifecycle] => do
    let keys ← deserializeKeys keys
    let lifecycle ← SoftkeyPlugin.deserializeLifecycle lifecycle
    return ⟨keys, lifecycle⟩
  | _ => none

/-- `serde_json` for the exported state. -/
def stateCodec (json : JsonText) (order : HashMap.IterOrder String LifecycleContext) :
    Codec ExportedPluginState where
  toVec exported := .ok (json.toVec (serializeState order exported))
  fromSlice bytes :=
    match (json.fromSlice bytes).bind deserializeState with
    | some exported => .ok exported
    | none => .error (json.complaint bytes)

/-- The numbers of a state are `i64`. -/
structure Numbered (exported : ExportedPluginState) : Prop where
  keys : ∀ key ∈ exported.keys, key.Numbered
  lifecycle : ∀ contextId ctx, exported.lifecycle.lookup contextId = some ctx →
    Cbor.IsI64 ctx.updatedAt

theorem deserializeState_serializeState (order : HashMap.IterOrder String LifecycleContext)
    {exported : ExportedPluginState} (h : Numbered exported) :
    deserializeState (serializeState order exported) = some exported := by
  have hkeys : deserializeKeys (serializeKeys exported.keys) = some exported.keys :=
    asSeq_map fun key hkey => StoredFidoKey.deserialize_serialize (h.keys key hkey)
  simp [serializeState, deserializeState, required, defaulted, values, hkeys,
    SoftkeyPlugin.deserializeLifecycle_serializeLifecycle order h.lifecycle]

theorem numbered_of_deserializeState {c : Content} {exported : ExportedPluginState}
    (h : deserializeState c = some exported) : Numbered exported := by
  have hnone (contextId : String) (ctx : LifecycleContext)
      (h : Finmap.lookup contextId (∅ : LifecycleMap) = some ctx) : Cbor.IsI64 ctx.updatedAt := by
    rw [Finmap.lookup_empty] at h
    cases h
  unfold deserializeState at h
  split at h
  · obtain ⟨keys, hkeys, hrest⟩ := Option.bind_eq_some_iff.mp h
    obtain ⟨lifecycle, hlifecycle, heq⟩ := Option.bind_eq_some_iff.mp hrest
    cases heq
    obtain ⟨v, -, hv⟩ := (required_eq_some_iff _ _ _ _).mp hkeys
    refine ⟨forall_of_asSeq StoredFidoKey.numbered_of_deserialize hv, ?_⟩
    rcases (defaulted_eq_some_iff _ _ _ _ _).mp hlifecycle with ⟨-, rfl⟩ | ⟨w, -, hw⟩
    · exact hnone
    · exact SoftkeyPlugin.updatedAt_of_deserializeLifecycle hw
  · obtain ⟨keys, hkeys, heq⟩ := Option.bind_eq_some_iff.mp h
    cases heq
    exact ⟨forall_of_asSeq StoredFidoKey.numbered_of_deserialize hkeys, hnone⟩
  · obtain ⟨keys, hkeys, hrest⟩ := Option.bind_eq_some_iff.mp h
    obtain ⟨lifecycle, hlifecycle, heq⟩ := Option.bind_eq_some_iff.mp hrest
    cases heq
    exact ⟨forall_of_asSeq StoredFidoKey.numbered_of_deserialize hkeys,
      SoftkeyPlugin.updatedAt_of_deserializeLifecycle hlifecycle⟩
  · cases h

/-! ## Plugins that can come up -/

/-- The numbers an operation brings are `i64`, as their types say. -/
def DrawNumbered (d : Fido2.Draw) : Prop :=
  (∀ result, d.ceremony = .ok result → Cbor.IsI64 result.generatedKey.algorithm) ∧
    Cbor.IsI64 d.now

def Stamped : LifecycleOp Fido2.Draw → Prop
  | .generateKey _ d => DrawNumbered d
  | .deleteKey _ => True
  | .registerLifecycle _ d now | .rotateLifecycle _ d now => DrawNumbered d ∧ Cbor.IsI64 now
  | .activateLifecycle _ now | .destroyLifecycle _ now => Cbor.IsI64 now

/-- A plugin after some run of its operations, from a new one or from any blob. -/
inductive Reachable (json : JsonText) : Fido2SignPlugin → Prop
  | new : Reachable json .new
  | loaded {order : HashMap.IterOrder String LifecycleContext} {bytes : List UInt8}
      {p : Fido2SignPlugin} : fromState (stateCodec json order) bytes = .ok p → Reachable json p
  | called (crypto : Fido2Crypto) {op : LifecycleOp Fido2.Draw} {p : Fido2SignPlugin} :
      Reachable json p → Stamped op → Reachable json (p.apply crypto op).2

/-- Every record is under its own kid, and every number can be written. -/
abbrev Storable (p : Fido2SignPlugin) : Prop :=
  Keyring.Filed StoredFidoKey.kid StoredFidoKey.Numbered Cbor.IsI64 p.toKeyring

theorem numbered_generatedRecord {crypto : Fido2Crypto} {result : PreviewSign.MakeCredentialResult}
    {pubX pubY clientDataHash : List UInt8} {arkg : Option (List UInt8 × List UInt8)} {now : Int}
    {made : StoredFidoKey × Json} (halgorithm : Cbor.IsI64 result.generatedKey.algorithm)
    (hnow : Cbor.IsI64 now)
    (h : generatedRecord crypto result pubX pubY arkg clientDataHash now = .ok made) :
    made.1.Numbered := by
  unfold generatedRecord at h
  dsimp only at h
  split at h
  · cases h
  · cases h
    exact ⟨halgorithm, hnow⟩

theorem numbered_draw {crypto : Fido2Crypto} {algorithm : Algorithm} {d : Fido2.Draw}
    {made : StoredFidoKey × Json} (hd : DrawNumbered d)
    (h : draw crypto algorithm d = .ok made) : made.1.Numbered := by
  unfold draw at h
  cases algorithm with
  | edDSA => cases h
  | bls12381G1Schnorr =>
    dsimp only at h
    split at h
    · cases h
    · rename_i result hresult
      split at h
      · cases h
      · exact numbered_generatedRecord (hd.1 result hresult) hd.2 h
  | es256 =>
    dsimp only at h
    split at h
    · cases h
    · rename_i result hresult
      split at h
      · cases h
      · exact numbered_generatedRecord (hd.1 result hresult) hd.2 h

/-- What an operation generates can be written. -/
theorem numbered_generated {crypto : Fido2Crypto} {op : LifecycleOp Fido2.Draw}
    {key : StoredFidoKey} (hop : Stamped op) (h : generated crypto op = .ok key) :
    key.Numbered := by
  have hdraw {algorithm : Algorithm} {d : Fido2.Draw} (hd : DrawNumbered d)
      (h : (draw crypto algorithm d).map Prod.fst = .ok key) : key.Numbered := by
    cases hmade : draw crypto algorithm d with
    | error e =>
      rw [hmade] at h
      cases h
    | ok made =>
      rw [hmade] at h
      cases h
      exact numbered_draw hd hmade
  cases op with
  | generateKey algorithm d => exact hdraw hop h
  | registerLifecycle request d now =>
    simp only [generated] at h
    split at h
    · cases h
    · exact hdraw hop.1 h
  | rotateLifecycle request d now => exact hdraw hop.1 h
  | deleteKey kid => cases h
  | activateLifecycle request now => cases h
  | destroyLifecycle request now => cases h

theorem stamp_isI64 {op : LifecycleOp Fido2.Draw} (hop : Stamped op) (now : Int)
    (h : Keyring.stamp op = some now) : Cbor.IsI64 now := by
  cases op with
  | registerLifecycle request d now' | rotateLifecycle request d now' =>
    cases h
    exact hop.2
  | activateLifecycle request now' | destroyLifecycle request now' =>
    cases h
    exact hop
  | generateKey algorithm d => cases h
  | deleteKey kid => cases h

/-- What a blob loads as, if it loads. -/
theorem fromState_cases {json : JsonText} {order : HashMap.IterOrder String LifecycleContext}
    {bytes : List UInt8} {p : Fido2SignPlugin}
    (h : fromState (stateCodec json order) bytes = .ok p) :
    ∃ c exported, json.fromSlice bytes = some c ∧ deserializeState c = some exported ∧
      p = ⟨HashMap.ofListFirst StoredFidoKey.kid exported.keys, exported.lifecycle⟩ := by
  unfold fromState stateCodec at h
  dsimp only at h
  cases hread : (json.fromSlice bytes).bind deserializeState with
  | none =>
    rw [hread] at h
    cases h
  | some exported =>
    obtain ⟨c, hc, hexported⟩ := Option.bind_eq_some_iff.mp hread
    rw [hread] at h
    dsimp only at h
    split at h
    · cases h
    · cases h
      exact ⟨c, exported, hc, hexported, rfl⟩

theorem storable_loaded {exported : ExportedPluginState} (h : Numbered exported) :
    Storable ⟨HashMap.ofListFirst StoredFidoKey.kid exported.keys, exported.lifecycle⟩ := by
  have hfound (kid : String) (key : StoredFidoKey)
      (h : (HashMap.ofListFirst StoredFidoKey.kid exported.keys).lookup kid = some key) :
      key ∈ exported.keys ∧ key.kid = kid := by
    rw [HashMap.lookup_ofListFirst] at h
    exact ⟨List.mem_of_find?_eq_some h, by simpa using List.find?_some h⟩
  exact ⟨fun kid key hkey => (hfound kid key hkey).2,
    fun kid key hkey => h.keys key (hfound kid key hkey).1, h.lifecycle⟩

/-- Every plugin that can come up can be written. -/
theorem Reachable.storable {json : JsonText} {p : Fido2SignPlugin} (h : Reachable json p) :
    Storable p := by
  induction h with
  | new => exact Keyring.filed_empty
  | loaded hload =>
    obtain ⟨c, exported, -, hexported, rfl⟩ := fromState_cases hload
    exact storable_loaded (numbered_of_deserializeState hexported)
  | @called crypto op p _ hop ih =>
    have hmoves := p.toKeyring.step_moves rules StoredFidoKey.kid (generated crypto op) op
    rw [← fido2_apply_eq] at hmoves
    exact ih.of_moves (fun _ => numbered_generated hop) (stamp_isI64 hop) hmoves

/-! ## Blobs fit the text layer -/

theorem writable_writeBytes (depth : Nat) (bytes : List UInt8) :
    (writeBytes bytes).Writable (depth + 1) := by
  intro c hc
  obtain ⟨b, -, rfl⟩ := List.mem_map.mp hc
  have hbound : b.toNat < 256 := b.toNat_lt
  have hnumber : -(2 ^ 63) ≤ (b.toNat : Int) ∧ (b.toNat : Int) < 2 ^ 64 := by omega
  simpa [Writable] using hnumber

theorem writable_serialize (depth : Nat) {key : StoredFidoKey} (h : key.Numbered) :
    key.serialize.Writable (depth + 3) := by
  have hnumber {n : Int} (hn : Cbor.IsI64 n) (depth : Nat) : (Content.int n).Writable depth := by
    obtain ⟨hlow, hhigh⟩ := hn
    have hbounds : -(2 ^ 63) ≤ n ∧ n < 2 ^ 64 := ⟨hlow, by omega⟩
    simpa [Writable] using hbounds
  have hkhAndCtx : (StoredFidoKey.writeKhAndCtx key.arkgKhAndCtx).Writable (depth + 2) := by
    rcases key.arkgKhAndCtx with _ | ⟨kh, ctx⟩
    · trivial
    · intro c hc
      simp only [List.mem_cons, List.not_mem_nil, or_false] at hc
      rcases hc with rfl | rfl
      · exact writable_writeBytes depth _
      · exact writable_writeBytes depth _
  intro m hm
  simp only [List.mem_cons, List.not_mem_nil, or_false] at hm
  rcases hm with rfl | rfl | rfl | rfl | rfl | rfl | rfl | rfl | rfl | rfl | rfl
  · trivial
  · exact writable_writeBytes _ _
  · exact writable_writeBytes _ _
  · exact writable_writeBytes _ _
  · exact writable_writeBytes _ _
  · exact hnumber h.1 _
  · exact writable_writeBytes _ _
  · trivial
  · exact writable_writeBytes _ _
  · exact hkhAndCtx
  · exact hnumber h.2 _

theorem writable_serializeState (order : HashMap.IterOrder String LifecycleContext)
    {exported : ExportedPluginState} (h : Numbered exported) :
    (serializeState order exported).Writable JsonText.maxDepth := by
  intro m hm
  rcases List.mem_cons.mp hm with rfl | hm
  · intro c hc
    obtain ⟨key, hkey, rfl⟩ := List.mem_map.mp hc
    exact writable_serialize 122 (h.keys key hkey)
  · obtain rfl := List.mem_singleton.mp hm
    exact SoftkeyPlugin.writable_serializeLifecycle 123 order h.lifecycle

theorem Storable.numbered {p : Fido2SignPlugin} (h : Storable p)
    (keyOrder : HashMap.IterOrder String StoredFidoKey) :
    Numbered ⟨p.sortedKeys keyOrder, p.lifecycle⟩ where
  keys key hkey := by
    obtain ⟨kid, hkid⟩ := (mem_sortedKeys keyOrder p key).mp hkey
    exact h.record kid key hkid
  lifecycle := h.updatedAt

end Fido2SignPlugin

end Wscd
