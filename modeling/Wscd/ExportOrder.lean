import Wscd.KeystoreAliases
import Wscd.Lib.WalkOrder
import Wscd.Plugins.Fido2State

/-!
# The order exports are written in

Two plugins with the same keys and contexts walk their hash maps in orders of their own. The
records are sorted before they are written, by creation and then by kid, which tells any two
records of a plugin apart; the contexts of the fido2 plugin are written as the map lists them.

Results:
1. `sorted_values_eq`: sorting the records forgets the walk.
2. `exportState_eq_iff`: two exports of the fido2 plugin are the same bytes exactly when the
   contexts are walked in the same order.
3. `exports_agree_iff`: exports never depend on the walks exactly when there is at most one
   context, and those of the Android Keystore plugin never do.
-/

namespace Wscd

open Lib

/-! ## Records in wire order -/

section WireOrder

open Fido2

theorem olderOrEqual_iff (a b : Int × String) :
    olderOrEqual a b = true ↔ a.1 < b.1 ∨ a.1 = b.1 ∧ a.2 ≤ b.2 := by
  simp [olderOrEqual]

theorem olderOrEqual_trans (a b c : Int × String) (hab : olderOrEqual a b)
    (hbc : olderOrEqual b c) : olderOrEqual a c := by
  rw [olderOrEqual_iff] at hab hbc ⊢
  rcases hab with hab | ⟨hab, hle⟩
  · rcases hbc with hbc | ⟨hbc, -⟩
    · exact .inl (hab.trans hbc)
    · exact .inl (hbc ▸ hab)
  · rcases hbc with hbc | ⟨hbc, hle'⟩
    · exact .inl (hab ▸ hbc)
    · exact .inr ⟨hab.trans hbc, hle.trans hle'⟩

theorem olderOrEqual_total (a b : Int × String) : olderOrEqual a b || olderOrEqual b a := by
  rw [Bool.or_eq_true, olderOrEqual_iff, olderOrEqual_iff]
  rcases lt_trichotomy a.1 b.1 with h | h | h
  · exact .inl (.inl h)
  · rcases le_total a.2 b.2 with hle | hle
    · exact .inl (.inr ⟨h, hle⟩)
    · exact .inr (.inr ⟨h.symm, hle⟩)
  · exact .inr (.inl h)

theorem olderOrEqual_antisymm {a b : Int × String} (hab : olderOrEqual a b)
    (hba : olderOrEqual b a) : a.2 = b.2 := by
  rw [olderOrEqual_iff] at hab hba
  rcases hab with hab | ⟨hab, hle⟩
  · rcases hba with hba | ⟨hba, -⟩
    · exact absurd hba hab.asymm
    · exact absurd hba.symm hab.ne
  · rcases hba with hba | ⟨-, hle'⟩
    · exact absurd hab.symm hba.ne
    · exact le_antisymm hle hle'

/-- Records under their own kids, sorted by creation and then by kid. -/
theorem sorted_values_eq {V : Type} {kidOf : V → String} (createdAt : V → Int)
    {keys : HashMap String V} (hkeyed : ∀ kid v, keys.lookup kid = some v → kidOf v = kid)
    (order order' : HashMap.IterOrder String V) :
    ((order.values keys).mergeSort fun a b =>
        olderOrEqual (createdAt a, kidOf a) (createdAt b, kidOf b)) =
      (order'.values keys).mergeSort fun a b =>
        olderOrEqual (createdAt a, kidOf a) (createdAt b, kidOf b) := by
  refine order.mergeSort_values_eq order' ?_ ?_ ?_
  · exact fun a b c => olderOrEqual_trans _ _ _
  · exact fun a b => olderOrEqual_total _ _
  intro kid kid' v v' hv hv' hle hle'
  -- equal in the order is equal by kid, and a kid has one record
  have hkid : kidOf v = kidOf v' := olderOrEqual_antisymm hle hle'
  rw [hkeyed kid v hv, hkeyed kid' v' hv'] at hkid
  rw [hkid, hv'] at hv
  exact (Option.some.inj hv).symm

end WireOrder

/-! ## The Android Keystore plugin -/

namespace AndroidKeystorePlugin

open AndroidKeystore

/-- The records in wire order, as the fido2 plugin has them. -/
def sortedKeys (order : HashMap.IterOrder String StoredAndroidKey) (self : AndroidKeystorePlugin) :
    List StoredAndroidKey :=
  (order.values self.keys).mergeSort fun a b =>
    Fido2.olderOrEqual (a.createdAt, a.kid) (b.createdAt, b.kid)

def exportState (codec : Codec ExportedPluginState)
    (order : HashMap.IterOrder String StoredAndroidKey) (self : AndroidKeystorePlugin) :
    Except WscdError (List UInt8) :=
  match codec.toVec ⟨self.sortedKeys order⟩ with
  | .ok bytes => .ok bytes
  | .error e => .error (.serialization e)

/-- Every record is under its own kid. -/
def Keyed (p : AndroidKeystorePlugin) : Prop :=
  ∀ kid key, p.keys.lookup kid = some key → key.kid = kid

/-- A plugin after some run of its operations, from a new one or from any blob; `host` is what
surrounds each call. -/
inductive Reachable : AndroidKeystorePlugin → Prop
  | new : Reachable .new
  | loaded {codec : Codec ExportedPluginState} {bytes : List UInt8} {p : AndroidKeystorePlugin} :
      fromState codec bytes = .ok p → Reachable p
  | called {W : Type} (host : Host W) (op : KeystoreOp) (w : W) {p : AndroidKeystorePlugin} :
      Reachable p → Reachable (op.perform host (w, p)).2.1.2

section Keyed

variable {W α : Type} (host : Host W)

/-- A computation that leaves the records under their kids. -/
abbrev StaysKeyed (x : KeystoreM W α) : Prop := Traced.Maintains (fun s => Keyed s.2) x

theorem staysKeyed_deleteAfterFailedGenerate (keyAlias : String) (e : WscdError) :
    StaysKeyed (deleteAfterFailedGenerate host keyAlias e) := by
  refine Traced.Maintains.bind (fun _ h => h) fun r => ?_
  cases r <;> exact fun _ h => h

theorem staysKeyed_cleanUp (keyAlias : String) (e : WscdError) :
    StaysKeyed (do
      let err ← deleteAfterFailedGenerate host keyAlias e
      Traced.lift (.error err) : KeystoreM W α) :=
  (staysKeyed_deleteAfterFailedGenerate host keyAlias e).bind fun _ => Traced.maintains_lift _

theorem staysKeyed_bestEffortGenerate (challenge : List UInt8) :
    StaysKeyed (bestEffortGenerate host challenge) := by
  refine Traced.Maintains.bind (fun _ h => h) fun keyAlias => ?_
  refine Traced.Maintains.bind (fun _ h => h) fun r => ?_
  split
  · exact Traced.maintains_pure _
  · refine Traced.Maintains.bind (fun _ h => h) fun r' => ?_
    split
    · exact Traced.maintains_lift _
    · refine Traced.Maintains.bind (fun _ h => h) fun teeAlias => ?_
      refine Traced.Maintains.bind (fun _ h => h) fun r'' => ?_
      split
      · exact Traced.maintains_pure _
      · exact staysKeyed_cleanUp host _ _
  · exact staysKeyed_cleanUp host _ _

/-- The new record goes under the kid that is in it. -/
theorem staysKeyed_finishGenerateKey (keyAlias : String) (level : AndroidKeystoreSecurityLevel)
    (challenge : List UInt8) : StaysKeyed (finishGenerateKey host keyAlias level challenge) := by
  refine Traced.Maintains.bind (fun _ h => h) fun certificates => ?_
  refine Traced.Maintains.bind (fun _ h => h) fun jwk => ?_
  refine (Traced.maintains_lift jwk).bind fun publicKeyJwk => ?_
  refine (Traced.maintains_lift _).bind fun kid => ?_
  refine (Traced.maintains_get _).bind fun createdAt => ?_
  refine Traced.Maintains.bind ?_ fun _ => Traced.maintains_pure _
  intro s hs kid' key hkey
  rw [Traced.modify] at hkey
  dsimp only at hkey
  rw [HashMap.lookup_insert_eq_ite] at hkey
  split at hkey
  · cases hkey
    exact Eq.symm ‹_›
  · exact hs kid' key hkey

theorem staysKeyed_generateKeyWithChallenge (algorithm : Algorithm) (challenge : List UInt8) :
    StaysKeyed (generateKeyWithChallenge host algorithm challenge) := by
  unfold generateKeyWithChallenge
  split
  · exact Traced.maintains_lift _
  split
  · exact Traced.maintains_lift _
  refine Traced.Maintains.bind (fun _ h => h) fun _ => ?_
  refine (staysKeyed_bestEffortGenerate host challenge).bind fun made => ?_
  refine Traced.Maintains.bind
    (staysKeyed_finishGenerateKey host made.1 made.2 challenge).attempt fun r => ?_
  cases r with
  | ok result => exact Traced.Maintains.bind (fun _ h => h) fun _ => Traced.maintains_pure _
  | error e => exact staysKeyed_cleanUp host _ _

theorem staysKeyed_deleteKey (kid : KeyId) : StaysKeyed (deleteKey host kid) := by
  refine (Traced.maintains_get _).bind fun self => ?_
  refine (Traced.maintains_lift _).bind fun key => ?_
  refine Traced.Maintains.bind (fun _ h => h) fun _ => ?_
  intro s hs kid' key' hkey
  rw [Traced.modify] at hkey
  dsimp only at hkey
  rw [HashMap.lookup_erase_eq_ite] at hkey
  split at hkey
  · cases hkey
  · exact hs kid' key' hkey

theorem staysKeyed_perform (op : KeystoreOp) : StaysKeyed (op.perform host) := by
  cases op with
  | generateKey algorithm =>
    refine Traced.Maintains.bind ?_ fun _ => Traced.maintains_pure _
    refine Traced.Maintains.bind (fun _ h => h) fun challenge => ?_
    exact staysKeyed_generateKeyWithChallenge host algorithm challenge
  | generateKeyWithChallenge algorithm challenge =>
    exact (staysKeyed_generateKeyWithChallenge host algorithm challenge).bind
      fun _ => Traced.maintains_pure _
  | deleteKey kid => exact staysKeyed_deleteKey host kid

end Keyed

theorem Reachable.keyed {p : AndroidKeystorePlugin} (h : Reachable p) : Keyed p := by
  induction h with
  | new => exact nofun
  | @loaded codec bytes p hload =>
    unfold fromState at hload
    split at hload
    · cases hload
    · cases hload
      intro kid key hkey
      rw [HashMap.lookup_ofListFirst] at hkey
      simpa using List.find?_some hkey
  | called host op w _ ih => exact staysKeyed_perform host op _ ih

/-- Sorted records are all the blob depends on. -/
theorem exportState_eq {p : AndroidKeystorePlugin} (h : Reachable p)
    (codec : Codec ExportedPluginState) (order order' : HashMap.IterOrder String StoredAndroidKey) :
    p.exportState codec order = p.exportState codec order' := by
  have hsorted : p.sortedKeys order = p.sortedKeys order' :=
    sorted_values_eq StoredAndroidKey.createdAt h.keyed order order'
  rw [exportState, exportState, hsorted]

/-- Whatever the walks over the two plugins and whatever their blobs are written with. -/
def ExportsAgree (p q : AndroidKeystorePlugin) : Prop :=
  ∀ codec order order', p.exportState codec order = q.exportState codec order'

end AndroidKeystorePlugin

/-! ## The fido2 plugin -/

namespace Fido2SignPlugin

open Fido2 Content

variable {json : JsonText}

/-- The walk over the contexts can be read off their document. -/
theorem serializeLifecycle_eq_iff {lifecycle : LifecycleMap}
    {order order' : HashMap.IterOrder String LifecycleContext} :
    SoftkeyPlugin.serializeLifecycle order lifecycle =
        SoftkeyPlugin.serializeLifecycle order' lifecycle ↔
      order.entries lifecycle = order'.entries lifecycle := by
  constructor
  · intro h
    have hnames : (order.entries lifecycle).map Prod.fst =
        (order'.entries lifecycle).map Prod.fst := by
      have hmembers := congrArg (List.map Prod.fst) (Content.map.inj h)
      rwa [List.map_map, List.map_map] at hmembers
    -- the context under a name is the map's, whichever walk meets it
    have hentries : ∀ o : HashMap.IterOrder String LifecycleContext, o.entries lifecycle =
        ((o.entries lifecycle).map Prod.fst).filterMap fun contextId =>
          (lifecycle.lookup contextId).map fun ctx => (contextId, ctx) := by
      intro o
      rw [List.filterMap_map]
      refine Eq.symm ((List.filterMap_congr fun e he => ?_).trans List.filterMap_some)
      show (lifecycle.lookup e.1).map (fun ctx => (e.1, ctx)) = some e
      rw [(o.mem_entries lifecycle e.1 e.2).mp he]
      rfl
    rw [hentries order, hentries order', hnames]
  · intro h
    rw [SoftkeyPlugin.serializeLifecycle, h]
    rfl

/-- The records are written in the same order whatever the walk over them. -/
theorem sortedKeys_eq {p : Fido2SignPlugin} (h : Storable p)
    (keyOrder keyOrder' : HashMap.IterOrder String StoredFidoKey) :
    p.sortedKeys keyOrder = p.sortedKeys keyOrder' :=
  sorted_values_eq StoredFidoKey.createdAt h.keyed keyOrder keyOrder'

/-- Two exports differ exactly in the walk over the contexts. -/
theorem exportState_eq_iff (hjson : json.Lawful) {p : Fido2SignPlugin} (h : Storable p)
    (keyOrder keyOrder' : HashMap.IterOrder String StoredFidoKey)
    (order order' : HashMap.IterOrder String LifecycleContext) :
    p.exportState (stateCodec json order) keyOrder =
        p.exportState (stateCodec json order') keyOrder' ↔
      order.entries p.lifecycle = order'.entries p.lifecycle := by
  have hwritable (o : HashMap.IterOrder String LifecycleContext) :
      (serializeState o ⟨p.sortedKeys keyOrder, p.lifecycle⟩).Writable JsonText.maxDepth :=
    writable_serializeState o (h.numbered keyOrder)
  have hexport (o : HashMap.IterOrder String LifecycleContext)
      (ko : HashMap.IterOrder String StoredFidoKey) :
      p.exportState (stateCodec json o) ko =
        .ok (json.toVec (serializeState o ⟨p.sortedKeys ko, p.lifecycle⟩)) := rfl
  rw [hexport, hexport, sortedKeys_eq h keyOrder' keyOrder, ← serializeLifecycle_eq_iff]
  constructor
  · intro heq
    -- what was written can be read back, so the documents are the same
    have hread := congrArg json.fromSlice (Except.ok.inj heq)
    rw [hjson _ (hwritable order), hjson _ (hwritable order')] at hread
    have hmembers := Content.map.inj (Option.some.inj hread)
    simpa using hmembers
  · intro heq
    rw [serializeState, serializeState, heq]

/-- Whatever the walks over the two plugins. -/
def ExportsAgree (json : JsonText) (p q : Fido2SignPlugin) : Prop :=
  ∀ keyOrder keyOrder' order order',
    p.exportState (stateCodec json order) keyOrder =
      q.exportState (stateCodec json order') keyOrder'

theorem exportsAgree_iff (hjson : json.Lawful) {p : Fido2SignPlugin} (h : Storable p) :
    ExportsAgree json p p ↔ p.lifecycle.keys.card ≤ 1 := by
  rw [← HashMap.IterOrder.sorted.entries_agree_iff]
  constructor
  · intro hagree order
    exact (exportState_eq_iff hjson h .sorted .sorted _ _).mp (hagree _ _ _ _)
  · intro hwalks keyOrder keyOrder' order order'
    exact (exportState_eq_iff hjson h keyOrder keyOrder' order order').mpr
      ((hwalks order).symm.trans (hwalks order'))

end Fido2SignPlugin

/-! ## Two contexts -/

namespace ExportDemo

open TwoKeys SoftkeyHost

/-- The authenticator ends the ceremony of a context's key with the given point. -/
def register (contextId : String) (point : List UInt8 × List UInt8) : LifecycleOp Fido2.Draw :=
  .registerLifecycle ⟨"fido2", contextId, .rawSign⟩ (drawOf point) 0

theorem stamped_register (contextId : String) (point : List UInt8 × List UInt8) :
    Fido2SignPlugin.Stamped (register contextId point) := by
  refine ⟨⟨?_, show Cbor.IsI64 0 by decide⟩, by decide⟩
  rintro result ⟨⟩
  show Cbor.IsI64 (-65539)
  decide

theorem apply_register {contextId : String} {point : List UInt8 × List UInt8} {kid : KeyId}
    (hdraw : (Fido2SignPlugin.draw crypto .es256 (drawOf point)).map Prod.fst =
      .ok (recordOf point kid)) {p : Fido2SignPlugin}
    (hnew : p.lifecycle.lookup contextId = none) :
    (p.apply crypto (register contextId point)).2 =
      ⟨p.keys.insert kid.asStr (recordOf point kid),
        p.lifecycle.insert contextId ⟨.rawSign, .registered, 0, [kid]⟩⟩ := by
  have hstep := congrArg Prod.snd (fido2_apply_eq crypto (register contextId point) p)
  have hmade : Fido2SignPlugin.generated crypto (register contextId point) =
      .ok (recordOf point kid) := hdraw
  have hlisted : p.toKeyring.listed contextId = [] := by
    show ((p.lifecycle.lookup contextId).map LifecycleContext.keyIds).getD [] = []
    rw [hnew]
    rfl
  rw [hmade] at hstep
  simp only [register, Keyring.step, hlisted] at hstep
  exact congrArg (fun r : Keyring Fido2.StoredFidoKey => Fido2SignPlugin.mk r.keys r.contexts) hstep

/-- The plugin after the contexts `a` and `b` were registered, in that order. -/
def aThenB : Fido2SignPlugin :=
  ((Fido2SignPlugin.new.apply crypto (register "a" basePoint)).2.apply crypto
    (register "b" doublePoint)).2

def bThenA : Fido2SignPlugin :=
  ((Fido2SignPlugin.new.apply crypto (register "b" doublePoint)).2.apply crypto
    (register "a" basePoint)).2

theorem reachable_aThenB : Fido2SignPlugin.Reachable jsonWire aThenB :=
  .called _ (.called _ .new (stamped_register _ _)) (stamped_register _ _)

theorem reachable_bThenA : Fido2SignPlugin.Reachable jsonWire bThenA :=
  .called _ (.called _ .new (stamped_register _ _)) (stamped_register _ _)

theorem aThenB_eq_bThenA : aThenB = bThenA := by
  have hnew (contextId : String) :
      Fido2SignPlugin.new.lifecycle.lookup contextId = none := Finmap.lookup_empty _
  unfold aThenB bThenA
  rw [apply_register draw_basePoint (hnew "a"), apply_register draw_doublePoint (hnew "b"),
    apply_register draw_doublePoint, apply_register draw_basePoint]
  · rw [Finmap.insert_insert_of_ne _ (show kidOne.asStr ≠ kidTwo.asStr by decide),
      Finmap.insert_insert_of_ne _ (show "a" ≠ "b" by decide)]
  · exact Finmap.lookup_insert_of_ne _ (by decide)
  · exact Finmap.lookup_insert_of_ne _ (by decide)

theorem two_contexts : ¬ aThenB.lifecycle.keys.card ≤ 1 := by
  decide

end ExportDemo

/-- Two fido2 plugins with the same records and the same contexts, whatever runs they have
behind them, write the same bytes for every walk over their maps exactly when there is at most
one context; for two given walks, exactly when both meet the contexts in the same order. Two
Android Keystore plugins with the same records always do. -/
theorem exports_agree_iff (json : JsonText) (hjson : json.Lawful) :
    (∀ p q, Fido2SignPlugin.Reachable json p → Fido2SignPlugin.Reachable json q →
      p.keys = q.keys → p.lifecycle = q.lifecycle →
      (Fido2SignPlugin.ExportsAgree json p q ↔ p.lifecycle.keys.card ≤ 1) ∧
      ∀ keyOrder keyOrder' order order',
        p.exportState (Fido2SignPlugin.stateCodec json order) keyOrder =
            q.exportState (Fido2SignPlugin.stateCodec json order') keyOrder' ↔
          order.entries p.lifecycle = order'.entries q.lifecycle) ∧
    ∀ p q, AndroidKeystorePlugin.Reachable p → AndroidKeystorePlugin.Reachable q →
      p.keys = q.keys → p.ExportsAgree q := by
  constructor
  · rintro ⟨keys, lifecycle⟩ ⟨_, _⟩ hp - rfl rfl
    exact ⟨Fido2SignPlugin.exportsAgree_iff hjson hp.storable,
      Fido2SignPlugin.exportState_eq_iff hjson hp.storable⟩
  · rintro ⟨keys⟩ ⟨_⟩ hp - rfl codec order order'
    exact AndroidKeystorePlugin.exportState_eq hp codec order order'

theorem exports_agree_of_one_context :
    Fido2SignPlugin.ExportsAgree jsonWire
      (Fido2SignPlugin.new.apply TwoKeys.crypto (ExportDemo.register "a" SoftkeyHost.basePoint)).2
      (Fido2SignPlugin.new.apply TwoKeys.crypto
        (ExportDemo.register "a" SoftkeyHost.basePoint)).2 ∧
    (AndroidKeystorePlugin.KeystoreOp.perform AndroidKeystorePlugin.AliasDemo.host
        (.generateKeyWithChallenge .es256 [7]) ((none, 0), .new)).2.1.2.ExportsAgree
      (AndroidKeystorePlugin.KeystoreOp.perform AndroidKeystorePlugin.AliasDemo.host
        (.generateKeyWithChallenge .es256 [7]) ((none, 0), .new)).2.1.2 := by
  have hregistered : Fido2SignPlugin.Reachable jsonWire
      (Fido2SignPlugin.new.apply TwoKeys.crypto
        (ExportDemo.register "a" SoftkeyHost.basePoint)).2 :=
    .called _ .new (ExportDemo.stamped_register _ _)
  have hgenerated := AndroidKeystorePlugin.Reachable.called AndroidKeystorePlugin.AliasDemo.host
    (.generateKeyWithChallenge .es256 [7]) (none, 0) .new
  have hagree := exports_agree_iff jsonWire jsonWire_lawful
  exact ⟨(hagree.1 _ _ hregistered hregistered rfl rfl).1.mpr (by decide),
    hagree.2 _ _ hgenerated hgenerated rfl⟩

/-- The contexts registered in either order, and maps that list them the one way and the
other. -/
theorem exports_of_two_contexts_differ :
    Fido2SignPlugin.Reachable jsonWire ExportDemo.aThenB ∧
    Fido2SignPlugin.Reachable jsonWire ExportDemo.bThenA ∧
    ExportDemo.aThenB.keys = ExportDemo.bThenA.keys ∧
    ExportDemo.aThenB.lifecycle = ExportDemo.bThenA.lifecycle ∧
    ExportDemo.aThenB.exportState (Fido2SignPlugin.stateCodec jsonWire .sorted) .sorted ≠
      ExportDemo.bThenA.exportState
        (Fido2SignPlugin.stateCodec jsonWire (HashMap.IterOrder.reversed .sorted)) .sorted := by
  refine ⟨ExportDemo.reachable_aThenB, ExportDemo.reachable_bThenA,
    congrArg _ ExportDemo.aThenB_eq_bThenA, congrArg _ ExportDemo.aThenB_eq_bThenA, ?_⟩
  rw [← ExportDemo.aThenB_eq_bThenA, Ne, Fido2SignPlugin.exportState_eq_iff jsonWire_lawful
    ExportDemo.reachable_aThenB.storable]
  intro hwalks
  have hshort := length_le_one_of_reverse_eq (HashMap.IterOrder.sorted.nodup_entries _) hwalks.symm
  rw [HashMap.IterOrder.length_entries] at hshort
  exact ExportDemo.two_contexts hshort

end Wscd
