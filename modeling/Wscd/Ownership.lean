import Wscd.KeyringPlugins

/-!
# Which context owns a key

The softkey and the fido2 plugin over whole sessions, from an empty plugin: registrations,
activations, rotations, destructions, plain key generations and deletions, exports and
restores of any earlier export.

Results:
1. `lifecycle_keys_accounted`: as long as no rotation names an unknown context, every stored
   lifecycle key is owned by exactly one context, a failing operation on a context changes
   nothing, and destroying the owner removes the key.
2. `destroy_frame`: the softkey plugin's destruction of a context removes that context's keys
   and nothing else; the fido2 plugin's does so only when there is nothing else.
-/

namespace Wscd

open Lib

variable {P V D : Type}

/-! ## Every lifecycle key is accounted for -/

namespace Session

/-- Fresh kids and no rotation of an unknown context. -/
def WellDirected (B : LifecycleBackend P V D) (s : Session P) (op : SessionOp D) : Prop :=
  s.Fresh B op ∧ s.KnownContext B op

/-- What holds of the lifecycle keys of a session. -/
structure Accounted (B : LifecycleBackend P V D) (s : Session P) : Prop where
  listed : ∀ kid ∈ s.owned, (B.keyring s.plugin).Stored kid →
    ∃! c, kid ∈ (B.keyring s.plugin).listed c
  error_unchanged : ∀ op e, s.KnownContext B (.call op) →
    (B.apply op s.plugin).1 = .error e → B.keyring (B.apply op s.plugin).2 = B.keyring s.plugin
  destroyable : ∀ kid ∈ s.owned, (B.keyring s.plugin).Stored kid →
    ∃ c, ∀ request now, request.contextId = c →
      (B.apply (.destroyLifecycle request now) s.plugin).1 = .ok () ∧
      ¬ (B.keyring (B.apply (.destroyLifecycle request now) s.plugin).2).Stored kid

end Session

namespace Keyring

variable {r r' : Keyring V}

/-- A destruction that succeeds. -/
theorem destroyed_of_moves {rules : KeyringRules} {kidOf : V → String}
    {request : DestroyLifecycleRequest} {now : Int} {gen : Except WscdError V}
    (h : Moves (D := D) rules kidOf r (.destroyLifecycle request now) gen (.ok ()) r') :
    ∃ ctx, r.contexts.lookup request.contextId = some ctx ∧
      r' = (if rules.sweeps then r.sweep else r.purge ctx.keyIds).setContext request.contextId
        { ctx with state := .destroyed, updatedAt := now, keyIds := [] } := by
  cases h with
  | destroyed hlookup => exact ⟨_, hlookup, rfl⟩

/-- Destroying a context that exists removes its keys. -/
theorem not_stored_of_destroyed {rules : KeyringRules} {kidOf : V → String}
    {request : DestroyLifecycleRequest} {now : Int} {gen : Except WscdError V}
    (h : Moves (D := D) rules kidOf r (.destroyLifecycle request now) gen (.ok ()) r')
    {kid : KeyId} (hkid : kid ∈ r.listed request.contextId) : ¬ r'.Stored kid := by
  obtain ⟨ctx, hlookup, rfl⟩ := destroyed_of_moves h
  rw [stored_setContext]
  split
  · exact not_stored_sweep r kid
  · rw [listed_of_lookup hlookup] at hkid
    rw [stored_purge]
    exact fun hstored => hstored.1 hkid

theorem exists_context_of_listed {c : String} {kid : KeyId} (h : kid ∈ r.listed c) :
    ∃ ctx, r.contexts.lookup c = some ctx := by
  cases hlookup : r.contexts.lookup c with
  | none => simp [listed, hlookup] at h
  | some ctx => exact ⟨ctx, rfl⟩

end Keyring

namespace Session

variable {B : LifecycleBackend P V D} {s : Session P}

theorem destroy_ok (hB : B.Refines) {request : DestroyLifecycleRequest} (now : Int) {kid : KeyId}
    (h : kid ∈ (B.keyring s.plugin).listed request.contextId) :
    (B.apply (.destroyLifecycle request now) s.plugin).1 = .ok () := by
  obtain ⟨ctx, hctx⟩ := Keyring.exists_context_of_listed h
  have hstep := congrArg Prod.fst (hB.apply_eq (.destroyLifecycle request now) s.plugin)
  simp only [Keyring.step, hctx] at hstep
  exact hstep

theorem Accounted.of_books (hB : B.Refines) (hbooks : s.Books B) (h : s.NoOrphans B) :
    s.Accounted B where
  listed kid hkid hstored := by
    obtain ⟨c, hc⟩ := h _ (.inl rfl) kid hkid hstored
    exact ⟨c, hc, fun c' hc' => hbooks.plugin.disjoint c' c kid hc' hc⟩
  error_unchanged op e hknown herr := by
    have hmove := B.moves_apply hB.apply_eq op s.plugin
    rw [herr] at hmove
    generalize hr' : B.keyring (B.apply op s.plugin).2 = r' at hmove ⊢
    generalize hgen : B.generated op = gen at hmove
    cases hmove with
    | refused => rfl
    | orphaned hlookup =>
      -- the one failure that leaves a key behind needs an unknown context
      rw [KnownContext, Keyring.KnownContext, hgen] at hknown
      exact absurd hlookup (hknown rfl)
  destroyable kid hkid hstored := by
    obtain ⟨c, hc⟩ := h _ (.inl rfl) kid hkid hstored
    refine ⟨c, fun request now hrequest => ?_⟩
    rw [← hrequest] at hc
    have hok := destroy_ok hB now hc
    have hmove := B.moves_apply hB.apply_eq (.destroyLifecycle request now) s.plugin
    rw [hok] at hmove
    exact ⟨hok, Keyring.not_stored_of_destroyed hmove hc⟩

/-- Along well-directed steps, from an empty plugin. -/
theorem accounted_run (hB : B.Refines) {p : P} (hp : B.keyring p = ⟨∅, ∅⟩)
    {ops : List (SessionOp D)} (h : Along (step B) (WellDirected B) (start p) ops) :
    (run (step B) (start p) ops).Accounted B := by
  have hrun := run_invariant (I := fun s => s.Books B ∧ s.NoOrphans B)
    (fun s op hs hop => ⟨hs.1.step hB op hop.1, hs.2.step hB hs.1 op hop.1 hop.2⟩)
    ⟨books_start hp, noOrphans_start B p⟩ h
  exact .of_books hB hrun.1 hrun.2

end Session

section Plugins

variable (crypto : SoftkeyCrypto) (codec : SoftkeyPlugin.ContainerCodec)
  (order : HashMap.IterOrder String Softkey.StoredKey)
  (fidoCrypto : Fido2Crypto) (fidoCodec : Codec Fido2.ExportedPluginState)
  (fidoOrder : HashMap.IterOrder String Fido2.StoredFidoKey)

/-- In every session of either plugin with fresh kids and no rotation of an unknown context,
the lifecycle keys are accounted for. -/
theorem lifecycle_keys_accounted (hcodec : codec.exported.Lawful) (hfidoCodec : fidoCodec.Lawful) :
    (∀ ops, Along (Session.step (softkeyBackend crypto codec order))
        (Session.WellDirected (softkeyBackend crypto codec order)) (.start .new) ops →
      (run (Session.step (softkeyBackend crypto codec order)) (.start .new) ops).Accounted
        (softkeyBackend crypto codec order)) ∧
    (∀ ops, Along (Session.step (fido2Backend fidoCrypto fidoCodec fidoOrder))
        (Session.WellDirected (fido2Backend fidoCrypto fidoCodec fidoOrder)) (.start .new) ops →
      (run (Session.step (fido2Backend fidoCrypto fidoCodec fidoOrder)) (.start .new) ops).Accounted
        (fido2Backend fidoCrypto fidoCodec fidoOrder)) := by
  constructor
  · intro ops h
    exact Session.accounted_run (softkeyBackend_refines crypto codec order hcodec) rfl h
  · intro ops h
    exact Session.accounted_run (fido2Backend_refines fidoCrypto fidoCodec fidoOrder hfidoCodec)
      rfl h

end Plugins

/-- Rotating a context that does not exist fails and leaves an orphan. -/
theorem rotate_unknown {B : LifecycleBackend P V D} (hB : B.Refines) {p : P}
    {request : RotateLifecycleRequest} {d : D} {now : Int} {v : V}
    (hgen : B.generated (.rotateLifecycle request d now) = .ok v)
    (hcontexts : (B.keyring p).contexts.lookup request.contextId = none) :
    (B.apply (.rotateLifecycle request d now) p).1 = .error (.keyNotFound request.contextId) ∧
      B.keyring (B.apply (.rotateLifecycle request d now) p).2 =
        (B.keyring p).store B.kidOf v := by
  have hstep := hB.apply_eq (.rotateLifecycle request d now) p
  simp only [Keyring.step, hgen, hcontexts] at hstep
  exact Prod.mk.inj hstep

namespace LifecycleDemo

open SoftkeyHost TwoKeys

def rotateGhost : RotateLifecycleRequest := ⟨"", "ghost"⟩

/-- A restart before anything is enrolled, then an enrolment. -/
def enrolment {D : Type} (d : D) : List (SessionOp D) :=
  [.exportState, .restore 0, .call (.registerLifecycle registerCtx d 0)]

/-- The session after a rotation of a context that does not exist has an orphan, and the
failing operation has changed the store. -/
def RotationOrphans (B : LifecycleBackend P V D) (p : P) (d : D) : Prop :=
  let op : LifecycleOp D := .rotateLifecycle rotateGhost d 0
  let s := run (Session.step B) (.start p) [.call op]
  (¬ ∀ kid ∈ s.owned, (B.keyring s.plugin).Stored kid →
    ∃! c, kid ∈ (B.keyring s.plugin).listed c) ∧
  (B.apply op p).1 = .error (.keyNotFound "ghost") ∧
  B.keyring (B.apply op p).2 ≠ B.keyring p

theorem rotationOrphans {B : LifecycleBackend P V D} (hB : B.Refines) {p : P}
    (hp : B.keyring p = ⟨∅, ∅⟩) {d : D} {v : V}
    (hgen : B.generated (.rotateLifecycle rotateGhost d 0) = .ok v) : RotationOrphans B p d := by
  obtain ⟨herr, hstore⟩ := rotate_unknown hB hgen (p := p) (by rw [hp]; rfl)
  have hstored : ((B.keyring p).store B.kidOf v).Stored ⟨B.kidOf v⟩ :=
    (Keyring.stored_store _ _ _ _).mpr (.inl rfl)
  refine ⟨fun h => ?_, herr, fun hsame => ?_⟩
  · have hlisted := h ⟨B.kidOf v⟩ ?_ ?_
    · obtain ⟨c, hc, -⟩ := hlisted
      change _ ∈ Keyring.listed (B.keyring (B.apply _ p).2) c at hc
      rw [hstore, Keyring.listed_store, hp] at hc
      exact absurd hc List.not_mem_nil
    · show _ ∈ [] ++ Keyring.newOwned B.kidOf _ _
      rw [hgen]
      exact List.mem_cons_self
    · show Keyring.Stored (B.keyring (B.apply _ p).2) _
      rw [hstore]
      exact hstored
  · rw [← hstore, hsame, hp] at hstored
    exact hstored (Finmap.lookup_empty _)

/-- Both plugins leave an orphan behind. -/
theorem rotate_leaves_orphan :
    RotationOrphans softkeyOne .new drawOne ∧ RotationOrphans fido2Two .new (drawOf basePoint) :=
  ⟨rotationOrphans softkeyOne_refines rfl draw_drawOne,
    rotationOrphans fido2Two_refines rfl draw_basePoint⟩

/-- An enrolment is well directed on any plugin: it generates the first kid. -/
theorem enrolment_wellDirected (B : LifecycleBackend P V D) (p : P) (d : D) :
    Along (Session.step B) (Session.WellDirected B) (.start p) (enrolment d) :=
  ⟨⟨fun _ _ => List.not_mem_nil, trivial⟩, ⟨fun _ _ => List.not_mem_nil, trivial⟩,
    ⟨fun _ _ => List.not_mem_nil, trivial⟩, trivial⟩

/-- Both plugins through an enrolment. -/
theorem lifecycle_keys_accounted_enrolment :
    (run (Session.step softkeyOne) (.start .new) (enrolment drawOne)).Accounted softkeyOne ∧
    (run (Session.step fido2Two) (.start .new) (enrolment (drawOf basePoint))).Accounted fido2Two :=
  have h := lifecycle_keys_accounted secretOneHost.crypto emptyContainerCodec .sorted
    TwoKeys.crypto (onlyCodec ⟨[], ∅⟩ emptyBlob) .sorted (onlyCodec_lawful _ _)
    (onlyCodec_lawful _ _)
  ⟨h.1 _ (enrolment_wellDirected softkeyOne _ _), h.2 _ (enrolment_wellDirected fido2Two _ _)⟩

end LifecycleDemo

/-! ## What destroying a context leaves alone -/

namespace Session

/-- From `s` to `p'`, the keys of the context `c` went and nothing else did. -/
structure DestroysOnly (B : LifecycleBackend P V D) (s : Session P) (c : String) (p' : P) :
    Prop where
  keys : ∀ kid, (B.keyring p').keys.lookup kid.asStr =
    if kid ∈ (B.keyring s.plugin).listed c then none
    else (B.keyring s.plugin).keys.lookup kid.asStr
  otherKeys : ∀ c' kid, c' ≠ c → kid ∈ (B.keyring s.plugin).listed c' →
    (B.keyring s.plugin).Stored kid → (B.keyring p').Stored kid
  plainKeys : ∀ kid, kid ∉ s.owned → (B.keyring s.plugin).Stored kid → (B.keyring p').Stored kid
  otherContexts : ∀ c', c' ≠ c →
    (B.keyring p').contexts.lookup c' = (B.keyring s.plugin).contexts.lookup c'

variable {B : LifecycleBackend P V D} {s : Session P}

/-- The first and the last part imply the other two when the books are in order. -/
theorem DestroysOnly.of_books (hbooks : s.Books B) {c : String} {p' : P}
    (hkeys : ∀ kid, (B.keyring p').keys.lookup kid.asStr =
      if kid ∈ (B.keyring s.plugin).listed c then none
      else (B.keyring s.plugin).keys.lookup kid.asStr)
    (hcontexts : ∀ c', c' ≠ c →
      (B.keyring p').contexts.lookup c' = (B.keyring s.plugin).contexts.lookup c') :
    s.DestroysOnly B c p' := by
  have hstored (kid : KeyId) (hkid : kid ∉ (B.keyring s.plugin).listed c)
      (h : (B.keyring s.plugin).Stored kid) : (B.keyring p').Stored kid := by
    rw [Keyring.Stored, hkeys, if_neg hkid]
    exact h
  exact
    { keys := hkeys
      otherKeys := fun c' kid hne hmem => hstored kid fun hc =>
        hne (hbooks.plugin.disjoint c' c kid hmem hc)
      plainKeys := fun kid hplain => hstored kid fun hc =>
        hplain (hbooks.plugin.listed_owned c kid hc)
      otherContexts := hcontexts }

/-- A plugin that does not sweep destroys only. -/
theorem destroysOnly_of_purges (hB : B.Refines) (hbooks : s.Books B)
    (hrules : B.rules.sweeps = false) {request : DestroyLifecycleRequest} {now : Int}
    (hok : (B.apply (.destroyLifecycle request now) s.plugin).1 = .ok ()) :
    s.DestroysOnly B request.contextId
      (B.apply (.destroyLifecycle request now) s.plugin).2 := by
  have hmove := B.moves_apply hB.apply_eq (.destroyLifecycle request now) s.plugin
  rw [hok] at hmove
  obtain ⟨ctx, hlookup, heq⟩ := Keyring.destroyed_of_moves hmove
  rw [hrules] at heq
  refine .of_books hbooks (fun kid => ?_) (fun c' hne => ?_)
  · rw [heq, Keyring.listed_of_lookup hlookup]
    exact Keyring.lookup_purge _ _ _
  · rw [heq, Keyring.lookup_setContext, if_neg hne]
    rfl

/-- A plugin that sweeps destroys only when every stored key is the context's own. -/
theorem destroysOnly_iff_of_sweeps (hB : B.Refines) (hbooks : s.Books B)
    (hrules : B.rules.sweeps = true) {request : DestroyLifecycleRequest} {now : Int}
    (hok : (B.apply (.destroyLifecycle request now) s.plugin).1 = .ok ()) :
    s.DestroysOnly B request.contextId (B.apply (.destroyLifecycle request now) s.plugin).2 ↔
      ∀ kid, (B.keyring s.plugin).Stored kid →
        kid ∈ (B.keyring s.plugin).listed request.contextId := by
  have hmove := B.moves_apply hB.apply_eq (.destroyLifecycle request now) s.plugin
  rw [hok] at hmove
  obtain ⟨ctx, hlookup, heq⟩ := Keyring.destroyed_of_moves hmove
  rw [hrules] at heq
  have hgone (kid : KeyId) :
      (B.keyring (B.apply (.destroyLifecycle request now) s.plugin).2).keys.lookup kid.asStr =
        none := by
    rw [heq]
    exact Finmap.lookup_empty _
  constructor
  · intro h kid hstored
    by_contra hkid
    have hkeys := h.keys kid
    rw [hgone, if_neg hkid] at hkeys
    exact hstored hkeys.symm
  · intro h
    refine .of_books hbooks (fun kid => ?_) (fun c' hne => ?_)
    · rw [hgone]
      split
      · rfl
      · by_contra hne
        exact absurd (h kid fun hnone => hne hnone.symm) ‹_›
    · rw [heq, Keyring.lookup_setContext, if_neg hne]
      rfl

/-- Along steps with fresh kids, from an empty plugin. -/
theorem books_run (hB : B.Refines) {p : P} (hp : B.keyring p = ⟨∅, ∅⟩)
    {ops : List (SessionOp D)} (h : Along (step B) (Fresh B) (start p) ops) :
    (run (step B) (start p) ops).Books B :=
  run_invariant (fun _ op hs hop => hs.step hB op hop) (books_start hp) h

end Session

section Plugins

variable (crypto : SoftkeyCrypto) (codec : SoftkeyPlugin.ContainerCodec)
  (order : HashMap.IterOrder String Softkey.StoredKey)
  (fidoCrypto : Fido2Crypto) (fidoCodec : Codec Fido2.ExportedPluginState)
  (fidoOrder : HashMap.IterOrder String Fido2.StoredFidoKey)

/-- In every session with fresh kids, a destruction that succeeds takes the keys of its
context and nothing else, always on the softkey plugin, and on the fido2 plugin exactly when
every stored key is in the context. -/
theorem destroy_frame (hcodec : codec.exported.Lawful) (hfidoCodec : fidoCodec.Lawful) :
    (∀ ops s request now, Along (Session.step (softkeyBackend crypto codec order))
        (Session.Fresh (softkeyBackend crypto codec order)) (.start .new) ops →
      s = run (Session.step (softkeyBackend crypto codec order)) (.start .new) ops →
      (s.plugin.destroyLifecycle request now).1.isOk = true →
      s.DestroysOnly (softkeyBackend crypto codec order) request.contextId
        (s.plugin.destroyLifecycle request now).2) ∧
    (∀ ops s request now, Along (Session.step (fido2Backend fidoCrypto fidoCodec fidoOrder))
        (Session.Fresh (fido2Backend fidoCrypto fidoCodec fidoOrder)) (.start .new) ops →
      s = run (Session.step (fido2Backend fidoCrypto fidoCodec fidoOrder)) (.start .new) ops →
      (s.plugin.destroyLifecycle request now).1.isOk = true →
      (s.DestroysOnly (fido2Backend fidoCrypto fidoCodec fidoOrder) request.contextId
          (s.plugin.destroyLifecycle request now).2 ↔
        ∀ kid, s.plugin.toKeyring.Stored kid →
          kid ∈ s.plugin.toKeyring.listed request.contextId)) := by
  constructor
  · rintro ops s request now hops rfl hok
    exact Session.destroysOnly_of_purges (softkeyBackend_refines crypto codec order hcodec)
      (Session.books_run (softkeyBackend_refines crypto codec order hcodec) rfl hops) rfl
      ((withoutValue_eq_ok_iff _).mpr hok)
  · rintro ops s request now hops rfl hok
    exact Session.destroysOnly_iff_of_sweeps
      (fido2Backend_refines fidoCrypto fidoCodec fidoOrder hfidoCodec)
      (Session.books_run (fido2Backend_refines fidoCrypto fidoCodec fidoOrder hfidoCodec) rfl hops)
      rfl ((withoutValue_eq_ok_iff _).mpr hok)

end Plugins

namespace LifecycleDemo

open SoftkeyHost TwoKeys

def registration {D : Type} (d : D) : List (SessionOp D) :=
  [.call (.registerLifecycle registerCtx d 0)]

theorem registration_fresh (B : LifecycleBackend P V D) (p : P) (d : D) :
    Along (Session.step B) (Session.Fresh B) (.start p) (registration d) :=
  ⟨fun _ _ => List.not_mem_nil, trivial⟩

/-- After a registration on an empty plugin the context can be destroyed. -/
theorem registration_destroy_ok {B : LifecycleBackend P V D} (hB : B.Refines) {p : P}
    (hp : B.keyring p = ⟨∅, ∅⟩) {d : D} {v : V}
    (hgen : B.generated (.registerLifecycle registerCtx d 0) = .ok v) :
    (B.apply (.destroyLifecycle destroyCtx 0)
      (run (Session.step B) (.start p) (registration d)).plugin).1 = .ok () := by
  refine Session.destroy_ok hB 0 (?_ : ⟨B.kidOf v⟩ ∈ _)
  show _ ∈ Keyring.listed (B.keyring (B.apply _ p).2) "ctx"
  rw [B.keyring_apply hB.apply_eq, hgen, hp]
  show _ ∈ Keyring.listed (Keyring.setContext "ctx" _ _) "ctx"
  rw [Keyring.listed_setContext, if_pos rfl]
  exact List.mem_cons_self

/-- A registered context of either plugin, destroyed. -/
theorem destroy_frame_registration :
    (run (Session.step softkeyOne) (.start .new) (registration drawOne)).DestroysOnly softkeyOne
      "ctx" ((run (Session.step softkeyOne) (.start .new) (registration drawOne)).plugin
        |>.destroyLifecycle destroyCtx 0).2 ∧
    ((run (Session.step fido2Two) (.start .new) (registration (drawOf basePoint))).DestroysOnly
        fido2Two "ctx"
        ((run (Session.step fido2Two) (.start .new) (registration (drawOf basePoint))).plugin
          |>.destroyLifecycle destroyCtx 0).2 ↔
      ∀ kid, (run (Session.step fido2Two) (.start .new)
          (registration (drawOf basePoint))).plugin.toKeyring.Stored kid →
        kid ∈ (run (Session.step fido2Two) (.start .new)
          (registration (drawOf basePoint))).plugin.toKeyring.listed "ctx") :=
  have h := destroy_frame secretOneHost.crypto emptyContainerCodec .sorted TwoKeys.crypto
    (onlyCodec ⟨[], ∅⟩ emptyBlob) .sorted (onlyCodec_lawful _ _) (onlyCodec_lawful _ _)
  ⟨h.1 (registration drawOne) _ destroyCtx 0 (registration_fresh softkeyOne _ _) rfl
      ((withoutValue_eq_ok_iff _).mp
        (registration_destroy_ok softkeyOne_refines rfl draw_drawOne)),
    h.2 (registration (drawOf basePoint)) _ destroyCtx 0 (registration_fresh fido2Two _ _) rfl
      ((withoutValue_eq_ok_iff _).mp
        (registration_destroy_ok fido2Two_refines rfl draw_basePoint))⟩

/-- A key outside any context, then an enrolment. -/
def plainKeyThenCtx : List (SessionOp Fido2.Draw) :=
  [.call (.generateKey .es256 (drawOf basePoint)),
    .call (.registerLifecycle registerCtx (drawOf doublePoint) 0)]

theorem generated_plainKey :
    fido2Two.generated (.generateKey .es256 (drawOf basePoint)) =
      .ok (recordOf basePoint kidOne) := draw_basePoint

theorem generated_ctxKey :
    fido2Two.generated (.registerLifecycle registerCtx (drawOf doublePoint) 0) =
      .ok (recordOf doublePoint kidTwo) := draw_doublePoint

theorem plainKeyThenCtx_fresh :
    Along (Session.step fido2Two) (Session.Fresh fido2Two) (.start .new) plainKeyThenCtx := by
  refine ⟨fun _ _ => List.not_mem_nil, ?_, trivial⟩
  simp only [Session.Fresh, Session.step, SessionOp.newKids, generated_plainKey, generated_ctxKey]
  show ∀ kid ∈ [kidTwo], kid ∉ [kidOne]
  decide

/-- The keyring that session ends with. -/
theorem plainKeyThenCtx_keyring :
    (run (Session.step fido2Two) (.start .new) plainKeyThenCtx).plugin.toKeyring =
      (((Keyring.mk ∅ ∅).store Fido2.StoredFidoKey.kid (recordOf basePoint kidOne)).store
        Fido2.StoredFidoKey.kid (recordOf doublePoint kidTwo)).setContext "ctx"
          ⟨.rawSign, .registered, 0, [kidTwo]⟩ := by
  show fido2Two.keyring (fido2Two.apply _ (fido2Two.apply _ Fido2SignPlugin.new).2).2 = _
  rw [fido2Two.keyring_apply fido2Two_refines.apply_eq,
    fido2Two.keyring_apply fido2Two_refines.apply_eq, generated_plainKey, generated_ctxKey]
  rfl

/-- Destroying the context takes the key outside it. -/
theorem destroy_takes_plain_key :
    let s := run (Session.step fido2Two) (.start .new) plainKeyThenCtx
    (s.plugin.destroyLifecycle destroyCtx 0).1.isOk = true ∧
      ¬ s.DestroysOnly fido2Two "ctx" (s.plugin.destroyLifecycle destroyCtx 0).2 := by
  have hkeyring := plainKeyThenCtx_keyring
  generalize hs : run (Session.step fido2Two) (.start .new) plainKeyThenCtx = s at hkeyring ⊢
  have hbooks : s.Books fido2Two :=
    hs ▸ Session.books_run fido2Two_refines rfl plainKeyThenCtx_fresh
  have hlisted : s.plugin.toKeyring.listed "ctx" = [kidTwo] := by
    rw [hkeyring, Keyring.listed_setContext, if_pos rfl]
  have hstored : s.plugin.toKeyring.Stored kidOne := by
    rw [hkeyring, Keyring.stored_setContext, Keyring.stored_store, Keyring.stored_store]
    exact .inr (.inl rfl)
  have hok : (fido2Two.apply (.destroyLifecycle destroyCtx 0) s.plugin).1 = .ok () :=
    Session.destroy_ok fido2Two_refines 0 (hlisted ▸ List.mem_cons_self : kidTwo ∈ _)
  refine ⟨(withoutValue_eq_ok_iff _).mp hok, fun h => ?_⟩
  have hmem := (Session.destroysOnly_iff_of_sweeps fido2Two_refines hbooks rfl hok).mp h kidOne
    hstored
  change kidOne ∈ s.plugin.toKeyring.listed "ctx" at hmem
  rw [hlisted] at hmem
  revert hmem
  decide

end LifecycleDemo

end Wscd
