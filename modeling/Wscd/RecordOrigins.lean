import Wscd.KeyringPlugins

/-!
# Where key records come from

A plugin never edits a record. Whatever a session does, with exports and restores, every record
of the plugin and of its exports is one that an operation of the session generated.

Results:
1. `Keyring.lookup_of_moves`: the records after a step.
2. `Session.origins`: the records after a session.
3. `origin_afterSession`: the same of the fido2 plugin.
-/

namespace Wscd

open Lib

variable {P V D : Type}

/-! ## One step -/

namespace Keyring

variable {kidOf : V → String} {r r' : Keyring V}

theorem lookup_of_purge {kids : List KeyId} {k : String} {v : V}
    (h : (r.purge kids).keys.lookup k = some v) : r.keys.lookup k = some v := by
  have hlookup := lookup_purge kids r ⟨k⟩
  rw [h] at hlookup
  split at hlookup
  · cases hlookup
  · exact hlookup.symm

theorem lookup_of_sweep {k : String} {v : V} (h : r.sweep.keys.lookup k = some v) :
    r.keys.lookup k = some v := by
  rw [sweep, Finmap.lookup_empty] at h
  cases h

theorem lookup_of_store {v w : V} {k : String} (h : (r.store kidOf v).keys.lookup k = some w) :
    r.keys.lookup k = some w ∨ (w = v ∧ kidOf v = k) := by
  rw [lookup_store] at h
  split at h
  · cases h
    exact .inr ⟨rfl, Eq.symm ‹_›⟩
  · exact .inl h

/-- A record after a step was there before it, or is the one the step generated. -/
theorem lookup_of_moves {rules : KeyringRules} {op : LifecycleOp D} {gen : Except WscdError V}
    {res : Except WscdError Unit} (hmove : Moves rules kidOf r op gen res r') {k : String} {v : V}
    (h : r'.keys.lookup k = some v) :
    r.keys.lookup k = some v ∨ (gen = .ok v ∧ kidOf v = k) := by
  have hstored {w : V} (hw : (r.store kidOf w).keys.lookup k = some v) :
      r.keys.lookup k = some v ∨ ((.ok w : Except WscdError V) = .ok v ∧ kidOf v = k) := by
    rcases lookup_of_store hw with hold | ⟨rfl, hkid⟩
    · exact .inl hold
    · exact .inr ⟨rfl, hkid⟩
  cases hmove with
  | refused => exact .inl h
  | generated => exact hstored h
  | deleted => exact .inl (lookup_of_purge h)
  | registered => exact hstored (lookup_of_purge h)
  | activated => exact .inl h
  | orphaned => exact hstored h
  | rotated => exact hstored h
  | destroyed =>
    rw [keys_setContext] at h
    split at h
    · exact .inl (lookup_of_sweep h)
    · exact .inl (lookup_of_purge h)

end Keyring

/-! ## A session -/

namespace Session

variable (B : LifecycleBackend P V D)

/-- The record `v` under `k` is one of those that the operations `ops` generate. -/
def Origin (ops : List (SessionOp D)) (k : String) (v : V) : Prop :=
  B.kidOf v = k ∧ ∃ op, .call op ∈ ops ∧ B.generated op = .ok v

/-- Every record has its origin in `ops`, in the plugin and in every export. -/
def Origins (ops : List (SessionOp D)) (s : Session P) : Prop :=
  ∀ r, s.Restorable B r → ∀ k v, r.keys.lookup k = some v → Origin B ops k v

variable {B} {ops : List (SessionOp D)} {s : Session P}

theorem Origins.plugin (h : s.Origins B ops) {k : String} {v : V}
    (hv : (B.keyring s.plugin).keys.lookup k = some v) : Origin B ops k v :=
  h _ (.inl rfl) k v hv

theorem Origins.step (hB : B.Refines) (h : s.Origins B ops) {op : SessionOp D} (hop : op ∈ ops) :
    (s.step B op).Origins B ops := by
  intro r hr k v hv
  rcases restorable_step hB (fun k v hv => (h.plugin hv).1) hr with hold | ⟨op', rfl, rfl⟩
  · exact h r hold k v hv
  · have hmove := LifecycleBackend.moves_apply hB.apply_eq op' s.plugin
    rcases Keyring.lookup_of_moves hmove hv with hold | ⟨hgen, hkid⟩
    · exact h.plugin hold
    · exact ⟨hkid, op', hop, hgen⟩

/-- Every record after a session is one that an operation of the session generated. -/
theorem origins (hB : B.Refines) {p : P} (hp : B.keyring p = ⟨∅, ∅⟩) (ops : List (SessionOp D)) :
    (run (step B) (start p) ops).Origins B ops := by
  refine run_invariant_of_mem (fun s op hop hs => hs.step hB hop) ?_
  rintro r (rfl | ⟨blob, hblob, -⟩) k v hv
  · rw [show B.keyring (start p).plugin = ⟨∅, ∅⟩ from hp] at hv
    cases (Finmap.lookup_empty k).symm.trans hv
  · exact absurd hblob List.not_mem_nil

/-- Restoring the export just taken. -/
theorem plugin_restore_exportState {blob : List UInt8} {q : P}
    (hexport : B.exportState s.plugin = .ok blob) (hfrom : B.fromState blob = .ok q) :
    (run (step B) s [.exportState, .restore s.exports.length]).plugin = q := by
  have hexports : (s.step B .exportState).exports = s.exports ++ [blob] := by
    simp only [step, exportsAfter, hexport]
  show (s.step B .exportState).pluginAfter B (.restore s.exports.length) = q
  unfold pluginAfter
  dsimp only
  rw [hexports, List.getElem?_concat_length, Option.map_some, hfrom]

end Session

/-! ## The fido2 plugin -/

namespace Fido2SignPlugin

open Fido2

/-- The plugin after a session that starts with a new one. -/
def afterSession (crypto : Fido2Crypto) (codec : Codec ExportedPluginState)
    (order : HashMap.IterOrder String StoredFidoKey) (ops : List (SessionOp Fido2.Draw)) :
    Fido2SignPlugin :=
  (run (Session.step (fido2Backend crypto codec order)) (Session.start new) ops).plugin

variable {crypto : Fido2Crypto} {codec : Codec ExportedPluginState}
  {order : HashMap.IterOrder String StoredFidoKey} {ops : List (SessionOp Fido2.Draw)}

theorem origin_afterSession (hcodec : codec.Lawful) {k : String} {key : StoredFidoKey}
    (h : (afterSession crypto codec order ops).keys.lookup k = some key) :
    key.kid = k ∧ ∃ op, .call op ∈ ops ∧ generated crypto op = .ok key :=
  (Session.origins (fido2Backend_refines crypto codec order hcodec) rfl ops).plugin h

end Fido2SignPlugin

end Wscd
