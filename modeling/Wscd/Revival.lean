import Wscd.KeyringPlugins

/-!
# Destroyed contexts

Neither the shared helpers nor the plugins look at the state a context is in before they move
it, so a destroyed context can be activated, and on the fido2 plugin rotated, back to life.
This module says exactly what brings a context back and what an active context without keys
has been through.

Results:
1. `Keyring.revived_of_moves`, `Keyring.emptied_of_moves`: what one step can do to a context.
2. `lifecycle_states`: the two statements about whole runs, for both plugins.
3. `destroyed_context_revives`: a destroyed context is activated without any key.
-/

namespace Wscd

open Lib

variable {P V D : Type}

/-! ## What an operation addresses -/

inductive ContextOp where
  | register
  | activate
  | rotate
  | destroy
  deriving DecidableEq, Repr

/-- The context an operation is on, and what it is to do with it. -/
def LifecycleOp.target : LifecycleOp D → Option (ContextOp × String)
  | .generateKey .. | .deleteKey _ => none
  | .registerLifecycle request _ _ => some (.register, request.contextId)
  | .activateLifecycle request _ => some (.activate, request.contextId)
  | .rotateLifecycle request _ _ => some (.rotate, request.contextId)
  | .destroyLifecycle request _ => some (.destroy, request.contextId)

/-! ## One step -/

namespace Keyring

/-- The context exists and is not destroyed. -/
def Alive (r : Keyring V) (c : String) : Prop :=
  ∃ ctx, r.contexts.lookup c = some ctx ∧ ctx.state ≠ .destroyed

/-- The context exists and owns no key. -/
def Emptied (r : Keyring V) (c : String) : Prop :=
  ∃ ctx, r.contexts.lookup c = some ctx ∧ ctx.keyIds = []

variable {rules : KeyringRules} {kidOf : V → String} {r r' : Keyring V} {op : LifecycleOp D}
  {gen : Except WscdError V} {res : Except WscdError Unit} {c : String}

theorem alive_setContext {c' : String} {ctx : LifecycleContext}
    (h : (r.setContext c' ctx).Alive c) :
    r.Alive c ∨ (c = c' ∧ ctx.state ≠ .destroyed) := by
  obtain ⟨ctx', hlookup, hstate⟩ := h
  rw [lookup_setContext] at hlookup
  split at hlookup
  · cases hlookup
    exact .inr ⟨‹_›, hstate⟩
  · exact .inl ⟨ctx', hlookup, hstate⟩

theorem emptied_setContext {c' : String} {ctx : LifecycleContext}
    (h : (r.setContext c' ctx).Emptied c) :
    (c ≠ c' ∧ r.Emptied c) ∨ (c = c' ∧ ctx.keyIds = []) := by
  obtain ⟨ctx', hlookup, hkids⟩ := h
  rw [lookup_setContext] at hlookup
  split at hlookup
  · cases hlookup
    exact .inr ⟨‹_›, hkids⟩
  · exact .inl ⟨‹_›, ctx', hlookup, hkids⟩

/-- What brings a context to life: a registration or an activation of it, or a rotation where
rotating leaves no context destroyed. -/
theorem revived_of_moves (h : Moves rules kidOf r op gen res r') (hdead : ¬ r.Alive c)
    (halive : r'.Alive c) :
    res = .ok () ∧ (op.target = some (.register, c) ∨ op.target = some (.activate, c) ∨
      (rules.rotated .destroyed ≠ .destroyed ∧ op.target = some (.rotate, c))) := by
  cases h with
  | refused => exact absurd halive hdead
  | generated => exact absurd halive hdead
  | deleted => exact absurd halive hdead
  | orphaned hlookup => exact absurd halive hdead
  | registered =>
    rcases alive_setContext halive with halive | ⟨rfl, -⟩
    · exact absurd halive hdead
    · exact ⟨rfl, .inl rfl⟩
  | activated hlookup =>
    rcases alive_setContext halive with halive | ⟨rfl, -⟩
    · exact absurd halive hdead
    · exact ⟨rfl, .inr (.inl rfl)⟩
  | @rotated request d now v ctx hlookup =>
    rcases alive_setContext halive with halive | ⟨rfl, hstate⟩
    · exact absurd halive hdead
    · -- the context was destroyed, so it is the rotation that moved it
      have hctx : ctx.state = .destroyed := by
        by_contra hne
        exact hdead ⟨ctx, hlookup, hne⟩
      rw [hctx] at hstate
      exact ⟨rfl, .inr (.inr ⟨hstate, rfl⟩)⟩
  | destroyed hlookup =>
    rcases alive_setContext halive with halive | ⟨-, hstate⟩
    · refine absurd ?_ hdead
      split at halive <;> exact halive
    · exact absurd rfl hstate

/-- Only a destruction empties a context. -/
theorem emptied_of_moves (h : Moves rules kidOf r op gen res r') (hfull : ¬ r.Emptied c)
    (hempty : r'.Emptied c) : res = .ok () ∧ op.target = some (.destroy, c) := by
  cases h with
  | refused => exact absurd hempty hfull
  | generated => exact absurd hempty hfull
  | deleted => exact absurd hempty hfull
  | orphaned hlookup => exact absurd hempty hfull
  | registered =>
    rcases emptied_setContext hempty with ⟨-, hempty⟩ | ⟨-, hkids⟩
    · exact absurd hempty hfull
    · cases hkids
  | activated hlookup =>
    rcases emptied_setContext hempty with ⟨-, hempty⟩ | ⟨rfl, hkids⟩
    · exact absurd hempty hfull
    · exact absurd ⟨_, hlookup, hkids⟩ hfull
  | rotated hlookup =>
    rcases emptied_setContext hempty with ⟨-, hempty⟩ | ⟨-, hkids⟩
    · exact absurd hempty hfull
    · exact absurd hkids (by simp)
  | destroyed hlookup =>
    rcases emptied_setContext hempty with ⟨-, hempty⟩ | ⟨rfl, -⟩
    · refine absurd ?_ hfull
      split at hempty <;> exact hempty
    · exact ⟨rfl, rfl⟩

/-- A registration and a rotation that succeed leave their context with a key. -/
theorem not_emptied_of_moves (h : Moves rules kidOf r op gen (.ok ()) r')
    (htarget : op.target = some (.register, c) ∨ op.target = some (.rotate, c)) :
    ¬ r'.Emptied c := by
  intro hempty
  generalize hres : (Except.ok () : Except WscdError Unit) = res at h
  cases h with
  | registered =>
    obtain ⟨rfl⟩ : c = _ := by simpa [LifecycleOp.target, eq_comm] using htarget
    rcases emptied_setContext hempty with ⟨hne, -⟩ | ⟨-, hkids⟩
    · exact hne rfl
    · cases hkids
  | rotated hlookup =>
    obtain ⟨rfl⟩ : c = _ := by simpa [LifecycleOp.target, eq_comm] using htarget
    rcases emptied_setContext hempty with ⟨hne, -⟩ | ⟨-, hkids⟩
    · exact hne rfl
    · exact absurd hkids (by simp)
  | refused => cases hres
  | orphaned => cases hres
  | generated => simp [LifecycleOp.target] at htarget
  | deleted => simp [LifecycleOp.target] at htarget
  | activated => simp [LifecycleOp.target] at htarget
  | destroyed => simp [LifecycleOp.target] at htarget

/-- A destruction that succeeds leaves its context dead. -/
theorem not_alive_of_moves (h : Moves rules kidOf r op gen (.ok ()) r')
    (htarget : op.target = some (.destroy, c)) : ¬ r'.Alive c := by
  generalize hres : (Except.ok () : Except WscdError Unit) = res at h
  cases h with
  | destroyed hlookup =>
    cases htarget
    rintro ⟨ctx, hctx, hstate⟩
    rw [lookup_setContext, if_pos rfl] at hctx
    cases hctx
    exact hstate rfl
  | refused => cases hres
  | orphaned => cases hres
  | generated => cases htarget
  | deleted => cases htarget
  | registered => cases htarget
  | activated => cases htarget
  | rotated => cases htarget

end Keyring

/-! ## Whole runs -/

namespace LifecycleBackend

variable (B : LifecycleBackend P V D)

/-- A plugin after a list of operations. -/
def runOps (p : P) (ops : List (LifecycleOp D)) : P := run (fun p op => (B.apply op p).2) p ops

/-- After the operations `before`, `op` does `what` to the context `c`, successfully. -/
def Does (p : P) (before : List (LifecycleOp D)) (op : LifecycleOp D) (what : ContextOp)
    (c : String) : Prop :=
  op.target = some (what, c) ∧ (B.apply op (B.runOps p before)).1 = .ok ()

/-- An active context without keys has been destroyed, and neither registered nor rotated
since. -/
def ActiveOwnsKeys (p : P) (ops : List (LifecycleOp D)) : Prop :=
  ∀ c ctx, (B.keyring (B.runOps p ops)).contexts.lookup c = some ctx → ctx.state = .active →
    ctx.keyIds = [] →
    ∃ pre op post, ops = pre ++ op :: post ∧ B.Does p pre op .destroy c ∧
      ∀ mid op' rest, post = mid ++ op' :: rest →
        ¬ B.Does p (pre ++ op :: mid) op' .register c ∧
        ¬ B.Does p (pre ++ op :: mid) op' .rotate c

/-- A context that has been destroyed is alive again only after a successful operation of one
of the given kinds on it. -/
def RevivedOnlyBy (revives : List ContextOp) (p : P) (ops : List (LifecycleOp D)) : Prop :=
  ∀ pre op post c, ops = pre ++ op :: post → B.Does p pre op .destroy c →
    (B.keyring (B.runOps p ops)).Alive c →
    ∃ mid op' rest what, post = mid ++ op' :: rest ∧ what ∈ revives ∧
      B.Does p (pre ++ op :: mid) op' what c

variable {B}

theorem runOps_append (p : P) (as bs : List (LifecycleOp D)) :
    B.runOps p (as ++ bs) = B.runOps (B.runOps p as) bs := run_append _ _ _ _

theorem runOps_concat (p : P) (as : List (LifecycleOp D)) (op : LifecycleOp D) :
    B.runOps p (as ++ [op]) = (B.apply op (B.runOps p as)).2 := run_append _ _ _ _

theorem activeOwnsKeys (hB : B.Simulates) {p : P} (hp : B.keyring p = ⟨∅, ∅⟩)
    (ops : List (LifecycleOp D)) : B.ActiveOwnsKeys p ops := by
  intro c ctx hlookup _ hkids
  have hstart : ¬ (B.keyring p).Emptied c := by
    rintro ⟨ctx', hctx', -⟩
    rw [hp] at hctx'
    exact nomatch (Finmap.lookup_empty c).symm.trans hctx'
  -- the last step that emptied the context, after which it stayed empty
  obtain ⟨pre, op, post, rfl, hpre, hpost⟩ :=
    exists_last_step_of_run (P := fun q => (B.keyring q).Emptied c) hstart ⟨ctx, hlookup, hkids⟩
  have hop := hpost [] post rfl
  have hmove := moves_apply hB op (B.runOps p pre)
  rw [← runOps_concat] at hmove
  obtain ⟨hok, htarget⟩ := Keyring.emptied_of_moves hmove hpre hop
  refine ⟨pre, op, post, rfl, ⟨htarget, hok⟩, fun mid op' rest heq => ?_⟩
  have hempty := hpost (mid ++ [op']) rest (by simp [heq])
  have hmove' := moves_apply hB op' (B.runOps p (pre ++ op :: mid))
  rw [← runOps_concat, List.append_assoc, List.cons_append] at hmove'
  constructor
  · rintro ⟨htarget', hok'⟩
    rw [hok'] at hmove'
    exact Keyring.not_emptied_of_moves hmove' (.inl htarget') hempty
  · rintro ⟨htarget', hok'⟩
    rw [hok'] at hmove'
    exact Keyring.not_emptied_of_moves hmove' (.inr htarget') hempty

/-- A destruction that succeeds leaves its context dead. -/
theorem not_alive_of_destroy (hB : B.Simulates) {p : P} {pre : List (LifecycleOp D)}
    {op : LifecycleOp D} {c : String} (h : B.Does p pre op .destroy c) :
    ¬ (B.keyring (B.runOps p (pre ++ [op]))).Alive c := by
  have hmove := moves_apply hB op (B.runOps p pre)
  rw [h.2, ← runOps_concat] at hmove
  exact Keyring.not_alive_of_moves hmove h.1

theorem revivedOnlyBy (hB : B.Simulates) (p : P) (ops : List (LifecycleOp D))
    {revives : List ContextOp} (hreg : .register ∈ revives) (hact : .activate ∈ revives)
    (hrot : B.rules.rotated .destroyed ≠ .destroyed → .rotate ∈ revives) :
    B.RevivedOnlyBy revives p ops := by
  rintro pre op post c rfl hdestroy halive
  have hdead := not_alive_of_destroy hB hdestroy
  have hops : pre ++ op :: post = (pre ++ [op]) ++ post := by simp
  rw [hops, runOps_append] at halive
  obtain ⟨mid, op', rest, rfl, hmid, hafter⟩ :=
    exists_last_step_of_run (P := fun q => (B.keyring q).Alive c) hdead halive
  have hstate : run (fun p op => (B.apply op p).2) (B.runOps p (pre ++ [op])) mid =
      B.runOps p (pre ++ op :: mid) :=
    (runOps_append p (pre ++ [op]) mid).symm.trans (by simp)
  have hmove := moves_apply hB op' (B.runOps p (pre ++ op :: mid))
  have hlater := hafter [] rest rfl
  rw [run_append, hstate] at hlater
  rw [hstate] at hmid
  obtain ⟨hok, htarget⟩ := Keyring.revived_of_moves hmove hmid hlater
  rcases htarget with htarget | htarget | ⟨hrule, htarget⟩
  · exact ⟨mid, op', rest, .register, rfl, hreg, htarget, hok⟩
  · exact ⟨mid, op', rest, .activate, rfl, hact, htarget, hok⟩
  · exact ⟨mid, op', rest, .rotate, rfl, hrot hrule, htarget, hok⟩

end LifecycleBackend

section Plugins

variable (crypto : SoftkeyCrypto) (codec : SoftkeyPlugin.ContainerCodec)
  (order : HashMap.IterOrder String Softkey.StoredKey)
  (fidoCrypto : Fido2Crypto) (fidoCodec : Codec Fido2.ExportedPluginState)
  (fidoOrder : HashMap.IterOrder String Fido2.StoredFidoKey)

/-- On both plugins, in every run: an active context without keys has been destroyed and
neither registered nor rotated since; and a destroyed context comes back by a registration or
an activation, on the fido2 plugin also by a rotation, and by nothing else. -/
theorem lifecycle_states :
    (∀ ops, (softkeyBackend crypto codec order).ActiveOwnsKeys .new ops ∧
      (softkeyBackend crypto codec order).RevivedOnlyBy [.register, .activate] .new ops) ∧
    (∀ ops, (fido2Backend fidoCrypto fidoCodec fidoOrder).ActiveOwnsKeys .new ops ∧
      (fido2Backend fidoCrypto fidoCodec fidoOrder).RevivedOnlyBy [.register, .activate, .rotate]
        .new ops) := by
  have hsoftkey := softkeyBackend_simulates crypto codec order
  have hfido2 := fido2Backend_simulates fidoCrypto fidoCodec fidoOrder
  constructor
  · intro ops
    exact ⟨LifecycleBackend.activeOwnsKeys hsoftkey rfl ops,
      LifecycleBackend.revivedOnlyBy hsoftkey _ ops (by decide) (by decide)
        fun hrule => absurd rfl hrule⟩
  · intro ops
    exact ⟨LifecycleBackend.activeOwnsKeys hfido2 rfl ops,
      LifecycleBackend.revivedOnlyBy hfido2 _ ops (by decide) (by decide) fun _ => by decide⟩

end Plugins

namespace LifecycleDemo

open LifecycleBackend SoftkeyHost TwoKeys

variable {B : LifecycleBackend P V D}

def registered (d : D) : List (LifecycleOp D) := [.registerLifecycle registerCtx d 0]

def destroyed (d : D) : List (LifecycleOp D) := registered d ++ [.destroyLifecycle destroyCtx 1]

/-- A registered context after its destruction: it is still there, without keys. -/
theorem lookup_destroyed (hB : B.Simulates) (p : P) {d : D} {v : V}
    (hgen : B.generated (.registerLifecycle registerCtx d 0) = .ok v) :
    B.Does p (registered d) (.destroyLifecycle destroyCtx 1) .destroy "ctx" ∧
      (B.keyring (B.runOps p (destroyed d))).contexts.lookup "ctx" =
        some ⟨.rawSign, .destroyed, 1, []⟩ := by
  have hregister : (B.keyring (B.runOps p (registered d))).contexts.lookup "ctx" =
      some ⟨.rawSign, .registered, 0, [⟨B.kidOf v⟩]⟩ := by
    show (B.keyring (B.apply _ p).2).contexts.lookup "ctx" = _
    rw [B.keyring_apply hB, hgen]
    exact (Keyring.lookup_setContext _ _ _ _).trans (if_pos rfl)
  have hdestroy := hB (.destroyLifecycle destroyCtx 1) (B.runOps p (registered d))
  simp only [Keyring.step, destroyCtx, hregister] at hdestroy
  refine ⟨⟨rfl, congrArg Prod.fst hdestroy⟩, ?_⟩
  rw [destroyed, runOps_concat]
  refine (congrArg (fun out => out.2.contexts.lookup "ctx") hdestroy).trans ?_
  exact (Keyring.lookup_setContext _ _ _ _).trans (if_pos rfl)

/-- A context is registered, destroyed and, by the operation `op` of the kind `what` that
succeeds, alive again, in the state and with the keys given. -/
def Revives (B : LifecycleBackend P V D) (p : P) (d : D) (op : LifecycleOp D) (what : ContextOp)
    (ctx : LifecycleContext) : Prop :=
  B.Does p (registered d) (.destroyLifecycle destroyCtx 1) .destroy "ctx" ∧
  B.Does p (destroyed d) op what "ctx" ∧
  (B.keyring (B.runOps p (destroyed d ++ [op]))).contexts.lookup "ctx" = some ctx

theorem revives_by_activation (hB : B.Simulates) (p : P) {d : D} {v : V}
    (hgen : B.generated (.registerLifecycle registerCtx d 0) = .ok v) :
    Revives B p d (.activateLifecycle activateCtx 2) .activate ⟨.rawSign, .active, 2, []⟩ := by
  obtain ⟨hdoes, hlookup⟩ := lookup_destroyed hB p hgen
  have hactivate := hB (.activateLifecycle activateCtx 2) (B.runOps p (destroyed d))
  simp only [Keyring.step, activateCtx, hlookup] at hactivate
  refine ⟨hdoes, ⟨rfl, congrArg Prod.fst hactivate⟩, ?_⟩
  rw [runOps_concat]
  refine (congrArg (fun out => out.2.contexts.lookup "ctx") hactivate).trans ?_
  exact (Keyring.lookup_setContext _ _ _ _).trans (if_pos rfl)

theorem revives_by_rotation (hB : B.Simulates) (p : P) {d d' : D} {v v' : V}
    (hgen : B.generated (.registerLifecycle registerCtx d 0) = .ok v)
    (hgen' : B.generated (.rotateLifecycle rotateCtx d' 2) = .ok v') :
    Revives B p d (.rotateLifecycle rotateCtx d' 2) .rotate
      ⟨.rawSign, B.rules.rotated .destroyed, 2, [⟨B.kidOf v'⟩]⟩ := by
  obtain ⟨hdoes, hlookup⟩ := lookup_destroyed hB p hgen
  have hrotate := hB (.rotateLifecycle rotateCtx d' 2) (B.runOps p (destroyed d))
  rw [hgen'] at hrotate
  simp only [Keyring.step, rotateCtx, hlookup] at hrotate
  refine ⟨hdoes, ⟨rfl, congrArg Prod.fst hrotate⟩, ?_⟩
  rw [runOps_concat]
  refine (congrArg (fun out => out.2.contexts.lookup "ctx") hrotate).trans ?_
  exact (Keyring.lookup_setContext _ _ _ _).trans (if_pos rfl)

theorem generated_ctx :
    fido2Two.generated (.registerLifecycle registerCtx (drawOf basePoint) 0) =
      .ok (recordOf basePoint kidOne) := draw_basePoint

theorem generated_rotation :
    fido2Two.generated (.rotateLifecycle rotateCtx (drawOf doublePoint) 2) =
      .ok (recordOf doublePoint kidTwo) := draw_doublePoint

/-- On both plugins an activation brings a destroyed context back without any key, and on the
fido2 plugin so does a rotation, with a key. -/
theorem destroyed_context_revives :
    Revives softkeyOne .new drawOne (.activateLifecycle activateCtx 2) .activate
      ⟨.rawSign, .active, 2, []⟩ ∧
    Revives fido2Two .new (drawOf basePoint) (.activateLifecycle activateCtx 2)
      .activate ⟨.rawSign, .active, 2, []⟩ ∧
    Revives fido2Two .new (drawOf basePoint)
      (.rotateLifecycle rotateCtx (drawOf doublePoint) 2) .rotate
      ⟨.rawSign, .registered, 2, [kidTwo]⟩ :=
  ⟨revives_by_activation softkeyOne_refines.apply_eq _ draw_drawOne,
    revives_by_activation fido2Two_refines.apply_eq _ generated_ctx,
    revives_by_rotation fido2Two_refines.apply_eq _ generated_ctx generated_rotation⟩

end LifecycleDemo

end Wscd
