import Wscd.Level
import Wscd.Operations
import Wscd.Plugins.FixedKid

/-!
# No key is re-routed silently

`KeepsBindings sys sys'` is what the manager's no-overwrite guard is for: between the two
systems every binding stayed, unless its key was deleted in between. The guard stands in
`bind_keys` and in `generate_key_on`; `migrate_key` inserts without one.

Results:
1. `keepsBindings_apply`: every operation keeps it, a migration when the imported kid is
   free or already the target's.
2. `neverMovesSilently_of_migratesFreely`: so does a run of such operations.
3. `migration_moves_key`: a migration to a kid that is bound elsewhere moves that key.
-/

namespace Wscd

open Lib

/-- A `delete_key(kid)` among the calls has succeeded. -/
def DeletedIn (kid : KeyId) (calls : List Call) : Prop :=
  ∃ c ∈ calls, c.method = .deleteKey kid ∧ c.ok = true

namespace Sys

variable {S E : Type}

/-- Every binding stayed, unless its key was deleted in between. -/
def KeepsBindings (sys sys' : Sys S E) : Prop :=
  ∃ new, sys'.calls = sys.calls ++ new ∧ ∀ kid id, sys.manager.boundTo kid = some id →
    sys'.manager.boundTo kid = some id ∨ DeletedIn kid new

namespace KeepsBindings

theorem of_eq {sys sys' : Sys S E} (hcalls : ∃ new, sys'.calls = sys.calls ++ new)
    (h : sys'.manager.config = sys.manager.config) : KeepsBindings sys sys' := by
  obtain ⟨new, hnew⟩ := hcalls
  refine ⟨new, hnew, fun kid id hb => .inl ?_⟩
  rwa [WscdManager.boundTo, h]

theorem refl (sys : Sys S E) : KeepsBindings sys sys :=
  .of_eq ⟨[], (List.append_nil _).symm⟩ rfl

theorem trans {sys sys' sys'' : Sys S E} (h : KeepsBindings sys sys')
    (h' : KeepsBindings sys' sys'') : KeepsBindings sys sys'' := by
  obtain ⟨new, hnew, hkeep⟩ := h
  obtain ⟨new', hnew', hkeep'⟩ := h'
  refine ⟨new ++ new', by rw [hnew', hnew, List.append_assoc], fun kid id hb => ?_⟩
  rcases hkeep kid id hb with hb' | ⟨c, hc, hdel⟩
  · rcases hkeep' kid id hb' with hb'' | ⟨c, hc, hdel⟩
    · exact .inl hb''
    · exact .inr ⟨c, List.mem_append_right _ hc, hdel⟩
  · exact .inr ⟨c, List.mem_append_left _ hc, hdel⟩

theorem of_call {α : Type} {sys sys' : Sys S E} {p : Plugin S} {method : Method}
    {f : PluginM S E α} {r : Except WscdError α} (h : sys.call p method f = (r, sys')) :
    KeepsBindings sys sys' := by
  refine .of_eq ⟨[⟨p.id, method, (f (sys.current p) sys.env).1.isOk⟩], ?_⟩ (config_of_call h)
  rw [← call_calls sys p method f, h]

/-- The guarded insertion: the kid is free or already bound to the plugin. -/
theorem bind {sys sys' : Sys S E} (h : KeepsBindings sys sys') {kid : KeyId} {id : String}
    (hguard : ∀ existing, sys'.manager.boundTo kid = some existing → existing = id) :
    KeepsBindings sys (sys'.bind kid id) := by
  refine h.trans ⟨[], (List.append_nil _).symm, fun k existing hb => .inl ?_⟩
  show (Finmap.insert kid id sys'.manager.config.keyBindings).lookup k = some existing
  rw [HashMap.lookup_insert_eq_ite]
  split
  · subst k
    rw [hguard existing hb]
  · exact hb

/-- A successful deletion gives up the binding of its key. -/
theorem of_delete {sys sys' : Sys S E} {p : Plugin S} {kid : KeyId} {f : PluginM S E Unit}
    (h : sys.call p (.deleteKey kid) f = (.ok (), sys')) :
    KeepsBindings sys (sys'.unbind kid) := by
  refine ⟨[⟨p.id, .deleteKey kid, true⟩], ?_, fun k id hb => ?_⟩
  · show sys'.calls = _
    have hcalls := call_calls sys p (.deleteKey kid) f
    rw [fst_of_call h, h] at hcalls
    exact hcalls
  · by_cases hk : k = kid
    · subst hk
      exact .inr ⟨_, List.mem_singleton_self _, rfl, rfl⟩
    · left
      show (Finmap.erase kid sys'.manager.config.keyBindings).lookup k = some id
      rw [HashMap.lookup_erase_eq_ite, if_neg hk, config_of_call h]
      exact hb

end KeepsBindings

/-! ## The operations -/

theorem keepsBindings_bindKeys (sys : Sys S E) (pluginId : String) (kids : List KeyId) :
    KeepsBindings sys (sys.bindKeys pluginId kids).2 := by
  refine WscdManager.bindKeys_invariant (I := fun m => KeepsBindings sys { sys with manager := m })
    pluginId ?_ (.refl sys)
  intro m kid _ hm hguard
  exact hm.bind hguard

variable [WscdPlugin S E]

theorem keepsBindings_generateKeyOn (sys : Sys S E) (plugin : Plugin S) (algorithm : Algorithm) :
    KeepsBindings sys (sys.generateKeyOn plugin algorithm).2 := by
  unfold generateKeyOn
  cases hg : sys.call plugin (.generateKey algorithm) (WscdPlugin.generateKey algorithm) with
  | mk r sys₁ =>
    have hcall := KeepsBindings.of_call hg
    cases r with
    | error e => exact hcall
    | ok g =>
      dsimp only
      cases hb : sys₁.manager.config.keyBindings.lookup g.kid with
      | none =>
        refine hcall.bind fun existing h => ?_
        cases hb.symm.trans h
      | some existing =>
        by_cases hex : existing = plugin.id
        · simp only [hex, ne_eq, not_true_eq_false, if_false]
          refine hcall.bind fun other h => ?_
          cases hb.symm.trans h
          exact hex
        · simp only [ne_eq, hex, not_false_eq_true, if_true]
          exact hcall

theorem keepsBindings_generateKey (sys : Sys S E) (algorithm : Algorithm) :
    KeepsBindings sys (sys.generateKey algorithm).2 := by
  unfold generateKey
  cases sys.manager.resolveForGenerate with
  | error e => exact .refl sys
  | ok plugin => exact keepsBindings_generateKeyOn sys plugin algorithm

theorem keepsBindings_generateKeyWithPlugin (sys : Sys S E) (pluginId : String)
    (algorithm : Algorithm) :
    KeepsBindings sys (sys.generateKeyWithPlugin pluginId algorithm).2 := by
  unfold generateKeyWithPlugin
  cases sys.manager.getPlugin pluginId with
  | error e => exact .refl sys
  | ok plugin => exact keepsBindings_generateKeyOn sys plugin algorithm

theorem keepsBindings_deleteKey (sys : Sys S E) (kid : KeyId) :
    KeepsBindings sys (sys.deleteKey kid).2 := by
  unfold deleteKey
  cases sys.manager.resolveForKey kid "delete" with
  | error e => exact .refl sys
  | ok plugin =>
    dsimp only
    cases hd : sys.call plugin (.deleteKey kid) (WscdPlugin.deleteKey kid) with
    | mk r sys₁ =>
      cases r with
      | error e => exact .of_call hd
      | ok u => exact .of_delete hd

omit [WscdPlugin S E] in
theorem keepsBindings_onPlugin {α : Type} (sys : Sys S E) (pluginId : String) (method : Method)
    (f : PluginM S E α) : KeepsBindings sys (sys.onPlugin pluginId method f).2 := by
  unfold onPlugin
  cases sys.manager.getPlugin pluginId with
  | error e => exact .refl sys
  | ok plugin => exact .of_call rfl

omit [WscdPlugin S E] in
/-- An operation that resolves the key's plugin and makes one call. -/
theorem keepsBindings_resolved {α : Type} (sys : Sys S E)
    (plugin : Except WscdError (Plugin S)) (method : Method) (f : PluginM S E α) :
    KeepsBindings sys (match (motive := _ → Except WscdError α × Sys S E) plugin with
      | .error e => (.error e, sys)
      | .ok plugin => sys.call plugin method f).2 := by
  cases plugin with
  | error e => exact .refl sys
  | ok plugin => exact .of_call rfl

theorem keepsBindings_migrationPath {sys sys' : Sys S E} {kid : KeyId} {targetPluginId : String}
    {r : Except WscdError MigrationResult} (h : MigrationPath sys kid targetPluginId r sys') :
    KeepsBindings sys sys' := by
  cases h with
  | stopped _ => exact .refl sys
  | exportFailed _ h₁ => exact .of_call h₁
  | listed _ h₁ h₂ => exact (KeepsBindings.of_call h₁).trans (.of_call h₂)
  | imported _ _ h₁ h₂ h₃ =>
    exact ((KeepsBindings.of_call h₁).trans (.of_call h₂)).trans (.of_call h₃)

/-- The kid a migration's target answers with is free, or already bound to the target. -/
def ImportsFreely (sys : Sys S E) (kid : KeyId) (targetPluginId : String) : Prop :=
  ∀ newKid, (sys.importForMigration kid targetPluginId).1 = .ok (.migrated newKid) →
    ∀ existing, sys.manager.boundTo newKid = some existing → existing = targetPluginId

theorem keepsBindings_migrateKey (sys : Sys S E) (kid : KeyId) (targetPluginId : String)
    (hfree : ImportsFreely sys kid targetPluginId) :
    KeepsBindings sys (sys.migrateKey kid targetPluginId).2 := by
  have hpath := importForMigration_path sys kid targetPluginId
  unfold migrateKey
  unfold ImportsFreely at hfree
  cases h : sys.importForMigration kid targetPluginId with
  | mk r sys' =>
    rw [h] at hpath hfree
    have hkeeps := keepsBindings_migrationPath hpath
    cases r with
    | error e => exact hkeeps
    | ok result =>
      cases result with
      | reEnrollmentRequired oldKid => exact hkeeps
      | migrated newKid =>
        refine hkeeps.bind fun existing hb => hfree newKid rfl existing ?_
        rwa [WscdManager.boundTo, ← hpath.config]

/-- Trying a candidate: its fresh key is bound under the guard, and unbound only once it is
deleted. -/
theorem keepsBindings_attempted {required : CertificationLevel} {algorithm : Algorithm}
    {c : String} {sys sys' : Sys S E} {o : Outcome}
    (h : Attempted required algorithm c sys o sys') : KeepsBindings sys sys' := by
  have hbind : ∀ {p g sys₁}, sys.call p (.generateKey algorithm)
      (WscdPlugin.generateKey algorithm) = (.ok g, sys₁) →
      (∀ existing, sys.manager.boundTo g.kid = some existing → existing = c) →
      KeepsBindings sys (sys₁.bind g.kid c) := by
    intro p g sys₁ hg hfree
    refine (KeepsBindings.of_call hg).bind fun existing h => hfree existing ?_
    rwa [WscdManager.boundTo, ← config_of_call hg]
  cases h with
  | unresolved _ => exact .refl sys
  | generateFailed _ hg => exact .of_call hg
  | collided _ hg _ _ => exact .of_call hg
  | kept _ hg hfree hs _ => exact (hbind hg hfree).trans (.of_call hs)
  | discarded _ hg hfree hs _ hd =>
    exact ((hbind hg hfree).trans (.of_call hs)).trans (.of_delete hd)
  | undeletable _ hg hfree hs _ hd =>
    exact ((hbind hg hfree).trans (.of_call hs)).trans (.of_call hd)

/-! ## Runs -/

/-- The condition on one operation: a migration imports to a free kid. -/
def MigratesFreely (sys : Sys S E) : Op S → Prop
  | .migrateKey kid targetPluginId => ImportsFreely sys kid targetPluginId
  | _ => True

theorem keepsBindings_apply (sys : Sys S E) (op : Op S) (h : MigratesFreely sys op) :
    KeepsBindings sys (sys.apply op) := by
  cases op with
  | registerPlugin plugin => exact .of_eq ⟨[], (List.append_nil _).symm⟩ rfl
  | bindKeys pluginId kids => exact keepsBindings_bindKeys sys pluginId kids
  | generateKey algorithm => exact keepsBindings_generateKey sys algorithm
  | generateKeyWithPlugin pluginId algorithm =>
    exact keepsBindings_generateKeyWithPlugin sys pluginId algorithm
  | generateKeyForLevel required candidates algorithm =>
    exact generateKeyForLevel_invariant (I := KeepsBindings sys)
      (fun _ _ _ _ hI hattempt => hI.trans (keepsBindings_attempted hattempt)) (.refl sys)
      candidates
  | migrateKey kid targetPluginId => exact keepsBindings_migrateKey sys kid targetPluginId h
  | deleteKey kid => exact keepsBindings_deleteKey sys kid
  | sign kid data algorithm => exact keepsBindings_resolved sys _ _ _
  | attestationChain kid => exact keepsBindings_resolved sys _ _ _
  | exportPublicKey kid => exact keepsBindings_resolved sys _ _ _
  | securityProperties kid => exact keepsBindings_resolved sys _ _ _
  | lifecycleStatus pluginId contextId => exact keepsBindings_onPlugin sys _ _ _
  | registerLifecycle request => exact keepsBindings_onPlugin sys _ _ _
  | activateLifecycle request => exact keepsBindings_onPlugin sys _ _ _
  | rotateLifecycle request => exact keepsBindings_onPlugin sys _ _ _
  | destroyLifecycle request => exact keepsBindings_onPlugin sys _ _ _

theorem run_keepsBindings {sys : Sys S E} {ops : List (Op S)}
    (h : Along apply MigratesFreely sys ops) : KeepsBindings sys (run apply sys ops) := by
  refine run_invariant (I := KeepsBindings sys) ?_ (.refl sys) h
  intro sys' op hI hop
  exact hI.trans (keepsBindings_apply sys' op hop)

/-- Between any two points of the run a binding moves to another plugin only if its key was
deleted in between. -/
def NeverMovesSilently (sys : Sys S E) (ops : List (Op S)) : Prop :=
  ∀ before after, ops = before ++ after → ∀ kid id id',
    (run apply sys before).manager.boundTo kid = some id →
    (run apply sys ops).manager.boundTo kid = some id' → id' ≠ id →
    ∃ new, (run apply sys ops).calls = (run apply sys before).calls ++ new ∧ DeletedIn kid new

/-- No operation silently re-routes an existing key, as long as no migration imports to a kid
that another plugin is bound to. -/
theorem neverMovesSilently_of_migratesFreely {sys : Sys S E} {ops : List (Op S)}
    (h : Along apply MigratesFreely sys ops) : NeverMovesSilently sys ops := by
  rintro before after rfl kid id id' hid hid' hne
  rw [run_append] at hid' ⊢
  obtain ⟨new, hnew, hkeep⟩ := run_keepsBindings (along_append.mp h).2
  refine ⟨new, hnew, ?_⟩
  rcases hkeep kid id hid with hsame | hdel
  · exact absurd (Option.some.inj (hid'.symm.trans hsame)) hne
  · exact hdel

/-- A run that moves `same` from `a` to `b`: a migration that fails, the deletion of `same`,
a generation on `b`. -/
theorem neverMovesSilently_collisionSys :
    NeverMovesSilently collisionSys
      [.migrateKey ⟨"same"⟩ "a", .deleteKey ⟨"same"⟩, .generateKeyWithPlugin "b" .es256] := by
  refine neverMovesSilently_of_migratesFreely ⟨?_, trivial, trivial, trivial⟩
  intro newKid h
  have hrun : (collisionSys.importForMigration ⟨"same"⟩ "a").1 =
      .error (.plugin "the key is already there") := by rfl
  cases hrun.symm.trans h

/-- A migration to a target that answers with a kid bound elsewhere moves that key. -/
theorem migration_moves_key : ¬ NeverMovesSilently collisionSys [.migrateKey ⟨"same"⟩ "b"] := by
  intro h
  obtain ⟨new, hcalls, c, hc, hmethod, -⟩ := h [] _ rfl ⟨"same"⟩ "a" "b" rfl rfl (by decide)
  have hrun : (run apply collisionSys [.migrateKey ⟨"same"⟩ "b"]).calls =
      [⟨"a", .exportPublicKey ⟨"same"⟩, true⟩, ⟨"a", .listKeys, true⟩,
        ⟨"b", .importKey .es256, true⟩] := by rfl
  obtain rfl : new = _ := (List.nil_append new).symm.trans (hcalls.symm.trans hrun)
  revert hmethod
  simp only [List.mem_cons, List.not_mem_nil, or_false] at hc
  rcases hc with rfl | rfl | rfl <;> decide

end Sys

end Wscd
