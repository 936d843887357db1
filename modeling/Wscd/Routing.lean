import Wscd.Level
import Wscd.LevelCleanup
import Wscd.Operations
import Wscd.Plugins.Softkey

/-!
# A created key is routed to its plugin

A key reaches its plugin through its binding, or because every fallback of the resolution
chain is that plugin. `KidContract` states what the plugins promise: a plugin creates keys
only where the manager is told of them, except in `register_lifecycle` and
`rotate_lifecycle`, and the kids of different plugins are different. `RoutingInv` follows one
key through a run.

Results:
1. `routingInv_apply`: every operation keeps the invariant, a lifecycle operation when it
   creates no unbound key or its plugin is the universal fallback.
2. `created_key_is_routed`: a key created in a run of such operations, and still held, is
   routed to its plugin under every operation name.
3. `lifecycle_key_is_not_routed`: the key of a softkey context is not.
-/

namespace Wscd

open Lib

/-- Every fallback of the resolution chain is the plugin `id`. -/
def WscdConfig.Fallback (config : WscdConfig) (id : String) : Prop :=
  config.defaultPlugin = id ∧ ∀ op v, config.operationDefaults.lookup op = some v → v = id

section Contract

variable {S E : Type} [WscdPlugin S E]

/-- A method that keeps the plugin's own promise and adds no key. -/
def AddsNoKey {α : Type} (inv : S → Finset KeyId) (Good : String → S → Prop)
    (f : PluginM S E α) : Prop :=
  ∀ id self env, Good id self → Good id (f self env).2.1 ∧ inv (f self env).2.1 ⊆ inv self

/-- A method that may add the one key it answers with, a key of this plugin. -/
def AddsItsAnswer {α : Type} (inv : S → Finset KeyId) (Good : String → S → Prop)
    (kid? : α → Option KeyId) (f : PluginM S E α) : Prop :=
  ∀ id self env, Good id self → Good id (f self env).2.1 ∧
    ∀ k ∈ inv (f self env).2.1, k ∈ inv self ∨
      ∃ a, (f self env).1 = .ok a ∧ kid? a = some k

/-- What the plugins promise about their keys. `Good id self` is the invariant of the plugin
`id`, and `owner` says which plugin a kid belongs to. -/
structure KidContract (inv : S → Finset KeyId) (owner : KeyId → String)
    (Good : String → S → Prop) : Prop where
  owned : ∀ id self, Good id self → ∀ k ∈ inv self, owner k = id
  generateKey : ∀ algorithm, AddsItsAnswer (S := S) inv Good
    (fun g : GeneratedKey => some g.kid) (WscdPlugin.generateKey algorithm)
  generateKey_owner : ∀ id algorithm self env g, Good id self →
    (WscdPlugin.generateKey (S := S) algorithm self env).1 = .ok g → owner g.kid = id
  importKey : ∀ algorithm, AddsItsAnswer (S := S) inv Good
    (fun | .migrated kid => some kid | .reEnrollmentRequired _ => none)
    (WscdPlugin.importKey algorithm)
  importKey_owner : ∀ id algorithm self env kid, Good id self →
    (WscdPlugin.importKey (S := S) algorithm self env).1 = .ok (.migrated kid) → owner kid = id
  deleteKey : ∀ kid, AddsNoKey (S := S) inv Good (WscdPlugin.deleteKey kid)
  deleteKey_ok : ∀ id kid self env, Good id self →
    (WscdPlugin.deleteKey (S := S) kid self env).1 = .ok () →
    kid ∉ inv (WscdPlugin.deleteKey (S := S) kid self env).2.1
  sign : ∀ kid data algorithm, AddsNoKey (S := S) inv Good (WscdPlugin.sign kid data algorithm)
  listKeys : AddsNoKey (S := S) inv Good WscdPlugin.listKeys
  attestationChain : ∀ kid, AddsNoKey (S := S) inv Good (WscdPlugin.attestationChain kid)
  exportPublicKey : ∀ kid, AddsNoKey (S := S) inv Good (WscdPlugin.exportPublicKey kid)
  lifecycleStatus : ∀ contextId, AddsNoKey (S := S) inv Good
    (WscdPlugin.lifecycleStatus contextId)
  activateLifecycle : ∀ request, AddsNoKey (S := S) inv Good
    (WscdPlugin.activateLifecycle request)
  destroyLifecycle : ∀ request, AddsNoKey (S := S) inv Good (WscdPlugin.destroyLifecycle request)
  /-- These two may add a key, of which the manager learns nothing. -/
  registerLifecycle : ∀ id request self env, Good id self →
    Good id (WscdPlugin.registerLifecycle (S := S) request self env).2.1
  rotateLifecycle : ∀ id request self env, Good id self →
    Good id (WscdPlugin.rotateLifecycle (S := S) request self env).2.1

end Contract

namespace Sys

variable {S E : Type} {inv : S → Finset KeyId} {owner : KeyId → String} {Good : String → S → Prop}

/-- The keys `T` along a run, each with its plugin: while the plugin holds the key, it is bound
to the plugin or reaches it by every fallback. -/
structure RoutingInv (inv : S → Finset KeyId) (owner : KeyId → String) (Good : String → S → Prop)
    (T : Set (KeyId × String)) (sys : Sys S E) : Prop where
  good : ∀ id p, sys.manager.plugins.lookup id = some p → Good id p.self
  bound : ∀ kid id, sys.manager.boundTo kid = some id → owner kid = id
  registered : ∀ k id, (k, id) ∈ T → sys.registered id = true
  routed : ∀ k id, (k, id) ∈ T → k ∈ sys.inventory inv id →
    sys.manager.boundTo k = some id ∨ sys.manager.config.Fallback id

variable {T : Set (KeyId × String)}

theorem good_current {sys : Sys S E} (h : RoutingInv inv owner Good T sys) {p : Plugin S}
    (hp : sys.registered p.id = true) : Good p.id (sys.current p) := by
  obtain ⟨q, hq⟩ := Option.isSome_iff_exists.mp hp
  rw [current_of_lookup hq]
  exact h.good p.id q hq

/-- The invariant after a call on `p` and whatever it did to the bindings. -/
theorem RoutingInv.of_plugins {α : Type} {sys sys' : Sys S E} {p : Plugin S} {method : Method}
    {f : PluginM S E α} (h : RoutingInv inv owner Good T sys)
    (hplugins : sys'.manager.plugins = (sys.call p method f).2.manager.plugins)
    (hgood : Good p.id (f (sys.current p) sys.env).2.1)
    (hbound : ∀ kid id, sys'.manager.boundTo kid = some id → owner kid = id)
    (hrouted : ∀ k id, (k, id) ∈ T → k ∈ Function.update (sys.inventory inv) p.id
        (inv (f (sys.current p) sys.env).2.1) id →
      sys'.manager.boundTo k = some id ∨ sys'.manager.config.Fallback id) :
    RoutingInv inv owner Good T sys' where
  good id' q hq := by
    rw [hplugins, call_lookup] at hq
    split at hq
    · subst id'
      cases hq
      exact hgood
    · exact h.good id' q hq
  bound := hbound
  registered k id hT := by
    have hreg := registered_call sys p method f id
    unfold Sys.registered at hreg ⊢
    rw [hplugins, hreg]
    exact Bool.or_eq_true_iff.mpr (.inl (h.registered k id hT))
  routed k id hT hk := by
    refine hrouted k id hT ?_
    have hinv : sys'.inventory inv = (sys.call p method f).2.inventory inv := by
      unfold inventory
      rw [hplugins]
    have hupdate : (sys.call p method f).2.inventory inv = Function.update (sys.inventory inv)
        p.id (inv (f (sys.current p) sys.env).2.1) :=
      inventory_of_call (Prod.mk.eta.symm : sys.call p method f = _)
    rwa [hinv, hupdate] at hk

/-- A key that was there before a call, on `id` or elsewhere, is routed as before. -/
theorem RoutingInv.routed_update {sys : Sys S E} (h : RoutingInv inv owner Good T sys)
    {k : KeyId} {id : String} (hT : (k, id) ∈ T) {p : Plugin S}
    (hp : sys.registered p.id = true) {held : Finset KeyId}
    (hk : k ∈ Function.update (sys.inventory inv) p.id held id) :
    (sys.manager.boundTo k = some id ∨ sys.manager.config.Fallback id) ∨
      (p.id = id ∧ k ∈ held ∧ k ∉ inv (sys.current p)) := by
  by_cases hid : p.id = id
  · subst hid
    rw [Function.update_self] at hk
    by_cases hold : k ∈ inv (sys.current p)
    · exact .inl (h.routed k p.id hT (inventory_eq_current inv hp ▸ hold))
    · exact .inr ⟨rfl, hk, hold⟩
  · rw [Function.update_of_ne fun he => hid he.symm] at hk
    exact .inl (h.routed k id hT hk)

theorem fallback_of_call {α : Type} {sys sys' : Sys S E} {p : Plugin S} {method : Method}
    {f : PluginM S E α} {r : Except WscdError α} (h : sys.call p method f = (r, sys'))
    (id : String) : sys'.manager.config.Fallback id ↔ sys.manager.config.Fallback id := by
  rw [config_of_call h]

/-- A call that adds no key to its plugin. -/
theorem RoutingInv.of_quiet_call {α : Type} {sys sys' : Sys S E} {p : Plugin S} {method : Method}
    {f : PluginM S E α} {r : Except WscdError α} (h : RoutingInv inv owner Good T sys)
    (hp : sys.registered p.id = true) (hcall : sys.call p method f = (r, sys'))
    (hgood : Good p.id (f (sys.current p) sys.env).2.1)
    (hquiet : ∀ k, k ∈ inv (f (sys.current p) sys.env).2.1 → k ∉ inv (sys.current p) →
      sys.manager.boundTo k = some p.id ∨ sys.manager.config.Fallback p.id) :
    RoutingInv inv owner Good T sys' := by
  have hplugins : sys'.manager.plugins = (sys.call p method f).2.manager.plugins := by rw [hcall]
  refine h.of_plugins hplugins hgood (fun k id hk => ?_) fun k id hT hk => ?_
  · rw [boundTo_of_call hcall] at hk
    exact h.bound k id hk
  · rw [boundTo_of_call hcall, fallback_of_call hcall]
    rcases h.routed_update hT hp hk with hold | ⟨rfl, hnew, hfresh⟩
    · exact hold
    · exact hquiet k hnew hfresh

theorem RoutingInv.of_addsNoKey {α : Type} {sys sys' : Sys S E} {p : Plugin S} {method : Method}
    {f : PluginM S E α} {r : Except WscdError α} (h : RoutingInv inv owner Good T sys)
    (hf : AddsNoKey inv Good f) (hp : sys.registered p.id = true)
    (hcall : sys.call p method f = (r, sys')) : RoutingInv inv owner Good T sys' := by
  obtain ⟨hgood, hsub⟩ := hf p.id (sys.current p) sys.env (good_current h hp)
  exact h.of_quiet_call hp hcall hgood fun _ hnew hfresh => absurd (hsub hnew) hfresh

/-- A call that adds only the key it answers with, and answers with none. -/
theorem RoutingInv.of_no_answer {α : Type} {sys sys' : Sys S E} {p : Plugin S} {method : Method}
    {f : PluginM S E α} {kid? : α → Option KeyId} {r : Except WscdError α}
    (h : RoutingInv inv owner Good T sys) (hf : AddsItsAnswer inv Good kid? f)
    (hp : sys.registered p.id = true) (hcall : sys.call p method f = (r, sys'))
    (hr : ∀ a, r = .ok a → kid? a = none) : RoutingInv inv owner Good T sys' := by
  obtain ⟨hgood, hadds⟩ := hf p.id (sys.current p) sys.env (good_current h hp)
  refine h.of_quiet_call hp hcall hgood fun k hnew hfresh => ?_
  rcases hadds k hnew with hold | ⟨a, ha, hk⟩
  · exact absurd hold hfresh
  · rw [hr a ((fst_of_call hcall).symm.trans ha)] at hk
    cases hk

/-- A call that adds the key it answers with, whose kid is then bound to the plugin. -/
theorem RoutingInv.of_bound_call {α : Type} {sys sys' : Sys S E} {p : Plugin S} {method : Method}
    {f : PluginM S E α} {kid? : α → Option KeyId} {a : α} {kid : KeyId}
    (h : RoutingInv inv owner Good T sys) (hf : AddsItsAnswer inv Good kid? f)
    (hp : sys.registered p.id = true) (hcall : sys.call p method f = (.ok a, sys'))
    (hkid : kid? a = some kid) (howner : owner kid = p.id) :
    RoutingInv inv owner Good T (sys'.bind kid p.id) := by
  obtain ⟨hgood, hadds⟩ := hf p.id (sys.current p) sys.env (good_current h hp)
  have hplugins :
      (sys'.bind kid p.id).manager.plugins = (sys.call p method f).2.manager.plugins := by
    rw [hcall]
    rfl
  have hlookup (j : KeyId) : (sys'.bind kid p.id).manager.boundTo j =
      if j = kid then some p.id else sys.manager.boundTo j := by
    rw [← boundTo_of_call hcall j]
    exact sys'.manager.boundTo_bind j kid p.id
  have hfallback (id : String) : (sys'.bind kid p.id).manager.config.Fallback id ↔
      sys.manager.config.Fallback id := fallback_of_call hcall id
  refine h.of_plugins hplugins hgood ?_ fun k id hT hk => ?_
  · intro j id' hj
    rw [hlookup] at hj
    split at hj
    · subst j
      cases hj
      exact howner
    · exact h.bound j id' hj
  · rw [hlookup, hfallback]
    rcases h.routed_update hT hp hk with (hb | hall) | ⟨hid, hnew, hfresh⟩
    · left
      split
      · -- the key was routed here before: a kid belongs to one plugin
        subst k
        rw [← howner, h.bound kid id hb]
      · exact hb
    · exact .inr hall
    · rcases hadds k hnew with hold | ⟨a', ha', hk'⟩
      · exact absurd hold hfresh
      · cases (fst_of_call hcall).symm.trans ha'
        cases hkid.symm.trans hk'
        rw [if_pos rfl, hid]
        exact .inl rfl

/-! ## The operations -/

variable [WscdPlugin S E]

theorem routingInv_generateKeyOn (contract : KidContract (S := S) inv owner Good) {sys : Sys S E}
    (h : RoutingInv inv owner Good T sys) {plugin : Plugin S}
    (hp : sys.registered plugin.id = true) (algorithm : Algorithm) :
    RoutingInv inv owner Good T (sys.generateKeyOn plugin algorithm).2 := by
  unfold generateKeyOn
  cases hg : sys.call plugin (.generateKey algorithm) (WscdPlugin.generateKey algorithm) with
  | mk r sys₁ =>
    cases r with
    | error e => exact h.of_no_answer (contract.generateKey algorithm) hp hg nofun
    | ok g =>
      have howner := contract.generateKey_owner plugin.id algorithm (sys.current plugin) sys.env g
        (good_current h hp) (fst_of_call hg)
      have hbind := h.of_bound_call (contract.generateKey algorithm) hp hg rfl howner
      dsimp only
      cases hb : sys₁.manager.config.keyBindings.lookup g.kid with
      | none => exact hbind
      | some existing =>
        have hex : existing = plugin.id := by
          rw [config_of_call hg] at hb
          rw [← h.bound g.kid existing hb, howner]
        simp only [hex, ne_eq, not_true_eq_false, if_false]
        exact hbind

/-- A successful deletion on the plugin the key is routed to, and the binding given up. -/
theorem RoutingInv.of_delete (contract : KidContract (S := S) inv owner Good) {sys sys' : Sys S E}
    (h : RoutingInv inv owner Good T sys) {p : Plugin S} {kid : KeyId}
    (hp : sys.registered p.id = true)
    (hcall : sys.call p (.deleteKey kid) (WscdPlugin.deleteKey kid) = (.ok (), sys'))
    (hroute : ∀ id', sys.manager.boundTo kid = some id' → id' = p.id) :
    RoutingInv inv owner Good T (sys'.unbind kid) := by
  have hcurrent := good_current h hp
  obtain ⟨hgood, hsub⟩ := contract.deleteKey kid p.id (sys.current p) sys.env hcurrent
  have hgone := contract.deleteKey_ok p.id kid (sys.current p) sys.env hcurrent (fst_of_call hcall)
  have hplugins : (sys'.unbind kid).manager.plugins =
      (sys.call p (.deleteKey kid) (WscdPlugin.deleteKey kid)).2.manager.plugins := by
    rw [hcall]
    rfl
  have hlookup (j : KeyId) : (sys'.unbind kid).manager.boundTo j =
      if j = kid then none else sys.manager.boundTo j := by
    rw [← boundTo_of_call hcall j]
    exact sys'.manager.boundTo_unbind j kid
  have hfallback (id : String) : (sys'.unbind kid).manager.config.Fallback id ↔
      sys.manager.config.Fallback id := fallback_of_call hcall id
  refine h.of_plugins hplugins hgood ?_ fun k id hT hk => ?_
  · intro j id' hj
    rw [hlookup] at hj
    split at hj
    · cases hj
    · exact h.bound j id' hj
  · rw [hlookup, hfallback]
    rcases h.routed_update hT hp hk with (hb | hall) | ⟨-, hnew, hfresh⟩
    · by_cases hkid : k = kid
      · subst hkid
        obtain rfl := hroute id hb
        rw [Function.update_self] at hk
        exact absurd hk hgone
      · rw [if_neg hkid]
        exact .inl hb
    · exact .inr hall
    · exact absurd (hsub hnew) hfresh

theorem routingInv_deleteKey (contract : KidContract (S := S) inv owner Good) {sys : Sys S E}
    (h : RoutingInv inv owner Good T sys) (kid : KeyId) :
    RoutingInv inv owner Good T (sys.deleteKey kid).2 := by
  unfold deleteKey
  cases hr : sys.manager.resolveForKey kid "delete" with
  | error e => exact h
  | ok plugin =>
    have hp := registered_of_resolveForKey hr
    dsimp only
    cases hd : sys.call plugin (.deleteKey kid) (WscdPlugin.deleteKey kid) with
    | mk r sys₁ =>
      cases r with
      | error e => exact h.of_addsNoKey (contract.deleteKey kid) hp hd
      | ok u =>
        refine h.of_delete contract hp hd fun id' hb => ?_
        rw [WscdManager.resolveForKey_of_bound hb] at hr
        exact (registered_of_getPlugin hr).1.symm

omit [WscdPlugin S E] in
theorem routingInv_bindKeys {sys : Sys S E} (h : RoutingInv inv owner Good T sys)
    {pluginId : String} {kids : List KeyId} (hkids : ∀ kid ∈ kids, owner kid = pluginId) :
    RoutingInv inv owner Good T (sys.bindKeys pluginId kids).2 := by
  refine WscdManager.bindKeys_invariant
    (I := fun m => RoutingInv inv owner Good T { sys with manager := m }) pluginId ?_ h
  intro m kid hkid hI hguard
  have hlookup : ∀ j, (m.bind kid pluginId).boundTo j =
      if j = kid then some pluginId else m.boundTo j :=
    fun j => HashMap.lookup_insert_eq_ite _ _ _ _
  refine ⟨hI.good, fun j id' hj => ?_, hI.registered, fun k id hT hk => ?_⟩
  · rw [hlookup] at hj
    split at hj
    · subst j
      cases hj
      exact hkids kid hkid
    · exact hI.bound j id' hj
  · rcases hI.routed k id hT hk with hb | hall
    · left
      rw [hlookup]
      split
      · subst k
        rw [hguard id hb]
      · exact hb
    · exact .inr hall

theorem routingInv_migrateKey (contract : KidContract (S := S) inv owner Good) {sys : Sys S E}
    (h : RoutingInv inv owner Good T sys) (kid : KeyId) (targetPluginId : String) :
    RoutingInv inv owner Good T (sys.migrateKey kid targetPluginId).2 := by
  have hpath := importForMigration_path sys kid targetPluginId
  cases hm : sys.importForMigration kid targetPluginId with
  | mk r sys' =>
    rw [hm] at hpath
    cases hpath with
    | stopped hr =>
      rw [migrateKey_of_not_migrated hm hr]
      exact h
    | exportFailed hs h₁ =>
      rw [migrateKey, hm]
      exact h.of_addsNoKey (contract.exportPublicKey kid) (registered_of_resolveForKey hs) h₁
    | listed hs h₁ h₂ =>
      rw [migrateKey, hm]
      have hp := registered_of_resolveForKey hs
      have hinv₁ := h.of_addsNoKey (contract.exportPublicKey kid) hp h₁
      exact hinv₁.of_addsNoKey contract.listKeys (registered_of_call h₁ hp) h₂
    | @imported source target _ _ keyInfo _ sys₁ sys₂ _ ht hs h₁ h₂ h₃ =>
      rw [migrateKey, hm]
      have hp := registered_of_resolveForKey hs
      have hinv₁ := h.of_addsNoKey (contract.exportPublicKey kid) hp h₁
      have hinv₂ := hinv₁.of_addsNoKey contract.listKeys (registered_of_call h₁ hp) h₂
      obtain ⟨rfl, htarget⟩ := registered_of_getPlugin ht
      have htarget₂ := registered_of_call h₂ (registered_of_call h₁ htarget)
      have hanswer := contract.importKey keyInfo.algorithm
      cases r with
      | error e => exact hinv₂.of_no_answer hanswer htarget₂ h₃ fun a ha => by cases ha
      | ok result =>
        cases result with
        | reEnrollmentRequired oldKid =>
          exact hinv₂.of_no_answer hanswer htarget₂ h₃ fun a ha => by cases ha; rfl
        | migrated newKid =>
          exact hinv₂.of_bound_call hanswer htarget₂ h₃ rfl
            (contract.importKey_owner target.id _ _ _ newKid (good_current hinv₂ htarget₂)
              (fst_of_call h₃))

omit [WscdPlugin S E] in
theorem addsNoKey_query {α : Type} (f : S → E → Except WscdError α × E) :
    AddsNoKey inv Good (query f) :=
  fun _ _ _ hgood => ⟨hgood, subset_rfl⟩

theorem routingInv_attempted (contract : KidContract (S := S) inv owner Good)
    {required : CertificationLevel} {algorithm : Algorithm} {c : String} {sys sys' : Sys S E}
    {o : Outcome} (h : RoutingInv inv owner Good T sys)
    (hattempt : Attempted required algorithm c sys o sys') :
    RoutingInv inv owner Good T sys' := by
  have hmade : ∀ {p g sys₁}, sys.manager.plugins.lookup c = some p →
      sys.call p (.generateKey algorithm) (WscdPlugin.generateKey algorithm) = (.ok g, sys₁) →
      p.id = c ∧ (sys₁.bind g.kid c).registered p.id = true ∧ owner g.kid = c ∧
        RoutingInv inv owner Good T (sys₁.bind g.kid c) := by
    intro p g sys₁ hl hg
    obtain ⟨rfl, hp⟩ := registered_of_lookup hl
    have howner := contract.generateKey_owner p.id algorithm (sys.current p) sys.env g
      (good_current h hp) (fst_of_call hg)
    exact ⟨rfl, registered_of_call hg hp, howner,
      h.of_bound_call (contract.generateKey algorithm) hp hg rfl howner⟩
  cases hattempt with
  | unresolved _ => exact h
  | generateFailed hl hg =>
    exact h.of_no_answer (contract.generateKey algorithm) (registered_of_lookup hl).2 hg nofun
  | @collided p g existing sys₁ hl hg hb hne =>
    exact absurd ((h.bound g.kid existing hb).symm.trans (hmade hl hg).2.2.1) hne
  | kept hl hg _ hs _ =>
    obtain ⟨-, hp, -, hinv⟩ := hmade hl hg
    exact hinv.of_addsNoKey (addsNoKey_query _) hp hs
  | discarded hl hg _ hs _ hd =>
    obtain ⟨hid, hp, howner, hinv⟩ := hmade hl hg
    have hinv₂ := hinv.of_addsNoKey (addsNoKey_query _) hp hs
    refine hinv₂.of_delete contract (registered_of_call hs hp) hd fun id' hb => ?_
    rw [hid, ← howner, hinv₂.bound _ _ hb]
  | undeletable hl hg _ hs _ hd =>
    obtain ⟨-, hp, -, hinv⟩ := hmade hl hg
    have hinv₂ := hinv.of_addsNoKey (addsNoKey_query _) hp hs
    exact hinv₂.of_addsNoKey (contract.deleteKey _) (registered_of_call hs hp) hd

/-! ## Runs -/

omit [WscdPlugin S E] in
theorem routingInv_onPlugin {α : Type} {sys : Sys S E} (h : RoutingInv inv owner Good T sys)
    (pluginId : String) (method : Method) {f : PluginM S E α} (hf : AddsNoKey inv Good f) :
    RoutingInv inv owner Good T (sys.onPlugin pluginId method f).2 := by
  unfold onPlugin
  cases hp : sys.manager.getPlugin pluginId with
  | error e => exact h
  | ok plugin => exact h.of_addsNoKey hf (registered_of_getPlugin hp).2 rfl

omit [WscdPlugin S E] in
theorem routingInv_resolved {α : Type} {sys : Sys S E} (h : RoutingInv inv owner Good T sys)
    (kid : KeyId) (op : String) (method : Method) {f : PluginM S E α} (hf : AddsNoKey inv Good f) :
    RoutingInv inv owner Good T
      (match (motive := _ → Except WscdError α × Sys S E) sys.manager.resolveForKey kid op with
        | .error e => (.error e, sys)
        | .ok plugin => sys.call plugin method f).2 := by
  cases hp : sys.manager.resolveForKey kid op with
  | error e => exact h
  | ok plugin => exact h.of_addsNoKey hf (registered_of_resolveForKey hp) rfl

/-- A lifecycle call on the plugin registered as `pluginId` adds no key that is not bound to
that plugin. -/
def AddsOnlyBoundKeys {α : Type} (inv : S → Finset KeyId) (sys : Sys S E) (pluginId : String)
    (f : PluginM S E α) : Prop :=
  ∀ p, sys.manager.plugins.lookup pluginId = some p →
    ∀ k ∈ inv (f p.self sys.env).2.1, k ∉ inv p.self → sys.manager.boundTo k = some pluginId

/-- The condition on one operation. A plugin is registered once; `bind_keys` is given the
plugin's own kids; a lifecycle operation that makes keys makes none that is unbound, unless
its plugin is the universal fallback. -/
def RoutesCreated (inv : S → Finset KeyId) (owner : KeyId → String) (Good : String → S → Prop)
    (sys : Sys S E) : Op S → Prop
  | .registerPlugin plugin => sys.registered plugin.id = false ∧ Good plugin.id plugin.self
  | .bindKeys pluginId kids => ∀ kid ∈ kids, owner kid = pluginId
  | .registerLifecycle request => sys.manager.config.Fallback request.pluginId ∨
      AddsOnlyBoundKeys inv sys request.pluginId (WscdPlugin.registerLifecycle request)
  | .rotateLifecycle request => sys.manager.config.Fallback request.pluginId ∨
      AddsOnlyBoundKeys inv sys request.pluginId (WscdPlugin.rotateLifecycle request)
  | _ => True

omit [WscdPlugin S E] in
/-- A lifecycle operation whose key the manager learns nothing of. -/
theorem routingInv_lifecycle {α : Type} {sys : Sys S E}
    (h : RoutingInv inv owner Good T sys) (pluginId : String) (method : Method)
    {f : PluginM S E α} (hf : ∀ id self env, Good id self → Good id (f self env).2.1)
    (hcond : sys.manager.config.Fallback pluginId ∨ AddsOnlyBoundKeys inv sys pluginId f) :
    RoutingInv inv owner Good T (sys.onPlugin pluginId method f).2 := by
  unfold onPlugin
  cases hp : sys.manager.getPlugin pluginId with
  | error e => exact h
  | ok plugin =>
    obtain ⟨rfl, hreg⟩ := registered_of_getPlugin hp
    have hlookup := (sys.manager.getPlugin_eq_ok_iff _ _).mp hp
    refine h.of_quiet_call hreg rfl (hf plugin.id _ sys.env (good_current h hreg)) ?_
    intro k hnew hfresh
    rw [current_of_lookup hlookup] at hnew hfresh
    rcases hcond with hall | hbound
    · exact .inr hall
    · exact .inl (hbound plugin hlookup k hnew hfresh)

omit [WscdPlugin S E] in
theorem routingInv_registerPlugin {sys : Sys S E} (h : RoutingInv inv owner Good T sys)
    {plugin : Plugin S} (hnew : sys.registered plugin.id = false)
    (hgood : Good plugin.id plugin.self) :
    RoutingInv inv owner Good T (sys.registerPlugin plugin) := by
  have hlookup : ∀ j, (sys.registerPlugin plugin).manager.plugins.lookup j =
      if j = plugin.id then some plugin else sys.manager.plugins.lookup j :=
    fun j => HashMap.lookup_insert_eq_ite _ _ _ _
  have hne : ∀ k id, (k, id) ∈ T → id ≠ plugin.id := by
    rintro k id hT rfl
    rw [h.registered k _ hT] at hnew
    cases hnew
  refine ⟨fun j p hj => ?_, h.bound, fun k id hT => ?_, fun k id hT hk => h.routed k id hT ?_⟩
  · rw [hlookup] at hj
    split at hj
    · subst j
      cases hj
      exact hgood
    · exact h.good j p hj
  · unfold Sys.registered
    rw [hlookup, if_neg (hne k id hT)]
    exact h.registered k id hT
  · simpa only [inventory, hlookup, if_neg (hne k id hT)] using hk

theorem routingInv_apply (contract : KidContract (S := S) inv owner Good) (sys : Sys S E)
    (op : Op S) (h : RoutingInv inv owner Good T sys)
    (hop : RoutesCreated inv owner Good sys op) :
    RoutingInv inv owner Good T (sys.apply op) := by
  cases op with
  | registerPlugin plugin => exact routingInv_registerPlugin h hop.1 hop.2
  | bindKeys pluginId kids => exact routingInv_bindKeys h hop
  | generateKey algorithm =>
    show RoutingInv inv owner Good T (sys.generateKey algorithm).2
    unfold generateKey
    cases hp : sys.manager.resolveForGenerate with
    | error e => exact h
    | ok plugin =>
      exact routingInv_generateKeyOn contract h (registered_of_resolveForGenerate hp) algorithm
  | generateKeyWithPlugin pluginId algorithm =>
    show RoutingInv inv owner Good T (sys.generateKeyWithPlugin pluginId algorithm).2
    unfold generateKeyWithPlugin
    cases hp : sys.manager.getPlugin pluginId with
    | error e => exact h
    | ok plugin =>
      exact routingInv_generateKeyOn contract h (registered_of_getPlugin hp).2 algorithm
  | generateKeyForLevel required candidates algorithm =>
    exact generateKeyForLevel_invariant
      (fun _ _ _ _ hI hattempt => routingInv_attempted contract hI hattempt) h candidates
  | migrateKey kid targetPluginId => exact routingInv_migrateKey contract h kid targetPluginId
  | deleteKey kid => exact routingInv_deleteKey contract h kid
  | sign kid data algorithm =>
    exact routingInv_resolved h kid _ _ (contract.sign kid data algorithm)
  | attestationChain kid => exact routingInv_resolved h kid _ _ (contract.attestationChain kid)
  | exportPublicKey kid => exact routingInv_resolved h kid _ _ (contract.exportPublicKey kid)
  | securityProperties kid => exact routingInv_resolved h kid _ _ (addsNoKey_query _)
  | lifecycleStatus pluginId contextId =>
    exact routingInv_onPlugin h _ _ (contract.lifecycleStatus contextId)
  | registerLifecycle request =>
    exact routingInv_lifecycle h _ _ (fun id => contract.registerLifecycle id request) hop
  | activateLifecycle request =>
    exact routingInv_onPlugin h _ _ (contract.activateLifecycle request)
  | rotateLifecycle request =>
    exact routingInv_lifecycle h _ _ (fun id => contract.rotateLifecycle id request) hop
  | destroyLifecycle request =>
    exact routingInv_onPlugin h _ _ (contract.destroyLifecycle request)

/-- The operation `op` made the plugin `id` create the key `k`. -/
def Creates (inv : S → Finset KeyId) (sys : Sys S E) (op : Op S) (id : String) (k : KeyId) : Prop :=
  sys.registered id = true ∧ k ∉ sys.inventory inv id ∧ k ∈ (sys.apply op).inventory inv id

/-- Every key that an operation of the run made a plugin create, and that the plugin still
holds at the end of the run, resolves to that plugin under every operation name. -/
def RoutesCreatedKeys (inv : S → Finset KeyId) (sys : Sys S E) (ops : List (Op S)) : Prop :=
  ∀ before op after, ops = before ++ op :: after → ∀ id k,
    Creates inv (run apply sys before) op id k → k ∈ (run apply sys ops).inventory inv id →
    ∀ name, ∃ p, (run apply sys ops).manager.resolveForKey k name = .ok p ∧ p.id = id

/-- A tracked key that its plugin holds resolves to that plugin. -/
theorem RoutingInv.resolves (contract : KidContract (S := S) inv owner Good) {sys : Sys S E}
    (h : RoutingInv inv owner Good T sys) {k : KeyId} {id : String} (hT : (k, id) ∈ T)
    (hk : k ∈ sys.inventory inv id) (name : String) :
    ∃ p, sys.manager.resolveForKey k name = .ok p ∧ p.id = id := by
  obtain ⟨p, hp⟩ := Option.isSome_iff_exists.mp (h.registered k id hT)
  have hget := WscdManager.getPlugin_of_lookup hp
  have howner : owner k = id := by
    refine contract.owned id p.self (h.good id p hp) k ?_
    simpa only [inventory, hp] using hk
  refine ⟨p, ?_, sys.manager.id_eq _ _ hp⟩
  cases hb : sys.manager.config.keyBindings.lookup k with
  | some id' =>
    have hid' : owner k = id' := h.bound k id' hb
    rw [WscdManager.resolveForKey_of_bound hb, ← hid', howner, hget]
  | none =>
    rcases h.routed k id hT hk with hbound | ⟨hdefault, hops⟩
    · cases hb.symm.trans hbound
    · rw [WscdManager.resolveForKey_of_unbound hb]
      cases hop : sys.manager.config.operationDefaults.lookup name with
      | some v => rw [Option.getD_some, hops name v hop, hget]
      | none => rw [Option.getD_none, hdefault, hget]

theorem run_routingInv (contract : KidContract (S := S) inv owner Good) {sys : Sys S E}
    {ops : List (Op S)} (h : RoutingInv inv owner Good T sys)
    (hops : Along apply (RoutesCreated inv owner Good) sys ops) :
    RoutingInv inv owner Good T (run apply sys ops) :=
  run_invariant (fun sys op hI hop => routingInv_apply contract sys op hI hop) h hops

/-- Every key created in a run, and still held, is routed to the plugin that made it, provided
the lifecycle operations of the run make no unbound key on a plugin that is not the universal
fallback. -/
theorem created_key_is_routed (contract : KidContract (S := S) inv owner Good) (sys : Sys S E)
    (hgood : ∀ id p, sys.manager.plugins.lookup id = some p → Good id p.self)
    (hbound : ∀ kid id, sys.manager.boundTo kid = some id → owner kid = id) (ops : List (Op S))
    (hops : Along apply (RoutesCreated inv owner Good) sys ops) :
    RoutesCreatedKeys inv sys ops := by
  rintro before op after rfl id k ⟨hreg, hfresh, -⟩ hk name
  obtain ⟨hbefore, hafter⟩ := along_append.mp hops
  have hstart : RoutingInv inv owner Good ∅ (run apply sys before) :=
    run_routingInv contract ⟨hgood, hbound, nofun, nofun⟩ hbefore
  -- before the key is made, nothing has to be shown of it
  have htracked : RoutingInv inv owner Good {(k, id)} (run apply sys before) := by
    refine ⟨hstart.good, hstart.bound, ?_, ?_⟩
    · rintro k' id' ⟨rfl, rfl⟩
      exact hreg
    · rintro k' id' ⟨rfl, rfl⟩ hheld
      exact absurd hheld hfresh
  rw [run_append] at hk ⊢
  exact (run_routingInv contract htracked hafter).resolves contract rfl hk name

end Sys

/-! ## The softkey plugin -/

namespace SoftkeyPlugin

open Sys SoftkeyHost

/-- The keys the plugin holds. -/
def inventory (self : SoftkeyPlugin) : Finset KeyId := self.keys.keys.image KeyId.mk

theorem mem_inventory (self : SoftkeyPlugin) (k : KeyId) :
    k ∈ self.inventory ↔ self.keys.lookup k.asStr ≠ none := by
  rw [inventory, Finset.mem_image]
  constructor
  · rintro ⟨s, hs, rfl⟩
    exact (HashMap.mem_keys_iff _ _).mp hs
  · intro h
    exact ⟨k.asStr, (HashMap.mem_keys_iff _ _).mpr h, rfl⟩

/-- The plugin registered as `softkey` is the only one of its kind. -/
def IsSoftkey (id : String) (_ : SoftkeyPlugin) : Prop := id = SoftkeyPlugin.id

theorem generateKey_adds (crypto : SoftkeyCrypto) (algorithm : Algorithm) (d : Draw)
    (self : SoftkeyPlugin) (k : KeyId)
    (h : k ∈ (self.generateKey crypto algorithm d).2.inventory) :
    k ∈ self.inventory ∨ ∃ g, (self.generateKey crypto algorithm d).1 = .ok g ∧ g.kid = k := by
  unfold generateKey at h ⊢
  cases hd : draw crypto algorithm d with
  | error e =>
    simp only [hd] at h
    exact .inl h
  | ok made =>
    obtain ⟨stored, jwk⟩ := made
    simp only [hd] at h ⊢
    rw [mem_inventory, HashMap.lookup_insert_eq_ite] at h
    by_cases hk : k.asStr = stored.kid
    · exact .inr ⟨_, rfl, by rw [← hk]⟩
    · rw [if_neg hk] at h
      exact .inl ((mem_inventory self k).mpr h)

theorem importKey_adds (crypto : SoftkeyCrypto) (algorithm : Algorithm) (d : Draw)
    (self : SoftkeyPlugin) (k : KeyId)
    (h : k ∈ (self.importKey crypto algorithm d).2.inventory) :
    k ∈ self.inventory ∨ ∃ a, (self.importKey crypto algorithm d).1 = .ok a ∧
      (match a with | .migrated kid => some kid | .reEnrollmentRequired _ => none) = some k := by
  have hadds := generateKey_adds crypto algorithm d self k
  unfold importKey at h ⊢
  cases hg : self.generateKey crypto algorithm d with
  | mk r self' =>
    rw [hg] at h hadds
    cases r with
    | error e =>
      obtain hold | ⟨g, hok, -⟩ := hadds h
      · exact .inl hold
      · cases hok
    | ok g =>
      obtain hold | ⟨g', hok, rfl⟩ := hadds h
      · exact .inl hold
      · cases hok
        exact .inr ⟨_, rfl, rfl⟩

theorem addsNoKey_read {α : Type} (f : SoftkeyHost → SoftkeyPlugin → Except WscdError α) :
    AddsNoKey inventory IsSoftkey (read f) :=
  fun _ _ _ hgood => ⟨hgood, subset_rfl⟩

theorem addsNoKey_run {α : Type}
    {f : SoftkeyHost → SoftkeyPlugin → Except WscdError α × SoftkeyPlugin}
    (hf : ∀ host self s, (f host self).2.keys.lookup s ≠ none → self.keys.lookup s ≠ none) :
    AddsNoKey inventory IsSoftkey (SoftkeyHost.run f) := by
  refine fun _ self host hgood => ⟨hgood, fun k hk => ?_⟩
  exact (mem_inventory self k).mpr (hf host self k.asStr ((mem_inventory _ k).mp hk))

theorem deleteKey_lookup (kid : KeyId) (self : SoftkeyPlugin) (s : String) :
    (self.deleteKey kid).2.keys.lookup s = if s = kid.asStr then none else self.keys.lookup s := by
  unfold deleteKey
  cases h : self.keys.lookup kid.asStr with
  | none =>
    by_cases hs : s = kid.asStr
    · rw [if_pos hs, hs]
      exact h
    · rw [if_neg hs]
  | some stored => exact HashMap.lookup_erase_eq_ite _ _ _

theorem kidContract : KidContract inventory (fun _ => SoftkeyPlugin.id) IsSoftkey where
  owned id self hgood k _ := hgood.symm
  generateKey algorithm id self host hgood := by
    refine ⟨hgood, fun k hk => ?_⟩
    obtain hold | ⟨g, hg, hkid⟩ :=
      generateKey_adds host.crypto algorithm host.draw self k hk
    · exact .inl hold
    · exact .inr ⟨g, hg, congrArg some hkid⟩
  generateKey_owner id algorithm self host g hgood _ := hgood.symm
  importKey algorithm id self host hgood := by
    refine ⟨hgood, fun k hk => importKey_adds host.crypto algorithm host.draw self k hk⟩
  importKey_owner id algorithm self host kid hgood _ := hgood.symm
  deleteKey kid := by
    refine addsNoKey_run fun host self s hs => ?_
    rw [deleteKey_lookup] at hs
    split at hs
    · exact absurd rfl hs
    · exact hs
  deleteKey_ok id kid self host _ _ := by
    show kid ∉ (self.deleteKey kid).2.inventory
    rw [mem_inventory, deleteKey_lookup, if_pos rfl]
    exact fun h => h rfl
  sign kid data algorithm := addsNoKey_read _
  listKeys := addsNoKey_read _
  attestationChain kid := addsNoKey_read _
  exportPublicKey kid := addsNoKey_read _
  lifecycleStatus contextId := addsNoKey_read _
  activateLifecycle request := by
    refine addsNoKey_run fun host self s hs => ?_
    revert hs
    unfold activateLifecycle
    cases activateLifecycleContext self.lifecycle request.contextId host.now with
    | error e => exact fun hs => hs
    | ok lifecycle => exact fun hs => hs
  destroyLifecycle request := by
    refine addsNoKey_run fun host self s hs => ?_
    revert hs
    unfold destroyLifecycle
    cases self.lifecycle.lookup request.contextId with
    | none => exact fun hs => hs
    | some ctx =>
      show Finmap.lookup s (removeKeys ctx.keyIds self.keys) ≠ none → _
      rw [removeKeys, HashMap.lookup_eraseAll]
      split
      · exact fun hs => absurd rfl hs
      · exact fun hs => hs
  registerLifecycle id request self host hgood := hgood
  rotateLifecycle id request self host hgood := hgood

/-- A softkey plugin in a manager whose default plugin is `default`. -/
def softkeySys (default : String) : Sys SoftkeyPlugin SoftkeyHost where
  manager := (WscdManager.new ⟨default, ∅, ∅⟩).registerPlugin ⟨SoftkeyPlugin.id, .new⟩
  env := secretOneHost
  calls := []

def registerCtx : RegisterLifecycleRequest := ⟨SoftkeyPlugin.id, "ctx", .rawSign⟩

theorem softkeySys_good (default id : String) (p : Plugin SoftkeyPlugin)
    (h : (softkeySys default).manager.plugins.lookup id = some p) : IsSoftkey id p.self := by
  have hlook : (softkeySys default).manager.plugins.lookup id =
      if id = SoftkeyPlugin.id then some ⟨SoftkeyPlugin.id, .new⟩ else none :=
    HashMap.lookup_insert_eq_ite ∅ _ _ _
  rw [hlook] at h
  split at h
  · assumption
  · cases h

/-- Where the softkey plugin is the default, the key of a context is reached by falling back. -/
theorem created_key_is_routed_by_default :
    RoutesCreatedKeys inventory (softkeySys SoftkeyPlugin.id)
      [.registerLifecycle registerCtx, .generateKey .edDSA] := by
  refine created_key_is_routed kidContract (softkeySys SoftkeyPlugin.id) (softkeySys_good _) ?_ _
    ⟨.inl ⟨rfl, ?_⟩, trivial, trivial⟩
  · intro kid id h
    cases h
  · intro op v h
    cases h

/-- Elsewhere it is not: the manager is never told of the key. -/
theorem lifecycle_key_is_not_routed :
    ¬ RoutesCreatedKeys inventory (softkeySys "r2ps") [.registerLifecycle registerCtx] := by
  intro h
  have hheld : kidOne ∈ (run Sys.apply (softkeySys "r2ps")
      [.registerLifecycle registerCtx]).inventory inventory SoftkeyPlugin.id := by decide +kernel
  obtain ⟨p, hp, -⟩ := h [] _ [] rfl SoftkeyPlugin.id kidOne
    ⟨rfl, by decide, hheld⟩ hheld "export_public_key"
  have hrun : (run Sys.apply (softkeySys "r2ps")
      [.registerLifecycle registerCtx]).manager.resolveForKey kidOne "export_public_key" =
      .error (.noPlugin "r2ps") := by rfl
  cases hrun.symm.trans hp

end SoftkeyPlugin

end Wscd
