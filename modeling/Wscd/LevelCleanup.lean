import Wscd.Level
import Wscd.Operations
import Wscd.Plugins.FixedKid

/-!
# Confirming a level: what the candidate walk leaves behind

A plugin's inventory is the set of keys its backend holds. Under the laws every backend
keeps (`InventoryLaws`), the walk leaves two kinds of residue: a key that collided with an
existing binding stays in the backend that made it, and a rejected key takes a binding of
its own kid with it, also one that was there before the walk.

Results:
1. `PassedOver.residue`: the inventories and bindings after any walk.
2. `leavesNoOrphan_iff`: the walk leaves nothing behind and destroys nothing exactly when
   no candidate collided and every rejected kid was unbound before.
-/

namespace Wscd

open Lib

/-- The keys every plugin's backend holds, by plugin id. -/
abbrev Inventories : Type := String → Finset KeyId

def isUnconfirmedCleanup : WscdError → Bool
  | .unconfirmedCleanup _ _ => true
  | _ => false

/-- What a backend promises about the keys it holds. -/
structure InventoryLaws {S E : Type} [WscdPlugin S E] (inv : S → Finset KeyId) : Prop where
  generate_ok : ∀ algorithm self env g self' env',
    WscdPlugin.generateKey (S := S) algorithm self env = (.ok g, self', env') →
      g.kid ∉ inv self ∧ inv self' = insert g.kid (inv self)
  generate_error : ∀ algorithm self env e self' env',
    WscdPlugin.generateKey (S := S) algorithm self env = (.error e, self', env') →
      isUnconfirmedCleanup e = false → inv self' = inv self
  delete_ok : ∀ kid self env self' env',
    WscdPlugin.deleteKey (S := S) kid self env = (.ok (), self', env') →
      inv self' = (inv self).erase kid

/-- The error says that a key may have been left behind. -/
def ReportsCleanup : WscdError → Prop
  | .unconfirmedCleanup _ _ => True
  | .plugin msg =>
    (∃ pluginId e deleteErr, msg = Sys.unconfirmedLevelMsg pluginId e deleteErr) ∨
      ∃ shortfall deleteErr, msg = Sys.insufficientKeyMsg shortfall deleteErr
  | _ => False

namespace Outcome

/-- The key an outcome leaves in a backend without keeping it. -/
def orphan : Outcome → Option KeyId
  | .collided _ g _ => some g.kid
  | _ => none

def discardedKid : Outcome → Option KeyId
  | .discarded g _ => some g.kid
  | _ => none

def keptKid : Outcome → Option KeyId
  | .kept g => some g.kid
  | _ => none

/-- The attempt is over for its plugin: nothing it did there is left open. -/
def settled : Outcome → Bool
  | .kept _ | .undeletable _ _ => false
  | .generateFailed e => !isUnconfirmedCleanup e
  | _ => true

theorem settled_of_goesOn {o : Outcome} (h : o.goesOn = true) : o.settled = true := by
  cases o with
  | kept g => cases h
  | undeletable g msg => cases h
  | generateFailed e => cases e <;> first | rfl | cases h
  | unresolved id => rfl
  | collided id g existing => rfl
  | discarded g e => rfl

end Outcome

/-- The orphans a walk leaves in the backend of `id`. -/
def orphansOf (visited : List (String × Outcome)) (id : String) : Finset KeyId :=
  (visited.filterMap fun v => if v.1 = id then v.2.orphan else none).toFinset

/-- The kids of the keys a walk rejected and deleted. -/
def discardedKids (visited : List (String × Outcome)) : List KeyId :=
  visited.filterMap fun v => v.2.discardedKid

theorem orphansOf_append (visited visited' : List (String × Outcome)) (id : String) :
    orphansOf (visited ++ visited') id = orphansOf visited id ∪ orphansOf visited' id := by
  simp [orphansOf]

theorem discardedKids_append (visited visited' : List (String × Outcome)) :
    discardedKids (visited ++ visited') = discardedKids visited ++ discardedKids visited' :=
  List.filterMap_append

theorem mem_orphansOf (visited : List (String × Outcome)) (id : String) (kid : KeyId) :
    kid ∈ orphansOf visited id ↔ ∃ o, (id, o) ∈ visited ∧ o.orphan = some kid := by
  simp only [orphansOf, List.mem_toFinset, List.mem_filterMap]
  constructor
  · rintro ⟨⟨id', o⟩, hmem, h⟩
    by_cases hid : id' = id
    · subst hid
      exact ⟨o, hmem, by simpa using h⟩
    · simp [hid] at h
  · rintro ⟨o, hmem, h⟩
    exact ⟨(id, o), hmem, by simpa using h⟩

namespace Sys

variable {S E : Type} (inv : S → Finset KeyId)

def inventory (sys : Sys S E) : Inventories := fun id =>
  match sys.manager.plugins.lookup id with
  | some p => inv p.self
  | none => ∅

variable {inv}

theorem inventory_of_call {α : Type} {sys sys' : Sys S E} {p : Plugin S} {method : Method}
    {f : PluginM S E α} {r : Except WscdError α} (h : sys.call p method f = (r, sys')) :
    sys'.inventory inv =
      Function.update (sys.inventory inv) p.id (inv (f (sys.current p) sys.env).2.1) := by
  have hs : sys' = (sys.call p method f).2 := by rw [h]
  subst hs
  funext id
  rw [inventory, call_lookup]
  by_cases hid : id = p.id
  · rw [if_pos hid, hid, Function.update_self]
  · rw [if_neg hid, Function.update_of_ne hid]
    rfl

variable (inv) in
theorem inventory_eq_current {sys : Sys S E} {p : Plugin S} (h : sys.registered p.id = true) :
    sys.inventory inv p.id = inv (sys.current p) := by
  obtain ⟨q, hq⟩ := Option.isSome_iff_exists.mp h
  rw [current_of_lookup hq]
  simp only [inventory, hq]

variable [WscdPlugin S E]

theorem inventory_of_generate_ok (laws : InventoryLaws inv) {sys sys' : Sys S E} {p : Plugin S}
    {algorithm : Algorithm} {g : GeneratedKey} (hp : sys.registered p.id = true)
    (h : sys.call p (.generateKey algorithm) (WscdPlugin.generateKey algorithm) = (.ok g, sys')) :
    g.kid ∉ sys.inventory inv p.id ∧ sys'.inventory inv =
      Function.update (sys.inventory inv) p.id (insert g.kid (sys.inventory inv p.id)) := by
  have hok := laws.generate_ok algorithm (sys.current p) sys.env g _ _
    (Prod.ext (fst_of_call h) rfl)
  rw [inventory_of_call h, hok.2, inventory_eq_current inv hp]
  exact ⟨hok.1, rfl⟩

theorem inventory_of_generate_error (laws : InventoryLaws inv) {sys sys' : Sys S E}
    {p : Plugin S} {algorithm : Algorithm} {e : WscdError} (hp : sys.registered p.id = true)
    (h : sys.call p (.generateKey algorithm) (WscdPlugin.generateKey algorithm) = (.error e, sys'))
    (he : isUnconfirmedCleanup e = false) : sys'.inventory inv = sys.inventory inv := by
  have herr := laws.generate_error algorithm (sys.current p) sys.env e _ _
    (Prod.ext (fst_of_call h) rfl) he
  rw [inventory_of_call h, herr, ← inventory_eq_current inv hp, Function.update_eq_self]

theorem inventory_of_delete_ok (laws : InventoryLaws inv) {sys sys' : Sys S E} {p : Plugin S}
    {kid : KeyId} (hp : sys.registered p.id = true)
    (h : sys.call p (.deleteKey kid) (WscdPlugin.deleteKey kid) = (.ok (), sys')) :
    sys'.inventory inv =
      Function.update (sys.inventory inv) p.id ((sys.inventory inv p.id).erase kid) := by
  have hok := laws.delete_ok kid (sys.current p) sys.env _ _ (Prod.ext (fst_of_call h) rfl)
  rw [inventory_of_call h, hok, inventory_eq_current inv hp]

omit [WscdPlugin S E] in
theorem inventory_of_query {α : Type} {sys sys' : Sys S E} {p : Plugin S} {method : Method}
    {f : S → E → Except WscdError α × E} {r : Except WscdError α}
    (hp : sys.registered p.id = true) (h : sys.call p method (query f) = (r, sys')) :
    sys'.inventory inv = sys.inventory inv := by
  rw [inventory_of_call h]
  simp only [query]
  rw [← inventory_eq_current inv hp, Function.update_eq_self]

/-! ## The residue of a walk -/

/-- The inventories have grown by the orphans of `visited`, all of them fresh, and the
bindings have lost the kids that were discarded. -/
structure Residue (inv : S → Finset KeyId) (visited : List (String × Outcome))
    (sys sys' : Sys S E) : Prop where
  inventory : ∀ id, sys'.inventory inv id = sys.inventory inv id ∪ orphansOf visited id
  fresh : ∀ id, Disjoint (sys.inventory inv id) (orphansOf visited id)
  bindings : sys'.manager.config.keyBindings =
    HashMap.eraseAll (discardedKids visited) sys.manager.config.keyBindings

omit [WscdPlugin S E] in
theorem Residue.trans {visited visited' : List (String × Outcome)} {sys sys' sys'' : Sys S E}
    (h : Residue inv visited sys sys') (h' : Residue inv visited' sys' sys'') :
    Residue inv (visited ++ visited') sys sys'' where
  inventory id := by
    rw [h'.inventory, h.inventory, orphansOf_append, Finset.union_assoc]
  fresh id := by
    have hfresh' := h'.fresh id
    rw [h.inventory, Finset.disjoint_union_left] at hfresh'
    rw [orphansOf_append]
    exact Finset.disjoint_union_right.mpr ⟨h.fresh id, hfresh'.1⟩
  bindings := by
    rw [h'.bindings, h.bindings, discardedKids_append, HashMap.eraseAll_append]

omit [WscdPlugin S E] in
/-- An outcome that leaves everything as it was. -/
theorem Residue.of_unchanged {c : String} {o : Outcome} {sys sys' : Sys S E}
    (ho : o.orphan = none) (hd : o.discardedKid = none)
    (hinv : sys'.inventory inv = sys.inventory inv)
    (hcfg : sys'.manager.config = sys.manager.config) : Residue inv [(c, o)] sys sys' where
  inventory id := by simp [orphansOf, ho, hinv]
  fresh id := by simp [orphansOf, ho]
  bindings := by simp [discardedKids, hd, hcfg, HashMap.eraseAll]

/-- The two calls that make and confirm a fresh key: the inventory of `c` has grown by it. -/
theorem inventory_of_confirm (laws : InventoryLaws inv) {sys sys₁ sys₂ : Sys S E} {c : String}
    {p : Plugin S} {algorithm : Algorithm} {g : GeneratedKey}
    {answer : Except WscdError SecurityProperties}
    (hl : sys.manager.plugins.lookup c = some p)
    (hg : sys.call p (.generateKey algorithm) (WscdPlugin.generateKey algorithm) = (.ok g, sys₁))
    (hs : (sys₁.bind g.kid c).call p (.securityProperties g.kid)
      (query (WscdPlugin.securityProperties g.kid)) = (answer, sys₂)) :
    g.kid ∉ sys.inventory inv c ∧ sys₂.registered c = true ∧
      sys₂.inventory inv =
        Function.update (sys.inventory inv) c (insert g.kid (sys.inventory inv c)) ∧
      sys₂.manager.config.keyBindings = sys.manager.config.keyBindings.insert g.kid c := by
  obtain ⟨rfl, hp⟩ := registered_of_lookup hl
  obtain ⟨hfresh, hinv⟩ := inventory_of_generate_ok laws hp hg
  have hp₁ : (sys₁.bind g.kid p.id).registered p.id = true :=
    ((Generated.of_call hg hp).registered p.id).trans hp
  refine ⟨hfresh, ((Generated.of_call hs hp₁).registered p.id).trans hp₁, ?_, ?_⟩
  · rw [inventory_of_query hp₁ hs, ← hinv]
    rfl
  · rw [config_of_call hs]
    exact congrArg (Finmap.insert g.kid p.id) (congrArg WscdConfig.keyBindings (config_of_call hg))

theorem Attempted.residue (laws : InventoryLaws inv) {required : CertificationLevel}
    {algorithm : Algorithm} {c : String} {sys sys' : Sys S E} {o : Outcome}
    (h : Attempted required algorithm c sys o sys') (ho : o.settled = true) :
    Residue inv [(c, o)] sys sys' := by
  cases h with
  | unresolved hl => exact .of_unchanged rfl rfl rfl rfl
  | @generateFailed p e sys₁ hl hg =>
    obtain ⟨rfl, hp⟩ := registered_of_lookup hl
    have he : isUnconfirmedCleanup e = false := by simpa [Outcome.settled] using ho
    exact .of_unchanged rfl rfl (inventory_of_generate_error laws hp hg he) (config_of_call hg)
  | @collided p g existing sys₁ hl hg hb hne =>
    obtain ⟨rfl, hp⟩ := registered_of_lookup hl
    obtain ⟨hfresh, hinv⟩ := inventory_of_generate_ok laws hp hg
    constructor
    · intro id
      by_cases hid : id = p.id
      · subst hid
        simp [hinv, orphansOf, Outcome.orphan, Finset.union_comm]
      · have hid' : ¬ p.id = id := fun h => hid h.symm
        simp [hinv, Function.update_of_ne hid, orphansOf, hid']
    · intro id
      by_cases hid : p.id = id
      · subst hid
        simpa [orphansOf, Outcome.orphan] using hfresh
      · simp [orphansOf, hid]
    · rw [config_of_call hg]
      rfl
  | kept hl hg hf hs hr => cases ho
  | undeletable hl hg hf hs hr hd => cases ho
  | @discarded p g answer e msg sys₁ sys₂ sys₃ hl hg hf hs hr hd =>
    obtain ⟨hfresh, hp₂, hinv, hbind⟩ := inventory_of_confirm laws hl hg hs
    obtain ⟨rfl, -⟩ := registered_of_lookup hl
    -- the deletion takes back exactly what the generation added
    have hback : (sys₃.unbind g.kid).inventory inv = sys.inventory inv := by
      show sys₃.inventory inv = sys.inventory inv
      rw [inventory_of_delete_ok laws hp₂ hd, hinv, Function.update_self, Function.update_idem,
        Finset.erase_insert hfresh, Function.update_eq_self]
    refine ⟨?_, ?_, ?_⟩
    · intro id
      simp [hback, orphansOf, Outcome.orphan]
    · intro id
      simp [orphansOf, Outcome.orphan]
    · show Finmap.erase g.kid sys₃.manager.config.keyBindings = _
      rw [config_of_call hd, hbind, HashMap.erase_insert]
      rfl

theorem PassedOver.residue (laws : InventoryLaws inv) {required : CertificationLevel}
    {algorithm : Algorithm} {visited : List (String × Outcome)} {sys sys' : Sys S E}
    (h : PassedOver required algorithm visited sys sys') : Residue inv visited sys sys' := by
  induction h with
  | nil => exact ⟨fun _ => by simp [orphansOf], fun _ => by simp [orphansOf], rfl⟩
  | @cons c o visited sys sys₁ sys₂ hc hgo _ ih =>
    have hone := attempt_attempted required algorithm c sys
    rw [hc] at hone
    exact (hone.residue laws (Outcome.settled_of_goesOn hgo)).trans ih

omit [WscdPlugin S E] in
/-- A walk that kept nothing has changed nothing, unless it left an orphan or discarded a kid
that was bound. -/
theorem Residue.unchanged_iff {visited : List (String × Outcome)} {sys sys' : Sys S E}
    (h : Residue inv visited sys sys') :
    (sys'.inventory inv = sys.inventory inv ∧
      sys'.manager.config.keyBindings = sys.manager.config.keyBindings) ↔
    (∀ id, orphansOf visited id = ∅) ∧
      ∀ kid ∈ discardedKids visited, sys.manager.boundTo kid = none := by
  constructor
  · rintro ⟨hinv, hbind⟩
    constructor
    · intro id
      have hid := congrFun hinv id
      rw [h.inventory] at hid
      exact Finset.disjoint_self_iff_empty _ |>.mp
        ((h.fresh id).mono_left (Finset.union_eq_left.mp hid))
    · intro kid hkid
      rw [WscdManager.boundTo, ← hbind, h.bindings, HashMap.lookup_eraseAll, if_pos hkid]
  · rintro ⟨horphans, hdiscarded⟩
    constructor
    · funext id
      rw [h.inventory, horphans, Finset.union_empty]
    · refine Finmap.ext_lookup fun kid => ?_
      rw [h.bindings, HashMap.lookup_eraseAll]
      split
      · exact (hdiscarded kid ‹_›).symm
      · rfl

omit [WscdPlugin S E] in
/-- The bindings once the walk has kept a key. -/
theorem Residue.lookup_kept {visited : List (String × Outcome)} {sys sys₁ sys₂ : Sys S E}
    {c : String} {kid : KeyId} (h : Residue inv visited sys sys₁)
    (hbind : sys₂.manager.config.keyBindings = sys₁.manager.config.keyBindings.insert kid c)
    (k : KeyId) :
    sys₂.manager.config.keyBindings.lookup k =
      if k = kid then some c else if k ∈ discardedKids visited then none
      else sys.manager.config.keyBindings.lookup k := by
  rw [hbind, HashMap.lookup_insert_eq_ite, h.bindings, HashMap.lookup_eraseAll]

omit [WscdPlugin S E] in
/-- Where the kept key is all that was added, nothing was left behind. -/
theorem Residue.orphansOf_eq_empty {visited : List (String × Outcome)} {sys sys₁ : Sys S E}
    {c : String} {kid : KeyId} (h : Residue inv visited sys sys₁)
    (hfresh : kid ∉ sys₁.inventory inv c)
    (hinv : Function.update (sys₁.inventory inv) c (insert kid (sys₁.inventory inv c)) =
      Function.update (sys.inventory inv) c (insert kid (sys.inventory inv c))) (id : String) :
    orphansOf visited id = ∅ := by
  have hid := congrFun hinv id
  have hsub : orphansOf visited id ⊆ sys.inventory inv id := by
    intro k hk
    have hk₁ : k ∈ sys₁.inventory inv id := by
      rw [h.inventory]
      exact Finset.mem_union_right _ hk
    by_cases hidc : id = c
    · subst hidc
      rw [Function.update_self, Function.update_self] at hid
      have hmem : k ∈ insert kid (sys.inventory inv id) :=
        hid ▸ Finset.mem_insert_of_mem hk₁
      exact Finset.mem_of_mem_insert_of_ne hmem fun he => hfresh (he ▸ hk₁)
    · rw [Function.update_of_ne hidc, Function.update_of_ne hidc] at hid
      exact hid ▸ hk₁
  -- but what is left behind was not there before
  exact Finset.disjoint_self_iff_empty _ |>.mp ((h.fresh id).mono_left hsub)

omit [WscdPlugin S E] in
/-- A walk that ended by keeping the fresh key `kid` of `c`. -/
theorem Residue.kept_iff {visited : List (String × Outcome)} {sys sys₁ sys₂ : Sys S E}
    {candidates : List String} {c : String} {kid : KeyId} (hc : c ∈ candidates)
    (h : Residue inv visited sys sys₁) (hfresh : kid ∉ sys₁.inventory inv c)
    (hinv : sys₂.inventory inv =
      Function.update (sys₁.inventory inv) c (insert kid (sys₁.inventory inv c)))
    (hbind : sys₂.manager.config.keyBindings = sys₁.manager.config.keyBindings.insert kid c) :
    (∃ c' ∈ candidates, kid ∉ sys.inventory inv c' ∧
      sys₂.inventory inv =
        Function.update (sys.inventory inv) c' (insert kid (sys.inventory inv c')) ∧
      sys₂.manager.config.keyBindings = sys.manager.config.keyBindings.insert kid c') ↔
    (∀ id, orphansOf visited id = ∅) ∧
      ∀ k ∈ discardedKids visited, sys.manager.boundTo k = none ∨ k = kid := by
  have hlookup := h.lookup_kept hbind
  constructor
  · rintro ⟨c', -, -, hinv', hbind'⟩
    obtain rfl : c' = c := by
      have hkid := hlookup kid
      rw [hbind', HashMap.lookup_insert_eq_ite, if_pos rfl, if_pos rfl] at hkid
      exact Option.some.inj hkid
    constructor
    · exact h.orphansOf_eq_empty hfresh (hinv.symm.trans hinv')
    · intro k hk
      by_cases hkid : k = kid
      · exact .inr hkid
      · have hlook := hlookup k
        rw [hbind', HashMap.lookup_insert_eq_ite, if_neg hkid, if_neg hkid, if_pos hk] at hlook
        exact .inl hlook
  · rintro ⟨horphans, hdiscarded⟩
    have hsame : sys₁.inventory inv = sys.inventory inv := by
      funext id
      rw [h.inventory, horphans, Finset.union_empty]
    refine ⟨c, hc, hsame ▸ hfresh, by rw [hinv, hsame], ?_⟩
    refine Finmap.ext_lookup fun k => ?_
    rw [hlookup, HashMap.lookup_insert_eq_ite]
    split
    · rfl
    · split
      · rcases hdiscarded k ‹_› with hk | hk
        · exact hk.symm
        · contradiction
      · rfl

/-! ## The whole operation -/

/-- What each candidate comes to, up to the one whose outcome is returned. -/
def visits (required : CertificationLevel) (algorithm : Algorithm) :
    List String → Sys S E → List (String × Outcome)
  | [], _ => []
  | c :: cs, sys =>
    let out := attempt required algorithm c sys
    (c, out.1) :: if out.1.goesOn then visits required algorithm cs out.2 else []

theorem visits_of_passedOver {required : CertificationLevel} {algorithm : Algorithm}
    {visited : List (String × Outcome)} {c : String} {post : List String} {sys sys₁ : Sys S E}
    (h : PassedOver required algorithm visited sys sys₁)
    (hpost : (attempt required algorithm c sys₁).1.goesOn = true → post = []) :
    visits required algorithm (visited.map Prod.fst ++ c :: post) sys =
      visited ++ [(c, (attempt required algorithm c sys₁).1)] := by
  induction h with
  | nil =>
    simp only [List.map_nil, List.nil_append, visits]
    split
    · rw [hpost ‹_›]
      rfl
    · rfl
  | cons hc hgo _ ih =>
    simp only [List.map_cons, List.cons_append, visits, hc, hgo, if_true, ih hpost]

/-- The walk `os` from `sys` leaves nothing behind and takes no binding along. -/
def WalkIsClean (sys : Sys S E) (os : List (String × Outcome)) : Prop :=
  (∀ v ∈ os, v.2.orphan = none) ∧
    ∀ kid ∈ discardedKids os, sys.manager.boundTo kid = none ∨
      os.getLast?.bind (fun v => v.2.keptKid) = some kid

/-- The last candidate of the walk ends it with an error that reports a cleanup. -/
def WalkReportsCleanup (os : List (String × Outcome)) : Prop :=
  ∃ v e, os.getLast? = some v ∧ v.2.result = .error e ∧ ReportsCleanup e

/-- On success the key `g` and its binding are all that is new; on an error that reports no
failed or unconfirmed cleanup, nothing has changed. -/
def LeavesNoOrphan (inv : S → Finset KeyId) (sys : Sys S E) (candidates : List String) :
    Except WscdError GeneratedKey × Sys S E → Prop
  | (.ok g, sys') => ∃ c ∈ candidates, g.kid ∉ sys.inventory inv c ∧
      sys'.inventory inv =
        Function.update (sys.inventory inv) c (insert g.kid (sys.inventory inv c)) ∧
      sys'.manager.config.keyBindings = sys.manager.config.keyBindings.insert g.kid c
  | (.error e, sys') => ReportsCleanup e ∨ (sys'.inventory inv = sys.inventory inv ∧
      sys'.manager.config.keyBindings = sys.manager.config.keyBindings)

omit [WscdPlugin S E] in
theorem orphansOf_eq_empty_iff (os : List (String × Outcome)) :
    (∀ id, orphansOf os id = ∅) ↔ ∀ v ∈ os, v.2.orphan = none := by
  constructor
  · rintro h ⟨id, o⟩ hv
    by_contra ho
    obtain ⟨kid, hkid⟩ := Option.ne_none_iff_exists'.mp ho
    have hmem := (mem_orphansOf os id kid).mpr ⟨o, hv, hkid⟩
    rw [h id] at hmem
    exact absurd hmem (Finset.notMem_empty kid)
  · intro h id
    refine Finset.eq_empty_iff_forall_notMem.mpr fun kid hkid => ?_
    obtain ⟨o, hv, ho⟩ := (mem_orphansOf os id kid).mp hkid
    rw [h _ hv] at ho
    cases ho

/-- A key that could not be deleted is reported. -/
theorem Attempted.reports_of_undeletable {required : CertificationLevel} {algorithm : Algorithm}
    {c : String} {sys sys' : Sys S E} {g : GeneratedKey} {msg : String}
    (h : Attempted required algorithm c sys (.undeletable g msg) sys') :
    ReportsCleanup (.plugin msg) := by
  cases h with
  | undeletable _ _ _ _ hrej _ =>
    cases hrej with
    | unconfirmed => exact .inl ⟨_, _, _, rfl⟩
    | short _ => exact .inr ⟨_, _, rfl⟩

/-- An attempt that kept no key and reports no cleanup is settled. -/
theorem Attempted.settled {required : CertificationLevel} {algorithm : Algorithm}
    {c : String} {sys sys' : Sys S E} {o : Outcome} {e : WscdError}
    (h : Attempted required algorithm c sys o sys') (he : o.result = .error e)
    (hreports : ¬ ReportsCleanup e) : o.settled = true := by
  cases o with
  | unresolved id => rfl
  | collided id g existing => rfl
  | discarded g e' => rfl
  | kept g => cases he
  | undeletable g msg =>
    cases he
    exact absurd h.reports_of_undeletable hreports
  | generateFailed e' =>
    cases he
    cases e <;> first | rfl | exact absurd trivial hreports

/-- `generate_key_for_level` leaves nothing behind and destroys nothing exactly when it
reports a cleanup, or no candidate made a key that collided and no rejected key had the kid
of a binding that was there before. -/
theorem leavesNoOrphan_iff (laws : InventoryLaws inv) (sys : Sys S E)
    (required : CertificationLevel) (candidates : List String) (algorithm : Algorithm) :
    LeavesNoOrphan inv sys candidates (sys.generateKeyForLevel required candidates algorithm) ↔
      WalkReportsCleanup (visits required algorithm candidates sys) ∨
        WalkIsClean sys (visits required algorithm candidates sys) := by
  by_cases hne : candidates = []
  · subst hne
    refine ⟨fun _ => .inr ⟨?_, ?_⟩, fun _ => .inr ⟨rfl, rfl⟩⟩ <;> simp [visits, discardedKids]
  obtain ⟨visited, c, post, sys₁, rfl, hpassed, hpost, heq⟩ :=
    generateKeyForLevel_last sys required algorithm hne
  rw [visits_of_passedOver hpassed hpost, heq]
  have hres := hpassed.residue laws
  have hattempt := attempt_attempted required algorithm c sys₁
  generalize (attempt required algorithm c sys₁).1 = o at hattempt ⊢
  generalize (attempt required algorithm c sys₁).2 = sys₂ at hattempt ⊢
  have hlast : (visited ++ [(c, o)]).getLast? = some (c, o) := List.getLast?_concat
  cases he : o.result with
  | error e =>
    -- nothing is kept, so nothing may be left either, unless the error owns up to it
    have hreports : WalkReportsCleanup (visited ++ [(c, o)]) ↔ ReportsCleanup e := by
      refine ⟨?_, fun h => ⟨(c, o), e, hlast, he, h⟩⟩
      rintro ⟨v, e', hv, he', h⟩
      cases hlast.symm.trans hv
      cases he.symm.trans he'
      exact h
    by_cases hrep : ReportsCleanup e
    · exact iff_of_true (.inl hrep) (.inl (hreports.mpr hrep))
    · have hall := hres.trans (hattempt.residue laws (hattempt.settled he hrep))
      have hkept : o.keptKid = none := by cases o <;> first | rfl | cases he
      simp only [LeavesNoOrphan, hreports, hrep, false_or, hall.unchanged_iff,
        orphansOf_eq_empty_iff, WalkIsClean, hlast, Option.bind_some, hkept, reduceCtorEq, or_false]
  | ok g =>
    -- only the last attempt can have kept a key
    have hkept : o = .kept g := by
      cases o <;> simp_all [Outcome.result]
    subst hkept
    have hnot : ¬ WalkReportsCleanup (visited ++ [(c, .kept g)]) := by
      rintro ⟨v, e, hv, he', -⟩
      cases hlast.symm.trans hv
      cases he'
    have horphan : (∀ v ∈ visited ++ [(c, .kept g)], v.2.orphan = none) ↔
        ∀ v ∈ visited, v.2.orphan = none := by
      rw [List.forall_mem_append, List.forall_mem_singleton]
      exact and_iff_left rfl
    have hdiscarded : discardedKids (visited ++ [(c, .kept g)]) = discardedKids visited := by
      rw [discardedKids_append]
      exact List.append_nil _
    cases hattempt with
    | kept hl hg _ hs _ =>
      obtain ⟨hfresh, -, hinv, hbind⟩ := inventory_of_confirm laws hl hg hs
      have hclean : WalkIsClean sys (visited ++ [(c, .kept g)]) ↔
          (∀ id, orphansOf visited id = ∅) ∧
            ∀ k ∈ discardedKids visited, sys.manager.boundTo k = none ∨ k = g.kid := by
        rw [WalkIsClean, horphan, hdiscarded, hlast, orphansOf_eq_empty_iff]
        simp only [Option.bind_some, Outcome.keptKid, Option.some.injEq, @eq_comm _ g.kid]
      rw [or_iff_right hnot, hclean]
      exact hres.kept_iff (by simp) hfresh hinv hbind

/-! ## A backend that collides -/

theorem fixedKid_laws : InventoryLaws FixedKidPlugin.inventory where
  generate_ok algorithm self env g self' env' h := by
    simp only [WscdPlugin.generateKey, FixedKidPlugin.generateKey] at h
    split at h
    · cases h
    · cases h
      simp_all [FixedKidPlugin.inventory]
  generate_error algorithm self env e self' env' h _ := by
    simp only [WscdPlugin.generateKey, FixedKidPlugin.generateKey] at h
    split at h
    · cases h
      rfl
    · cases h
  delete_ok kid self env self' env' h := by
    simp only [WscdPlugin.deleteKey, FixedKidPlugin.deleteKey] at h
    split at h
    · cases h
      ext k
      simp [FixedKidPlugin.inventory, and_comm]
    · cases h

theorem leavesNoOrphan_iff_collisionSys :
    LeavesNoOrphan FixedKidPlugin.inventory collisionSys ["b"]
      (collisionSys.generateKeyForLevel .attestedSharedEnvironment ["b"] .es256) ↔
    WalkReportsCleanup (visits .attestedSharedEnvironment .es256 ["b"] collisionSys) ∨
      WalkIsClean collisionSys (visits .attestedSharedEnvironment .es256 ["b"] collisionSys) :=
  leavesNoOrphan_iff fixedKid_laws collisionSys .attestedSharedEnvironment ["b"] .es256

/-- The text that reports a failed deletion ends with the deletion's own error in brackets. -/
theorem getLast?_of_reportsCleanup {msg : String} (h : ReportsCleanup (.plugin msg)) :
    msg.toList.getLast? = some ')' := by
  rcases h with ⟨pluginId, e, deleteErr, rfl⟩ | ⟨shortfall, deleteErr, rfl⟩
  · unfold unconfirmedLevelMsg
    simp only [String.toList_append, List.getLast?_append]
    rfl
  · unfold insufficientKeyMsg
    simp only [String.toList_append, List.getLast?_append]
    rfl

/-- The key of a candidate rejected for its kid stays in the candidate's backend. -/
theorem collision_leaves_orphan :
    ¬ LeavesNoOrphan FixedKidPlugin.inventory collisionSys ["b"]
      (collisionSys.generateKeyForLevel .attestedSharedEnvironment ["b"] .es256) := by
  have hrun : (collisionSys.generateKeyForLevel .attestedSharedEnvironment ["b"] .es256).1 =
      .error (.plugin (collisionMsg "b" ⟨"same"⟩ "a")) := by rfl
  have hinv : (collisionSys.generateKeyForLevel .attestedSharedEnvironment ["b"] .es256).2.inventory
      FixedKidPlugin.inventory "b" ≠ collisionSys.inventory FixedKidPlugin.inventory "b" := by
    decide
  generalize collisionSys.generateKeyForLevel .attestedSharedEnvironment ["b"] .es256 = out at *
  obtain ⟨r, sys'⟩ := out
  subst hrun
  rintro (hreports | ⟨hsame, -⟩)
  · exact absurd (getLast?_of_reportsCleanup hreports) (by decide)
  · exact hinv (congrFun hsame "b")

end Sys

end Wscd
