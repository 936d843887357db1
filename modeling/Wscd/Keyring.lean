import Wscd.Plugins.Lifecycle

/-!
# Keyrings

A keyring is what the softkey and the fido2 plugin are underneath: a store of key records
and the lifecycle contexts that own some of them. `Keyring.step` says what each operation is
for, with the two points on which the plugins differ as `KeyringRules`. `Keyring.Moves` says
once and for all what a step can do; every invariant is read off it.

Results:
1. `step_moves`: a step makes one of the moves.
2. `Ordered.of_moves`: no key is owned twice, and contexts own only lifecycle keys.
3. `NoOrphan.of_moves`: a lifecycle key that is stored is owned, unless a rotation named a
   context that does not exist.
4. `Filed.of_moves`: what is true of every record made and of every time given is true of the
   records and the contexts.
-/

namespace Wscd

open Lib

/-! ## Operations -/

/-- The operations on a plugin's keys and contexts; `D` is what a key generation draws from
outside. -/
inductive LifecycleOp (D : Type) where
  | generateKey (algorithm : Algorithm) (d : D)
  | deleteKey (kid : KeyId)
  | registerLifecycle (request : RegisterLifecycleRequest) (d : D) (now : Int)
  | activateLifecycle (request : ActivateLifecycleRequest) (now : Int)
  | rotateLifecycle (request : RotateLifecycleRequest) (d : D) (now : Int)
  | destroyLifecycle (request : DestroyLifecycleRequest) (now : Int)

/-- Whether an operation is one of the four on contexts. -/
def LifecycleOp.onContext {D : Type} : LifecycleOp D → Bool
  | .generateKey .. | .deleteKey .. => false
  | _ => true

/-- What the plugins do differently. -/
structure KeyringRules where
  /-- The state of a context after a rotation. -/
  rotated : LifecycleState → LifecycleState
  /-- Destroying a context empties the store. -/
  sweeps : Bool

structure Keyring (V : Type) where
  keys : HashMap String V
  contexts : LifecycleMap

namespace Keyring

variable {V D : Type}

/-- There is a record for the key. -/
def Stored (r : Keyring V) (kid : KeyId) : Prop := r.keys.lookup kid.asStr ≠ none

/-- The keys a context owns. -/
def listed (r : Keyring V) (c : String) : List KeyId :=
  ((r.contexts.lookup c).map LifecycleContext.keyIds).getD []

def store (kidOf : V → String) (v : V) (r : Keyring V) : Keyring V :=
  { r with keys := r.keys.insert (kidOf v) v }

def purge (kids : List KeyId) (r : Keyring V) : Keyring V :=
  { r with keys := HashMap.eraseAll (kids.map KeyId.asStr) r.keys }

def setContext (c : String) (ctx : LifecycleContext) (r : Keyring V) : Keyring V :=
  { r with contexts := r.contexts.insert c ctx }

def sweep (r : Keyring V) : Keyring V := { r with keys := ∅ }

/-- One operation; `made` is what its key generation comes to. -/
def step (rules : KeyringRules) (kidOf : V → String) (made : Except WscdError V)
    (op : LifecycleOp D) (r : Keyring V) : Except WscdError Unit × Keyring V :=
  match op with
  | .generateKey _ _ =>
    match made with
    | .error e => (.error e, r)
    | .ok v => (.ok (), r.store kidOf v)
  | .deleteKey kid =>
    match r.keys.lookup kid.asStr with
    | none => (.error (.keyNotFound kid.asStr), r)
    | some _ => (.ok (), r.purge [kid])
  | .registerLifecycle request _ now =>
    match made with
    | .error e => (.error e, r)
    | .ok v =>
      (.ok (), ((r.store kidOf v).purge (r.listed request.contextId)).setContext request.contextId
        ⟨request.factorKind, .registered, now, [⟨kidOf v⟩]⟩)
  | .activateLifecycle request now =>
    match r.contexts.lookup request.contextId with
    | none => (.error (.keyNotFound request.contextId), r)
    | some ctx =>
      (.ok (), r.setContext request.contextId { ctx with state := .active, updatedAt := now })
  | .rotateLifecycle request _ now =>
    match made with
    | .error e => (.error e, r)
    | .ok v =>
      match r.contexts.lookup request.contextId with
      | none => (.error (.keyNotFound request.contextId), r.store kidOf v)
      | some ctx =>
        (.ok (), (r.store kidOf v).setContext request.contextId
          { ctx with
            state := rules.rotated ctx.state
            updatedAt := now
            keyIds := ctx.keyIds ++ [⟨kidOf v⟩] })
  | .destroyLifecycle request now =>
    match r.contexts.lookup request.contextId with
    | none => (.error (.keyNotFound request.contextId), r)
    | some ctx =>
      (.ok (), (if rules.sweeps then r.sweep else r.purge ctx.keyIds).setContext request.contextId
        { ctx with state := .destroyed, updatedAt := now, keyIds := [] })

/-! ## What a step can do -/

/-- `Moves rules kidOf r op made res r'`: on `r`, the operation `op`, whose key generation
comes to `made`, may end with `res` and leave `r'`. -/
inductive Moves (rules : KeyringRules) (kidOf : V → String) (r : Keyring V) :
    LifecycleOp D → Except WscdError V → Except WscdError Unit → Keyring V → Prop
  | refused {op : LifecycleOp D} {made : Except WscdError V} {e : WscdError} :
      Moves rules kidOf r op made (.error e) r
  | generated {algorithm : Algorithm} {d : D} {v : V} :
      Moves rules kidOf r (.generateKey algorithm d) (.ok v) (.ok ()) (r.store kidOf v)
  | deleted {kid : KeyId} {made : Except WscdError V} :
      Moves rules kidOf r (.deleteKey kid) made (.ok ()) (r.purge [kid])
  | registered {request : RegisterLifecycleRequest} {d : D} {now : Int} {v : V} :
      Moves rules kidOf r (.registerLifecycle request d now) (.ok v) (.ok ())
        (((r.store kidOf v).purge (r.listed request.contextId)).setContext request.contextId
          ⟨request.factorKind, .registered, now, [⟨kidOf v⟩]⟩)
  | activated {request : ActivateLifecycleRequest} {now : Int} {made : Except WscdError V}
      {ctx : LifecycleContext} : r.contexts.lookup request.contextId = some ctx →
      Moves rules kidOf r (.activateLifecycle request now) made (.ok ())
        (r.setContext request.contextId { ctx with state := .active, updatedAt := now })
  | orphaned {request : RotateLifecycleRequest} {d : D} {now : Int} {v : V} :
      r.contexts.lookup request.contextId = none →
      Moves rules kidOf r (.rotateLifecycle request d now) (.ok v)
        (.error (.keyNotFound request.contextId)) (r.store kidOf v)
  | rotated {request : RotateLifecycleRequest} {d : D} {now : Int} {v : V}
      {ctx : LifecycleContext} : r.contexts.lookup request.contextId = some ctx →
      Moves rules kidOf r (.rotateLifecycle request d now) (.ok v) (.ok ())
        ((r.store kidOf v).setContext request.contextId
          { ctx with
            state := rules.rotated ctx.state
            updatedAt := now
            keyIds := ctx.keyIds ++ [⟨kidOf v⟩] })
  | destroyed {request : DestroyLifecycleRequest} {now : Int} {made : Except WscdError V}
      {ctx : LifecycleContext} : r.contexts.lookup request.contextId = some ctx →
      Moves rules kidOf r (.destroyLifecycle request now) made (.ok ())
        ((if rules.sweeps then r.sweep else r.purge ctx.keyIds).setContext request.contextId
          { ctx with state := .destroyed, updatedAt := now, keyIds := [] })

theorem step_moves (rules : KeyringRules) (kidOf : V → String) (made : Except WscdError V)
    (op : LifecycleOp D) (r : Keyring V) :
    Moves rules kidOf r op made (r.step rules kidOf made op).1 (r.step rules kidOf made op).2 := by
  cases op with
  | generateKey algorithm d =>
    cases made with
    | error e => exact .refused
    | ok v => exact .generated
  | deleteKey kid =>
    unfold step
    dsimp only
    cases r.keys.lookup kid.asStr with
    | none => exact .refused
    | some v => exact .deleted
  | registerLifecycle request d now =>
    cases made with
    | error e => exact .refused
    | ok v => exact .registered
  | activateLifecycle request now =>
    unfold step
    dsimp only
    cases h : r.contexts.lookup request.contextId with
    | none => exact .refused
    | some ctx => exact .activated h
  | rotateLifecycle request d now =>
    cases made with
    | error e => exact .refused
    | ok v =>
      unfold step
      dsimp only
      cases h : r.contexts.lookup request.contextId with
      | none => exact .orphaned h
      | some ctx => exact .rotated h
  | destroyLifecycle request now =>
    unfold step
    dsimp only
    cases h : r.contexts.lookup request.contextId with
    | none => exact .refused
    | some ctx => exact .destroyed h

/-! ## Lookups -/

theorem listed_of_lookup {r : Keyring V} {c : String} {ctx : LifecycleContext}
    (h : r.contexts.lookup c = some ctx) : r.listed c = ctx.keyIds := by
  rw [listed, h]
  rfl

@[simp] theorem listed_store (kidOf : V → String) (v : V) (r : Keyring V) (c : String) :
    (r.store kidOf v).listed c = r.listed c := rfl

@[simp] theorem keys_setContext (c : String) (ctx : LifecycleContext) (r : Keyring V) :
    (r.setContext c ctx).keys = r.keys := rfl

theorem lookup_setContext (c c' : String) (ctx : LifecycleContext) (r : Keyring V) :
    (r.setContext c ctx).contexts.lookup c' = if c' = c then some ctx else r.contexts.lookup c' :=
  HashMap.lookup_insert_eq_ite _ _ _ _

theorem listed_setContext (c c' : String) (ctx : LifecycleContext) (r : Keyring V) :
    (r.setContext c ctx).listed c' = if c' = c then ctx.keyIds else r.listed c' := by
  unfold listed
  rw [lookup_setContext]
  split <;> rfl

theorem lookup_store (kidOf : V → String) (v : V) (r : Keyring V) (k : String) :
    (r.store kidOf v).keys.lookup k = if k = kidOf v then some v else r.keys.lookup k :=
  HashMap.lookup_insert_eq_ite _ _ _ _

theorem mem_map_asStr (kids : List KeyId) (kid : KeyId) :
    kid.asStr ∈ kids.map KeyId.asStr ↔ kid ∈ kids := by
  rw [List.mem_map]
  constructor
  · rintro ⟨⟨k⟩, hk, rfl⟩
    exact hk
  · intro h
    exact ⟨kid, h, rfl⟩

theorem lookup_purge (kids : List KeyId) (r : Keyring V) (kid : KeyId) :
    (r.purge kids).keys.lookup kid.asStr =
      if kid ∈ kids then none else r.keys.lookup kid.asStr := by
  refine (HashMap.lookup_eraseAll _ _ _).trans ?_
  simp only [mem_map_asStr]

theorem stored_store (kidOf : V → String) (v : V) (r : Keyring V) (kid : KeyId) :
    (r.store kidOf v).Stored kid ↔ kid = ⟨kidOf v⟩ ∨ r.Stored kid := by
  unfold Stored
  rw [lookup_store]
  rcases kid with ⟨k⟩
  by_cases h : k = kidOf v <;> simp [h]

theorem stored_purge (kids : List KeyId) (r : Keyring V) (kid : KeyId) :
    (r.purge kids).Stored kid ↔ kid ∉ kids ∧ r.Stored kid := by
  unfold Stored
  rw [lookup_purge]
  split <;> simp [*]

theorem not_stored_sweep (r : Keyring V) (kid : KeyId) : ¬ r.sweep.Stored kid :=
  fun h => h (Finmap.lookup_empty _)

theorem stored_setContext (c : String) (ctx : LifecycleContext) (r : Keyring V) (kid : KeyId) :
    (r.setContext c ctx).Stored kid ↔ r.Stored kid := Iff.rfl

/-! ## No key is owned twice -/

/-- The kid a key generation made, if it made one. -/
def newKids (kidOf : V → String) : Except WscdError V → List KeyId
  | .ok v => [⟨kidOf v⟩]
  | .error _ => []

/-- The keys that contexts may own, after an operation. -/
def newOwned (kidOf : V → String) (op : LifecycleOp D) (made : Except WscdError V) : List KeyId :=
  if op.onContext then newKids kidOf made else []

/-- The bookkeeping is in order, when `made` are the kids ever generated and `owned` those
generated by an operation on a context. -/
structure Ordered (kidOf : V → String) (made owned : List KeyId) (r : Keyring V) : Prop where
  keyed : ∀ k v, r.keys.lookup k = some v → kidOf v = k
  stored_made : ∀ kid, r.Stored kid → kid ∈ made
  owned_made : ∀ kid, kid ∈ owned → kid ∈ made
  listed_owned : ∀ c kid, kid ∈ r.listed c → kid ∈ owned
  disjoint : ∀ c c' kid, kid ∈ r.listed c → kid ∈ r.listed c' → c = c'

variable {kidOf : V → String} {made owned made' owned' : List KeyId} {r : Keyring V}

theorem Ordered.mono (h : Ordered kidOf made owned r) (hm : made ⊆ made') (ho : owned ⊆ owned')
    (hom : owned' ⊆ made') : Ordered kidOf made' owned' r where
  keyed := h.keyed
  stored_made kid hk := hm (h.stored_made kid hk)
  owned_made _ hk := hom hk
  listed_owned c kid hk := ho (h.listed_owned c kid hk)
  disjoint := h.disjoint

theorem Ordered.purge (h : Ordered kidOf made owned r) (kids : List KeyId) :
    Ordered kidOf made owned (r.purge kids) where
  keyed k v hk := by
    have hlookup := lookup_purge kids r ⟨k⟩
    rw [hk] at hlookup
    split at hlookup
    · cases hlookup
    · exact h.keyed k v hlookup.symm
  stored_made kid hk := h.stored_made kid ((stored_purge kids r kid).mp hk).2
  owned_made := h.owned_made
  listed_owned := h.listed_owned
  disjoint := h.disjoint

theorem Ordered.sweep (h : Ordered kidOf made owned r) : Ordered kidOf made owned r.sweep where
  keyed k v hk := by
    rw [Keyring.sweep, Finmap.lookup_empty] at hk
    cases hk
  stored_made kid hk := absurd hk (not_stored_sweep r kid)
  owned_made := h.owned_made
  listed_owned := h.listed_owned
  disjoint := h.disjoint

theorem Ordered.store {v : V} (h : Ordered kidOf made owned r) (hv : ⟨kidOf v⟩ ∈ made) :
    Ordered kidOf made owned (r.store kidOf v) where
  keyed k w hk := by
    rw [lookup_store] at hk
    split at hk
    · cases hk
      exact Eq.symm ‹_›
    · exact h.keyed k w hk
  stored_made kid hk := by
    rcases (stored_store kidOf v r kid).mp hk with rfl | hk
    · exact hv
    · exact h.stored_made kid hk
  owned_made := h.owned_made
  listed_owned := h.listed_owned
  disjoint := h.disjoint

/-- A context may keep its keys, lose some, and gain keys no context has. -/
theorem Ordered.setContext {c : String} {ctx : LifecycleContext}
    (h : Ordered kidOf made owned r)
    (hctx : ∀ kid ∈ ctx.keyIds, kid ∈ r.listed c ∨ (kid ∈ owned ∧ ∀ c', kid ∉ r.listed c')) :
    Ordered kidOf made owned (r.setContext c ctx) where
  keyed := h.keyed
  stored_made := h.stored_made
  owned_made := h.owned_made
  listed_owned c' kid hk := by
    rw [listed_setContext] at hk
    split at hk
    · rcases hctx kid hk with hk | hk
      · exact h.listed_owned c kid hk
      · exact hk.1
    · exact h.listed_owned c' kid hk
  disjoint c₁ c₂ kid hk₁ hk₂ := by
    rw [listed_setContext] at hk₁ hk₂
    split at hk₁ <;> split at hk₂
    · exact Eq.trans ‹_› (Eq.symm ‹_›)
    · rcases hctx kid hk₁ with hk | hk
      · exact Eq.trans ‹_› (h.disjoint c c₂ kid hk hk₂)
      · exact absurd hk₂ (hk.2 c₂)
    · rcases hctx kid hk₂ with hk | hk
      · exact (h.disjoint c₁ c kid hk₁ hk).trans (Eq.symm ‹_›)
      · exact absurd hk₁ (hk.2 c₁)
    · exact h.disjoint c₁ c₂ kid hk₁ hk₂

/-- A kid nobody has generated is owned by no context. -/
theorem Ordered.not_listed_of_fresh (h : Ordered kidOf made owned r) {kid : KeyId}
    (hkid : kid ∉ made) (c : String) : kid ∉ r.listed c :=
  fun hk => hkid (h.owned_made kid (h.listed_owned c kid hk))

/-- Kids nobody has generated before. -/
def Fresh (made kids : List KeyId) : Prop := ∀ kid ∈ kids, kid ∉ made

theorem newOwned_subset (kidOf : V → String) (op : LifecycleOp D) (gen : Except WscdError V) :
    newOwned kidOf op gen ⊆ newKids kidOf gen := by
  intro kid h
  unfold newOwned at h
  split at h
  · exact h
  · exact absurd h List.not_mem_nil

/-- Entering new kids in the books. -/
theorem Ordered.grow {kids owns : List KeyId} (h : Ordered kidOf made owned r)
    (hsub : owns ⊆ kids) : Ordered kidOf (made ++ kids) (owned ++ owns) r := by
  refine h.mono (List.subset_append_left _ _) (List.subset_append_left _ _) ?_
  intro kid hkid
  rcases List.mem_append.mp hkid with hkid | hkid
  · exact List.mem_append_left _ (h.owned_made kid hkid)
  · exact List.mem_append_right _ (hsub hkid)

/-- Every move keeps the books in order. -/
theorem Ordered.of_moves {rules : KeyringRules} {op : LifecycleOp D} {gen : Except WscdError V}
    {res : Except WscdError Unit} {r' : Keyring V} (h : Ordered kidOf made owned r)
    (hfresh : Fresh made (newKids kidOf gen)) (hmove : Moves rules kidOf r op gen res r') :
    Ordered kidOf (made ++ newKids kidOf gen) (owned ++ newOwned kidOf op gen) r' := by
  have hgrow := h.grow (newOwned_subset kidOf op gen)
  -- a context that already existed keeps a part of its keys
  have hkept (c : String) (ctx : LifecycleContext) (hctx : ∀ kid ∈ ctx.keyIds, kid ∈ r.listed c)
      (kid : KeyId) (hkid : kid ∈ ctx.keyIds) :
      kid ∈ r.listed c ∨ (kid ∈ owned ++ newOwned kidOf op gen ∧ ∀ c', kid ∉ r.listed c') :=
    .inl (hctx kid hkid)
  have hmade (v : V) : (⟨kidOf v⟩ : KeyId) ∈ made ++ newKids kidOf (.ok v) :=
    List.mem_append_right _ List.mem_cons_self
  cases hmove with
  | refused => exact hgrow
  | generated => exact hgrow.store (hmade _)
  | deleted => exact hgrow.purge _
  | @registered request d now v =>
    refine ((hgrow.store (hmade v)).purge _).setContext fun kid hkid => .inr ?_
    rw [List.mem_singleton.mp hkid]
    refine ⟨List.mem_append_right _ List.mem_cons_self, fun c' => ?_⟩
    exact h.not_listed_of_fresh (hfresh _ List.mem_cons_self) c'
  | activated hlookup =>
    refine hgrow.setContext (hkept _ _ fun kid hkid => ?_)
    rw [listed_of_lookup hlookup]
    exact hkid
  | orphaned hlookup => exact hgrow.store (hmade _)
  | @rotated request d now v ctx hlookup =>
    refine (hgrow.store (hmade v)).setContext fun kid hkid => ?_
    rw [listed_store, listed_of_lookup hlookup]
    rcases List.mem_append.mp hkid with hkid | hkid
    · exact .inl hkid
    · rw [List.mem_singleton.mp hkid]
      refine .inr ⟨List.mem_append_right _ List.mem_cons_self, fun c' => ?_⟩
      exact h.not_listed_of_fresh (hfresh _ List.mem_cons_self) c'
  | destroyed hlookup =>
    split
    · exact hgrow.sweep.setContext fun kid hkid => absurd hkid List.not_mem_nil
    · exact (hgrow.purge _).setContext fun kid hkid => absurd hkid List.not_mem_nil

/-! ## No lifecycle key is an orphan -/

/-- Every stored lifecycle key is owned by a context. -/
def NoOrphan (owned : List KeyId) (r : Keyring V) : Prop :=
  ∀ kid ∈ owned, r.Stored kid → ∃ c, kid ∈ r.listed c

/-- Keys nobody had generated yet are no orphans. -/
theorem NoOrphan.grow {kids owns : List KeyId} (h : NoOrphan owned r)
    (ho : Ordered kidOf made owned r) (hfresh : Fresh made kids) (hsub : owns ⊆ kids) :
    NoOrphan (owned ++ owns) r := by
  intro kid hkid hstored
  rcases List.mem_append.mp hkid with hkid | hkid
  · exact h kid hkid hstored
  · exact absurd (ho.stored_made kid hstored) (hfresh kid (hsub hkid))

theorem NoOrphan.purge (h : NoOrphan owned r) (kids : List KeyId) :
    NoOrphan owned (r.purge kids) :=
  fun kid hkid hstored => h kid hkid ((stored_purge kids r kid).mp hstored).2

/-- After the store has changed to that of `r₁`, a context may take over the keys that are
new and drop the keys that are gone. -/
theorem NoOrphan.setContext {r₁ : Keyring V} (h : NoOrphan owned r) {c : String}
    {ctx : LifecycleContext} (hlisted : ∀ c', r₁.listed c' = r.listed c')
    (hnew : ∀ kid, r₁.Stored kid → r.Stored kid ∨ kid ∈ ctx.keyIds)
    (hgone : ∀ kid ∈ r.listed c, r₁.Stored kid → kid ∈ ctx.keyIds) :
    NoOrphan owned (r₁.setContext c ctx) := by
  intro kid hkid hstored
  have hc (hmem : kid ∈ ctx.keyIds) : kid ∈ (r₁.setContext c ctx).listed c := by
    rwa [listed_setContext, if_pos rfl]
  rcases hnew kid hstored with hold | hmem
  · obtain ⟨c', hc'⟩ := h kid hkid hold
    rcases eq_or_ne c' c with rfl | hne
    · exact ⟨c', hc (hgone kid hc' hstored)⟩
    · refine ⟨c', ?_⟩
      rwa [listed_setContext, if_neg hne, hlisted]
  · exact ⟨c, hc hmem⟩

/-- An operation does not rotate a context that does not exist. -/
def KnownContext (r : Keyring V) (op : LifecycleOp D) (gen : Except WscdError V) : Prop :=
  match op with
  | .rotateLifecycle request _ _ =>
    gen.isOk = true → r.contexts.lookup request.contextId ≠ none
  | _ => True

/-- Every move of an operation on known contexts leaves no orphan. -/
theorem NoOrphan.of_moves {rules : KeyringRules} {op : LifecycleOp D} {gen : Except WscdError V}
    {res : Except WscdError Unit} {r' : Keyring V} (h : NoOrphan owned r)
    (ho : Ordered kidOf made owned r) (hfresh : Fresh made (newKids kidOf gen))
    (hknown : KnownContext r op gen) (hmove : Moves rules kidOf r op gen res r') :
    NoOrphan (owned ++ newOwned kidOf op gen) r' := by
  have hgrow := h.grow ho hfresh (newOwned_subset kidOf op gen)
  cases hmove with
  | refused => exact hgrow
  | @generated algorithm d v =>
    intro kid hkid hstored
    rw [stored_store] at hstored
    rcases hstored with rfl | hstored
    · -- a key generated outside a context is not a lifecycle key
      have hkid' : (⟨kidOf v⟩ : KeyId) ∈ owned := by
        simpa [newOwned, LifecycleOp.onContext] using hkid
      exact absurd (ho.owned_made _ hkid') (hfresh _ List.mem_cons_self)
    · exact hgrow kid hkid hstored
  | deleted => exact hgrow.purge _
  | registered =>
    refine hgrow.setContext (fun _ => rfl) (fun kid hstored => ?_) (fun kid hkid hstored => ?_)
    · rcases (stored_store _ _ _ _).mp ((stored_purge _ _ _).mp hstored).2 with rfl | hstored
      · exact .inr List.mem_cons_self
      · exact .inl hstored
    · exact absurd hkid ((stored_purge _ _ _).mp hstored).1
  | activated hlookup =>
    refine hgrow.setContext (fun _ => rfl) (fun kid hstored => .inl hstored) (fun kid hkid _ => ?_)
    rwa [listed_of_lookup hlookup] at hkid
  | orphaned hlookup => exact absurd hlookup (hknown rfl)
  | rotated hlookup =>
    refine hgrow.setContext (fun _ => rfl) (fun kid hstored => ?_) (fun kid hkid _ => ?_)
    · rcases (stored_store _ _ _ _).mp hstored with rfl | hstored
      · exact .inr (List.mem_append_right _ List.mem_cons_self)
      · exact .inl hstored
    · rw [listed_of_lookup hlookup] at hkid
      exact List.mem_append_left _ hkid
  | destroyed hlookup =>
    split
    · refine hgrow.setContext (fun _ => rfl) (fun kid hstored => ?_) (fun kid _ hstored => ?_)
      · exact absurd hstored (not_stored_sweep r kid)
      · exact absurd hstored (not_stored_sweep r kid)
    · refine hgrow.setContext (fun _ => rfl) (fun kid hstored => ?_) (fun kid hkid hstored => ?_)
      · exact .inl ((stored_purge _ _ _).mp hstored).2
      · rw [listed_of_lookup hlookup] at hkid
        exact absurd hkid ((stored_purge _ _ _).mp hstored).1

/-! ## What the records and contexts are like -/

/-- The time an operation puts in a context. -/
def stamp : LifecycleOp D → Option Int
  | .registerLifecycle _ _ now | .rotateLifecycle _ _ now => some now
  | .activateLifecycle _ now | .destroyLifecycle _ now => some now
  | .generateKey _ _ | .deleteKey _ => none

/-- Every record is under its own kid and as `P` says, and so is every context's time. -/
structure Filed (kidOf : V → String) (P : V → Prop) (T : Int → Prop) (r : Keyring V) : Prop where
  keyed : ∀ kid v, r.keys.lookup kid = some v → kidOf v = kid
  record : ∀ kid v, r.keys.lookup kid = some v → P v
  updatedAt : ∀ c ctx, r.contexts.lookup c = some ctx → T ctx.updatedAt

section Filed

variable {P : V → Prop} {T : Int → Prop}

theorem filed_empty : Filed kidOf P T ⟨∅, ∅⟩ := ⟨nofun, nofun, nofun⟩

/-- Records may go. -/
theorem Filed.of_subset {r' : Keyring V} (h : Filed kidOf P T r)
    (hkeys : ∀ kid v, r'.keys.lookup kid = some v → r.keys.lookup kid = some v)
    (hcontexts : r'.contexts = r.contexts) : Filed kidOf P T r' where
  keyed kid v hv := h.keyed kid v (hkeys kid v hv)
  record kid v hv := h.record kid v (hkeys kid v hv)
  updatedAt := hcontexts ▸ h.updatedAt

theorem Filed.purge (h : Filed kidOf P T r) (kids : List KeyId) :
    Filed kidOf P T (r.purge kids) := by
  refine h.of_subset (fun kid v hv => ?_) rfl
  have hlookup := lookup_purge kids r ⟨kid⟩
  rw [hv] at hlookup
  split at hlookup
  · cases hlookup
  · exact hlookup.symm

theorem Filed.sweep (h : Filed kidOf P T r) : Filed kidOf P T r.sweep := by
  refine h.of_subset (fun kid v hv => ?_) rfl
  rw [Keyring.sweep, Finmap.lookup_empty] at hv
  cases hv

theorem Filed.store {v : V} (h : Filed kidOf P T r) (hv : P v) :
    Filed kidOf P T (r.store kidOf v) where
  keyed kid w hw := by
    rw [lookup_store] at hw
    split at hw
    · cases hw
      exact Eq.symm ‹_›
    · exact h.keyed kid w hw
  record kid w hw := by
    rw [lookup_store] at hw
    split at hw
    · cases hw
      exact hv
    · exact h.record kid w hw
  updatedAt := h.updatedAt

theorem Filed.setContext (h : Filed kidOf P T r) {ctx : LifecycleContext} (hctx : T ctx.updatedAt)
    (c : String) : Filed kidOf P T (r.setContext c ctx) where
  keyed := h.keyed
  record := h.record
  updatedAt other ctx' hlookup := by
    rw [lookup_setContext] at hlookup
    split at hlookup
    · cases hlookup
      exact hctx
    · exact h.updatedAt other ctx' hlookup

/-- A move keeps the records and contexts as they are to be. -/
theorem Filed.of_moves {rules : KeyringRules} {op : LifecycleOp D} {gen : Except WscdError V}
    {res : Except WscdError Unit} {r' : Keyring V} (h : Filed kidOf P T r)
    (hgen : ∀ v, gen = .ok v → P v) (hstamp : ∀ now, stamp op = some now → T now)
    (hmove : Moves rules kidOf r op gen res r') : Filed kidOf P T r' := by
  cases hmove with
  | refused => exact h
  | generated => exact h.store (hgen _ rfl)
  | deleted => exact h.purge _
  | registered => exact ((h.store (hgen _ rfl)).purge _).setContext (hstamp _ rfl) _
  | activated _ => exact h.setContext (hstamp _ rfl) _
  | orphaned _ => exact h.store (hgen _ rfl)
  | rotated _ => exact (h.store (hgen _ rfl)).setContext (hstamp _ rfl) _
  | destroyed _ =>
    split
    · exact h.sweep.setContext (hstamp _ rfl) _
    · exact (h.purge _).setContext (hstamp _ rfl) _

end Filed

end Keyring

end Wscd
