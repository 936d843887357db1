import Wscd.KeyringPlugins
import Wscd.Lib.Pool

/-!
# Concurrent lifecycle calls

The softkey plugin keeps its keys and its contexts under two locks, and a lifecycle call
takes them one after the other: a registration and a rotation store the new key before they
record it, a destruction reads the keys of its context, removes them and clears the context.
A `CallState` is a call between two of its locked sections, and any number of calls run on
one plugin in any order of sections.

Results:
1. `Calls.run_alone`: a call that nothing interrupts is the sequential operation.
2. `CallState.step_advances`: all that a section does to the keys and to the calls.
3. `concurrent_calls_keepTrack_iff`: once every call has returned successfully, the keys the
   calls made are accounted for exactly if no destruction has cleared a key that nobody read.
-/

namespace Wscd

open Lib

/-! ## Calls and their locked sections -/

inductive LifecycleCall where
  | registerLifecycle (request : RegisterLifecycleRequest) (d : Draw) (now : Int)
  | rotateLifecycle (request : RotateLifecycleRequest) (d : Draw) (now : Int)
  | destroyLifecycle (request : DestroyLifecycleRequest) (now : Int)

namespace LifecycleCall

def toOp : LifecycleCall → LifecycleOp Draw
  | .registerLifecycle request d now => .registerLifecycle request d now
  | .rotateLifecycle request d now => .rotateLifecycle request d now
  | .destroyLifecycle request now => .destroyLifecycle request now

/-- The kids a call generates. -/
def newKids (crypto : SoftkeyCrypto) (call : LifecycleCall) : List KeyId :=
  Keyring.newKids Softkey.StoredKey.kid (SoftkeyPlugin.generated crypto call.toOp)

end LifecycleCall

/-- A call between two of its locked sections. -/
inductive CallState where
  | start (call : LifecycleCall)
  /-- The new key is stored, its context not yet written. -/
  | registering (request : RegisterLifecycleRequest) (kid : KeyId) (now : Int)
  | rotating (request : RotateLifecycleRequest) (kid : KeyId) (now : Int)
  /-- The keys of the context are read and not yet removed. -/
  | removing (request : DestroyLifecycleRequest) (now : Int) (keyIds : List KeyId)
  | clearing (request : DestroyLifecycleRequest) (now : Int)
  | returned (result : Except WscdError Unit)

namespace CallState

/-- The next locked section. A registration takes the key lock inside the other one, so its
purge and its update of the contexts are one section. -/
def step (crypto : SoftkeyCrypto) (t : CallState) (self : SoftkeyPlugin) :
    CallState × SoftkeyPlugin :=
  match t with
  | .start (.registerLifecycle request d now) =>
    match self.generateKey crypto .es256 d with
    | (.error e, self') => (.returned (.error e), self')
    | (.ok generated, self') => (.registering request generated.kid now, self')
  | .registering request kid now =>
    let out := registerLifecycleContext self.lifecycle request.contextId request.factorKind kid
      now SoftkeyPlugin.removeKeys self.keys
    (.returned (.ok ()), ⟨out.2.2, out.2.1⟩)
  | .start (.rotateLifecycle request d now) =>
    match self.generateKey crypto .es256 d with
    | (.error e, self') => (.returned (.error e), self')
    | (.ok generated, self') => (.rotating request generated.kid now, self')
  | .rotating request kid now =>
    match rotateLifecyclePushKey self.lifecycle request.contextId kid now with
    | .error e => (.returned (.error e), self)
    | .ok ctx =>
      (.returned (.ok ()), { self with lifecycle := self.lifecycle.insert request.contextId ctx })
  | .start (.destroyLifecycle request now) =>
    match self.lifecycle.lookup request.contextId with
    | none => (.returned (.error (.keyNotFound request.contextId)), self)
    | some ctx => (.removing request now ctx.keyIds, self)
  | .removing request now keyIds =>
    (.clearing request now, { self with keys := SoftkeyPlugin.removeKeys keyIds self.keys })
  | .clearing request now =>
    let lifecycle :=
      match self.lifecycle.lookup request.contextId with
      | some ctx =>
        self.lifecycle.insert request.contextId
          { ctx with state := .destroyed, updatedAt := now, keyIds := [] }
      | none => self.lifecycle
    (.returned (.ok ()), { self with lifecycle := lifecycle })
  | .returned result => (.returned result, self)

/-- A call that nothing interrupts is the sequential operation. -/
theorem alone_eq (crypto : SoftkeyCrypto) (call : LifecycleCall) (self : SoftkeyPlugin) :
    Pool.alone (step crypto) 3 (.start call) self =
      (.returned (self.apply crypto call.toOp).1, (self.apply crypto call.toOp).2) := by
  cases call with
  | registerLifecycle request d now =>
    simp only [Pool.alone, step, LifecycleCall.toOp, SoftkeyPlugin.apply,
      SoftkeyPlugin.registerLifecycle]
    rcases self.generateKey crypto .es256 d with ⟨e | generated, self'⟩ <;> rfl
  | rotateLifecycle request d now =>
    simp only [Pool.alone, step, LifecycleCall.toOp, SoftkeyPlugin.apply,
      SoftkeyPlugin.rotateLifecycle]
    rcases self.generateKey crypto .es256 d with ⟨e | generated, self'⟩
    · rfl
    · dsimp only
      cases rotateLifecyclePushKey self'.lifecycle request.contextId generated.kid now <;> rfl
  | destroyLifecycle request now =>
    simp only [Pool.alone, step, LifecycleCall.toOp, SoftkeyPlugin.apply,
      SoftkeyPlugin.destroyLifecycle]
    cases hlookup : self.lifecycle.lookup request.contextId with
    | none => rfl
    | some ctx => simp only [hlookup, withoutValue, Except.map]

/-! ## What a call has in hand -/

/-- The keys a call has still to record, generated or not. -/
def unrecorded (crypto : SoftkeyCrypto) : CallState → List KeyId
  | .start call => call.newKids crypto
  | .registering _ kid _ | .rotating _ kid _ => [kid]
  | _ => []

/-- Of these, the one that is generated. -/
def held : CallState → List KeyId
  | .registering _ kid _ | .rotating _ kid _ => [kid]
  | _ => []

/-- The context a call is about to record its key in. -/
def records : CallState → Option String
  | .registering request _ _ => some request.contextId
  | .rotating request _ _ => some request.contextId
  | _ => none

/-- The keys a destruction has read and not yet removed. -/
def doomed : CallState → List KeyId
  | .removing _ _ keyIds => keyIds
  | _ => []

/-- The context whose keys a destruction has read. -/
def destroys : CallState → Option String
  | .removing request _ _ => some request.contextId
  | .clearing request _ => some request.contextId
  | _ => none

/-- The context a destruction is about to clear. -/
def clears : CallState → Option String
  | .clearing request _ => some request.contextId
  | _ => none

def failed : CallState → Bool
  | .returned (.error _) => true
  | _ => false

/-- All that a section does, from `t` to `t'` and from `r` to `r'`. -/
structure Advances (crypto : SoftkeyCrypto) (t t' : CallState)
    (r r' : Keyring Softkey.StoredKey) : Prop where
  unrecorded_subset : t'.unrecorded crypto ⊆ t.unrecorded crypto
  /-- What is no longer to be recorded is recorded, or the call has failed. -/
  recorded : ∀ kid ∈ t.unrecorded crypto,
    kid ∈ t'.unrecorded crypto ∨ (∃ c, kid ∈ r'.listed c) ∨ t'.failed = true
  held_stored : ∀ kid ∈ t'.held, kid ∈ t.held ∨ r'.Stored kid
  doomed_read : ∀ kid ∈ t'.doomed,
    (kid ∈ t.doomed ∧ t'.destroys = t.destroys) ∨ ∃ c, t'.destroys = some c ∧ kid ∈ r.listed c
  doomed_removed : ∀ kid ∈ t.doomed, kid ∈ t'.doomed ∨ ¬ r'.Stored kid
  failed_stays : t.failed = true → t'.failed = true
  listed_by : ∀ c kid, kid ∈ r'.listed c →
    kid ∈ r.listed c ∨ (kid ∈ t.held ∧ t.records = some c ∧ t'.unrecorded crypto = [])
  /-- A key leaves a list by being removed, or with the list. -/
  unlisted_by : ∀ c kid, kid ∈ r.listed c →
    kid ∈ r'.listed c ∨ ¬ r'.Stored kid ∨ t.clears = some c
  cleared : ∀ c, t.clears = some c →
    t'.doomed = [] ∧ r'.listed c = [] ∧ ∀ kid, r.Stored kid → r'.Stored kid
  stored_by : ∀ kid, r'.Stored kid → r.Stored kid ∨ kid ∈ t'.unrecorded crypto
  /-- A key leaves the store with a destruction that read it or with the list it is on. -/
  removed_by : ∀ kid, r.Stored kid → ¬ r'.Stored kid →
    (kid ∈ t.doomed ∧ t'.clears = t.destroys) ∨
      ∃ c, kid ∈ r.listed c ∧ (kid ∈ r'.listed c → kid ∈ t.held)

theorem held_subset (crypto : SoftkeyCrypto) (t : CallState) : t.held ⊆ t.unrecorded crypto := by
  cases t <;> first | exact List.Subset.refl _ | exact List.nil_subset _

section Sections

variable (crypto : SoftkeyCrypto) {t t' : CallState} {r : Keyring Softkey.StoredKey}

/-- Nothing happens to the keys, and the call ends, or had ended. -/
theorem advances_unchanged (hrecorded : t.unrecorded crypto = [] ∨ t'.failed = true)
    (hunrecorded : t'.unrecorded crypto = []) (hheld : t'.held = []) (hdoomed : t.doomed = [])
    (hdoomed' : t'.doomed = []) (hfailed : t.failed = true → t'.failed = true)
    (hclears : t.clears = none) : Advances crypto t t' r r where
  unrecorded_subset := by
    rw [hunrecorded]
    exact List.nil_subset _
  recorded kid hkid := by
    rcases hrecorded with hnil | hfail
    · rw [hnil] at hkid
      exact absurd hkid List.not_mem_nil
    · exact .inr (.inr hfail)
  held_stored kid hkid := by
    rw [hheld] at hkid
    exact absurd hkid List.not_mem_nil
  doomed_read kid hkid := by
    rw [hdoomed'] at hkid
    exact absurd hkid List.not_mem_nil
  doomed_removed kid hkid := by
    rw [hdoomed] at hkid
    exact absurd hkid List.not_mem_nil
  failed_stays := hfailed
  listed_by _ _ hkid := .inl hkid
  unlisted_by _ _ hkid := .inl hkid
  cleared c hc := by
    rw [hclears] at hc
    cases hc
  stored_by _ hkid := .inl hkid
  removed_by _ hkid hnot := absurd hkid hnot

/-- A call has generated its key. -/
theorem advances_made {call : LifecycleCall} {v : Softkey.StoredKey}
    (hnew : call.newKids crypto = [⟨v.kid⟩]) (hunrecorded : t'.unrecorded crypto = [⟨v.kid⟩])
    (hdoomed : t'.doomed = []) :
    Advances crypto (.start call) t' r (r.store Softkey.StoredKey.kid v) where
  unrecorded_subset := by
    rw [hunrecorded, ← hnew]
    exact List.Subset.refl _
  recorded kid hkid := by
    rw [hunrecorded, ← hnew]
    exact .inl hkid
  held_stored kid hkid := by
    have hkid := held_subset crypto t' hkid
    rw [hunrecorded] at hkid
    rw [List.mem_singleton.mp hkid]
    exact .inr ((Keyring.stored_store _ _ _ _).mpr (.inl rfl))
  doomed_read kid hkid := by
    rw [hdoomed] at hkid
    exact absurd hkid List.not_mem_nil
  doomed_removed _ hkid := absurd hkid List.not_mem_nil
  failed_stays := nofun
  listed_by _ _ hkid := .inl hkid
  unlisted_by _ _ hkid := .inl hkid
  cleared _ hc := nomatch hc
  stored_by kid hkid := by
    rcases (Keyring.stored_store _ _ _ _).mp hkid with heq | hstored
    · rw [hunrecorded]
      exact .inr (List.mem_singleton.mpr (by rw [← heq]))
    · exact .inl hstored
  removed_by _ hkid hnot := absurd ((Keyring.stored_store _ _ _ _).mpr (.inr hkid)) hnot

/-- A call has recorded its key `kid` in the context `c`, which keeps the keys `kept`. -/
theorem advances_recorded {r' : Keyring Softkey.StoredKey} {c : String} {kid : KeyId}
    (kept : List KeyId) (hheld : t.held = [kid]) (hunrecorded : t.unrecorded crypto = [kid])
    (hrecords : t.records = some c) (hdoomed : t.doomed = []) (hclears : t.clears = none)
    (hkept : kept ⊆ r.listed c)
    (hlisted : ∀ c', r'.listed c' = if c' = c then kept ++ [kid] else r.listed c')
    (hstored : ∀ k, r'.Stored k ↔ r.Stored k ∧ (k ∈ r.listed c → k ∈ kept)) :
    Advances crypto t (.returned (.ok ())) r r' where
  unrecorded_subset := List.nil_subset _
  recorded k hk := by
    rw [hunrecorded] at hk
    refine .inr (.inl ⟨c, ?_⟩)
    rw [hlisted, if_pos rfl]
    exact List.mem_append_right _ hk
  held_stored _ hk := absurd hk List.not_mem_nil
  doomed_read _ hk := absurd hk List.not_mem_nil
  doomed_removed k hk := by
    rw [hdoomed] at hk
    exact absurd hk List.not_mem_nil
  failed_stays hfailed := by
    cases t with
    | returned => cases hheld
    | _ => cases hfailed
  listed_by c' k hk := by
    rw [hlisted] at hk
    split at hk
    · obtain rfl := ‹c' = c›
      rcases List.mem_append.mp hk with hk | hk
      · exact .inl (hkept hk)
      · rw [hheld]
        exact .inr ⟨hk, hrecords, rfl⟩
    · exact .inl hk
  unlisted_by c' k hk := by
    rw [hlisted, hstored]
    split
    · obtain rfl := ‹c' = c›
      rcases Decidable.em (k ∈ kept) with hkept' | hkept'
      · exact .inl (List.mem_append_left _ hkept')
      · exact .inr (.inl fun h => hkept' (h.2 hk))
    · exact .inl hk
  cleared c' hc := by
    rw [hclears] at hc
    cases hc
  stored_by k hk := .inl ((hstored k).mp hk).1
  removed_by k hk hnot := by
    have hgone : k ∈ r.listed c ∧ k ∉ kept := by
      rw [hstored] at hnot
      simpa [hk] using hnot
    refine .inr ⟨c, hgone.1, fun hk' => ?_⟩
    rw [hlisted, if_pos rfl] at hk'
    rw [hheld]
    exact (List.mem_append.mp hk').resolve_left hgone.2

/-- A destruction has read the keys of its context. -/
theorem advances_read {request : DestroyLifecycleRequest} {now : Int} :
    Advances crypto (.start (.destroyLifecycle request now))
      (.removing request now (r.listed request.contextId)) r r where
  unrecorded_subset := List.nil_subset _
  recorded _ hkid := absurd hkid List.not_mem_nil
  held_stored _ hkid := absurd hkid List.not_mem_nil
  doomed_read _ hkid := .inr ⟨_, rfl, hkid⟩
  doomed_removed _ hkid := absurd hkid List.not_mem_nil
  failed_stays := nofun
  listed_by _ _ hkid := .inl hkid
  unlisted_by _ _ hkid := .inl hkid
  cleared _ hc := nomatch hc
  stored_by _ hkid := .inl hkid
  removed_by _ hkid hnot := absurd hkid hnot

/-- A destruction has removed the keys it read. -/
theorem advances_removed {request : DestroyLifecycleRequest} {now : Int} {keyIds : List KeyId} :
    Advances crypto (.removing request now keyIds) (.clearing request now) r (r.purge keyIds) where
  unrecorded_subset := List.nil_subset _
  recorded _ hkid := absurd hkid List.not_mem_nil
  held_stored _ hkid := absurd hkid List.not_mem_nil
  doomed_read _ hkid := absurd hkid List.not_mem_nil
  doomed_removed kid hkid := by
    rw [Keyring.stored_purge]
    exact .inr fun h => h.1 hkid
  failed_stays := nofun
  listed_by _ _ hkid := .inl hkid
  unlisted_by _ _ hkid := .inl hkid
  cleared _ hc := nomatch hc
  stored_by _ hkid := .inl ((Keyring.stored_purge _ _ _).mp hkid).2
  removed_by kid hkid hnot := by
    rw [Keyring.stored_purge] at hnot
    refine .inl ⟨?_, rfl⟩
    by_contra hkeep
    exact hnot ⟨hkeep, hkid⟩

/-- A destruction has cleared its context. -/
theorem advances_cleared {request : DestroyLifecycleRequest} {now : Int}
    {r' : Keyring Softkey.StoredKey}
    (hlisted : ∀ c, r'.listed c = if c = request.contextId then [] else r.listed c)
    (hstored : ∀ kid, r'.Stored kid ↔ r.Stored kid) :
    Advances crypto (.clearing request now) (.returned (.ok ())) r r' where
  unrecorded_subset := List.nil_subset _
  recorded _ hkid := absurd hkid List.not_mem_nil
  held_stored _ hkid := absurd hkid List.not_mem_nil
  doomed_read _ hkid := absurd hkid List.not_mem_nil
  doomed_removed _ hkid := absurd hkid List.not_mem_nil
  failed_stays := nofun
  listed_by c kid hkid := by
    rw [hlisted] at hkid
    split at hkid
    · exact absurd hkid List.not_mem_nil
    · exact .inl hkid
  unlisted_by c kid hkid := by
    rw [hlisted]
    split
    · exact .inr (.inr (congrArg some (Eq.symm ‹c = request.contextId›)))
    · exact .inl hkid
  cleared c hc := by
    cases hc
    rw [hlisted, if_pos rfl]
    exact ⟨rfl, rfl, fun kid => (hstored kid).mpr⟩
  stored_by kid hkid := .inl ((hstored kid).mp hkid)
  removed_by kid hkid hnot := absurd ((hstored kid).mpr hkid) hnot

end Sections

/-- The record of a key generation, where it comes to one. -/
theorem newKids_of_draw {crypto : SoftkeyCrypto} {call : LifecycleCall} {v : Softkey.StoredKey}
    (h : SoftkeyPlugin.generated crypto call.toOp = .ok v) : call.newKids crypto = [⟨v.kid⟩] := by
  rw [LifecycleCall.newKids, h]
  rfl

theorem step_advances (crypto : SoftkeyCrypto) (t : CallState) (self : SoftkeyPlugin) :
    Advances crypto t (t.step crypto self).1 self.toKeyring (t.step crypto self).2.toKeyring := by
  cases t with
  | start call =>
    cases call with
    | registerLifecycle request d now =>
      simp only [step, SoftkeyPlugin.generateKey]
      cases hdraw : SoftkeyPlugin.draw crypto .es256 d with
      | error e => exact advances_unchanged crypto (.inr rfl) rfl rfl rfl rfl (fun _ => rfl) rfl
      | ok out =>
        refine advances_made crypto (v := out.1) (newKids_of_draw ?_) rfl rfl
        simp only [LifecycleCall.toOp, SoftkeyPlugin.generated, hdraw]
        rfl
    | rotateLifecycle request d now =>
      simp only [step, SoftkeyPlugin.generateKey]
      cases hdraw : SoftkeyPlugin.draw crypto .es256 d with
      | error e => exact advances_unchanged crypto (.inr rfl) rfl rfl rfl rfl (fun _ => rfl) rfl
      | ok out =>
        refine advances_made crypto (v := out.1) (newKids_of_draw ?_) rfl rfl
        simp only [LifecycleCall.toOp, SoftkeyPlugin.generated, hdraw]
        rfl
    | destroyLifecycle request now =>
      -- the keys of the context are read here and removed by a later step
      simp only [step]
      cases hlookup : self.lifecycle.lookup request.contextId with
      | none => exact advances_unchanged crypto (.inr rfl) rfl rfl rfl rfl (fun _ => rfl) rfl
      | some ctx =>
        have hlisted : self.toKeyring.listed request.contextId = ctx.keyIds :=
          Keyring.listed_of_lookup hlookup
        dsimp only
        rw [← hlisted]
        exact advances_read crypto
  | registering request kid now =>
    -- one step drops the keys listed so far and lists the fresh one alone
    have hkeyring : ((registering request kid now).step crypto self).2.toKeyring =
        (self.toKeyring.purge (self.toKeyring.listed request.contextId)).setContext
          request.contextId ⟨request.factorKind, .registered, now, [kid]⟩ := by
      simp only [step, registerLifecycleContext, SoftkeyPlugin.toKeyring, Keyring.listed]
      cases self.lifecycle.lookup request.contextId <;> rfl
    rw [hkeyring]
    refine advances_recorded crypto [] rfl rfl rfl rfl rfl (List.nil_subset _)
      (fun c' => Keyring.listed_setContext _ _ _ _) fun k => ?_
    rw [Keyring.stored_setContext, Keyring.stored_purge, and_comm]
    simp
  | rotating request kid now =>
    simp only [step, rotateLifecyclePushKey]
    cases hlookup : self.lifecycle.lookup request.contextId with
    | none => exact advances_unchanged crypto (.inr rfl) rfl rfl rfl rfl (fun _ => rfl) rfl
    | some ctx =>
      have hlisted : self.toKeyring.listed request.contextId = ctx.keyIds :=
        Keyring.listed_of_lookup hlookup
      dsimp only
      refine advances_recorded crypto ctx.keyIds rfl rfl rfl rfl rfl ?_
        (fun c' => Keyring.listed_setContext _ _ _ self.toKeyring) fun k => ?_
      · rw [hlisted]
        exact List.Subset.refl _
      · rw [hlisted]
        exact (and_iff_left id).symm
  | removing request now keyIds => exact advances_removed crypto
  | clearing request now =>
    simp only [step]
    cases hlookup : self.lifecycle.lookup request.contextId with
    | none =>
      dsimp only
      refine advances_cleared crypto (fun c => ?_) fun _ => Iff.rfl
      split
      · rw [‹c = request.contextId›, Keyring.listed, SoftkeyPlugin.toKeyring, hlookup]
        rfl
      · rfl
    | some ctx =>
      dsimp only
      exact advances_cleared crypto (fun c => Keyring.listed_setContext _ _ _ self.toKeyring)
        fun _ => Iff.rfl
  | returned result => exact advances_unchanged crypto (.inl rfl) rfl rfl rfl rfl id rfl

end CallState

/-! ## Any number of calls at once -/

/-- What contexts list is stored, and listed once. -/
structure Keyring.Settled {V : Type} (r : Keyring V) : Prop where
  listed_stored : ∀ c kid, kid ∈ r.listed c → r.Stored kid
  disjoint : ∀ c c' kid, kid ∈ r.listed c → kid ∈ r.listed c' → c = c'

/-- Calls on one plugin. -/
abbrev Calls (ι : Type) : Type := Pool ι CallState SoftkeyPlugin

namespace Calls

variable {ι : Type}

def start (plugin : SoftkeyPlugin) (calls : ι → LifecycleCall) : Calls ι :=
  ⟨plugin, fun i => .start (calls i)⟩

/-- Some call makes the key. -/
def Created (crypto : SoftkeyCrypto) (calls : ι → LifecycleCall) (kid : KeyId) : Prop :=
  ∃ i, kid ∈ (calls i).newKids crypto

/-- Different calls make different keys, and none that is listed already. -/
structure Fresh (crypto : SoftkeyCrypto) (plugin : SoftkeyPlugin) (calls : ι → LifecycleCall) :
    Prop where
  distinct : ∀ i j kid, kid ∈ (calls i).newKids crypto → kid ∈ (calls j).newKids crypto → i = j
  unlisted : ∀ i kid, kid ∈ (calls i).newKids crypto → ∀ c, kid ∉ plugin.toKeyring.listed c

def keyring (s : Calls ι) : Keyring Softkey.StoredKey := s.shared.toKeyring

/-- The created keys that are stored are listed, and what is listed is stored. -/
structure KeepsTrack (crypto : SoftkeyCrypto) (calls : ι → LifecycleCall) (s : Calls ι) : Prop where
  created : ∀ kid, Created crypto calls kid → s.keyring.Stored kid → ∃ c, kid ∈ s.keyring.listed c
  listed : ∀ c kid, kid ∈ s.keyring.listed c → s.keyring.Stored kid

/-- If the next section clears a context, some destruction is about to remove every created
key the context still lists. -/
def ClearsOnlyRead (crypto : SoftkeyCrypto) (calls : ι → LifecycleCall) (s : Calls ι) (i : ι) :
    Prop :=
  ∀ c kid, (s.threads i).clears = some c → kid ∈ s.keyring.listed c → Created crypto calls kid →
    s.keyring.Stored kid → ∃ j, kid ∈ (s.threads j).doomed

/-- What holds whatever the order of sections. -/
structure Consistent (crypto : SoftkeyCrypto) (s : Calls ι) : Prop where
  disjoint : ∀ c c' kid, kid ∈ s.keyring.listed c → kid ∈ s.keyring.listed c' → c = c'
  once : ∀ i j kid, kid ∈ (s.threads i).unrecorded crypto →
    kid ∈ (s.threads j).unrecorded crypto → i = j
  unlisted : ∀ i kid, kid ∈ (s.threads i).unrecorded crypto → ∀ c, kid ∉ s.keyring.listed c
  not_doomed : ∀ i j kid, kid ∈ (s.threads i).unrecorded crypto → kid ∉ (s.threads j).doomed
  /-- A key that was read and is still listed is listed where it was read. -/
  doomed_of : ∀ i c kid, kid ∈ (s.threads i).doomed → kid ∈ s.keyring.listed c →
    (s.threads i).destroys = some c
  held_stored : ∀ i, ∀ kid ∈ (s.threads i).held, s.keyring.Stored kid
  /-- A listed key is stored, or its list is about to be cleared. -/
  listed_stored : ∀ c kid, kid ∈ s.keyring.listed c →
    s.keyring.Stored kid ∨ ∃ i, (s.threads i).clears = some c

/-- A created key that is stored is listed, or a call has it in hand, or a call has failed. -/
def Covered (crypto : SoftkeyCrypto) (calls : ι → LifecycleCall) (s : Calls ι) : Prop :=
  ∀ kid, Created crypto calls kid → s.keyring.Stored kid →
    (∃ c, kid ∈ s.keyring.listed c) ∨ (∃ i, kid ∈ (s.threads i).unrecorded crypto) ∨
      (∃ i, kid ∈ (s.threads i).doomed) ∨ ∃ i, (s.threads i).failed = true

/-- A key that is stored, and that neither a context nor a call knows. -/
structure Lost (crypto : SoftkeyCrypto) (kid : KeyId) (s : Calls ι) : Prop where
  stored : s.keyring.Stored kid
  unlisted : ∀ c, kid ∉ s.keyring.listed c
  recorded : ∀ i, kid ∉ (s.threads i).unrecorded crypto
  not_doomed : ∀ i, kid ∉ (s.threads i).doomed

variable {crypto : SoftkeyCrypto} {plugin : SoftkeyPlugin} {calls : ι → LifecycleCall} {s : Calls ι}

theorem consistent_start (hplugin : plugin.toKeyring.Settled)
    (hfresh : Fresh crypto plugin calls) : Consistent crypto (start plugin calls) where
  disjoint := hplugin.disjoint
  once := hfresh.distinct
  unlisted := hfresh.unlisted
  not_doomed _ _ _ _ := List.not_mem_nil
  doomed_of _ _ _ hkid := absurd hkid List.not_mem_nil
  held_stored _ _ hkid := absurd hkid List.not_mem_nil
  listed_stored c kid hkid := .inl (hplugin.listed_stored c kid hkid)

theorem covered_start : Covered crypto calls (start plugin calls) :=
  fun _ hkid _ => .inr (.inl hkid)

/-- Every call has returned, successfully. -/
def Returned (s : Calls ι) : Prop := ∀ i, s.threads i = .returned (.ok ())

theorem KeepsTrack.of_covered (hs : Consistent crypto s) (h : Covered crypto calls s)
    (hreturned : s.Returned) : KeepsTrack crypto calls s where
  created kid hcreated hstored := by
    rcases h kid hcreated hstored with hlisted | ⟨j, hj⟩ | ⟨j, hj⟩ | ⟨j, hj⟩
    · exact hlisted
    all_goals
      rw [hreturned j] at hj
      cases hj
  listed c kid hlisted := by
    rcases hs.listed_stored c kid hlisted with hstored | ⟨j, hj⟩
    · exact hstored
    · rw [hreturned j] at hj
      cases hj

/-! ## One section -/

variable [DecidableEq ι]

def step (crypto : SoftkeyCrypto) : Calls ι → ι → Calls ι := Pool.step (CallState.step crypto)

/-- A call that is scheduled without interruption is the sequential operation. -/
theorem run_alone (crypto : SoftkeyCrypto) {i : ι} {call : LifecycleCall}
    (h : s.threads i = .start call) :
    run (step crypto) s (List.replicate 3 i) =
      ⟨(s.shared.apply crypto call.toOp).2,
        Function.update s.threads i (.returned (s.shared.apply crypto call.toOp).1)⟩ := by
  rw [step, Pool.run_replicate, h, CallState.alone_eq]

section Step

variable {i : ι}

theorem advances (crypto : SoftkeyCrypto) (s : Calls ι) (i : ι) :
    CallState.Advances crypto (s.threads i) ((s.step crypto i).threads i) s.keyring
      (s.step crypto i).keyring := by
  rw [step, Pool.step_threads_self]
  exact CallState.step_advances crypto (s.threads i) s.shared

theorem threads_of_ne (crypto : SoftkeyCrypto) {j : ι} (h : j ≠ i) :
    (s.step crypto i).threads j = s.threads j :=
  Pool.step_threads_of_ne h

theorem unrecorded_before (j : ι) {kid : KeyId}
    (h : kid ∈ ((s.step crypto i).threads j).unrecorded crypto) :
    kid ∈ (s.threads j).unrecorded crypto :=
  Pool.held_before_step (Q := fun t : CallState => kid ∈ t.unrecorded crypto)
    (fun hkid => (CallState.step_advances crypto _ _).unrecorded_subset hkid) j h

/-- The key a section puts on a list was not on one before. -/
theorem Consistent.listed_before (h : Consistent crypto s) {c : String} {kid : KeyId}
    (hlisted : kid ∈ (s.step crypto i).keyring.listed c) :
    (kid ∈ s.keyring.listed c ∧ kid ∉ (s.threads i).held) ∨
      (kid ∈ (s.threads i).held ∧ (s.threads i).records = some c ∧
        ((s.step crypto i).threads i).unrecorded crypto = []) := by
  rcases (advances crypto s i).listed_by c kid hlisted with hold | hnew
  · exact .inl ⟨hold, fun hheld =>
      h.unlisted i kid (CallState.held_subset crypto _ hheld) c hold⟩
  · exact .inr hnew

/-- A section removes from the store only what is not in another call's hand. -/
theorem Consistent.held_kept (h : Consistent crypto s) {kid : KeyId} {j : ι}
    (hheld : kid ∈ (s.threads j).held) (hstored : s.keyring.Stored kid) :
    (s.step crypto i).keyring.Stored kid := by
  have hunrecorded := CallState.held_subset crypto _ hheld
  by_contra hnot
  rcases (advances crypto s i).removed_by kid hstored hnot with ⟨hdoomed, -⟩ | ⟨c, hlisted, -⟩
  · exact h.not_doomed j i kid hunrecorded hdoomed
  · exact h.unlisted j kid hunrecorded c hlisted

theorem Consistent.step (h : Consistent crypto s) (i : ι) :
    Consistent crypto (s.step crypto i) where
  disjoint c c' kid hc hc' := by
    rcases h.listed_before hc with ⟨hold, hnot⟩ | ⟨hheld, hrecords, -⟩
    · rcases h.listed_before hc' with ⟨hold', -⟩ | ⟨hheld, -, -⟩
      · exact h.disjoint c c' kid hold hold'
      · exact absurd hheld hnot
    · rcases h.listed_before hc' with ⟨-, hnot⟩ | ⟨-, hrecords', -⟩
      · exact absurd hheld hnot
      · exact Option.some.inj (hrecords.symm.trans hrecords')
  once j j' kid hj hj' := h.once j j' kid (unrecorded_before j hj) (unrecorded_before j' hj')
  unlisted j kid hj c hc := by
    have hunrecorded := unrecorded_before j hj
    rcases h.listed_before hc with ⟨hold, -⟩ | ⟨hheld, -, hnil⟩
    · exact h.unlisted j kid hunrecorded c hold
    · -- only the call that records the key had it, and it has it no longer
      obtain rfl : j = i := h.once j i kid hunrecorded (CallState.held_subset crypto _ hheld)
      rw [hnil] at hj
      exact absurd hj List.not_mem_nil
  not_doomed j j' kid hj hdoomed := by
    have hunrecorded := unrecorded_before j hj
    rcases eq_or_ne j' i with rfl | hne
    · rcases (advances crypto s j').doomed_read kid hdoomed with ⟨hold, -⟩ | ⟨c, -, hlisted⟩
      · exact h.not_doomed j j' kid hunrecorded hold
      · exact h.unlisted j kid hunrecorded c hlisted
    · rw [threads_of_ne crypto hne] at hdoomed
      exact h.not_doomed j j' kid hunrecorded hdoomed
  doomed_of j c kid hdoomed hc := by
    rcases eq_or_ne j i with rfl | hne
    · rcases (advances crypto s j).doomed_read kid hdoomed with
        ⟨hold, hdestroys⟩ | ⟨c', hdestroys, hc'⟩
      · rcases h.listed_before hc with ⟨hc, -⟩ | ⟨hheld, -, -⟩
        · exact hdestroys.trans (h.doomed_of j c kid hold hc)
        · exact absurd hold (h.not_doomed j j kid (CallState.held_subset crypto _ hheld))
      · rcases h.listed_before hc with ⟨hc, -⟩ | ⟨hheld, -, -⟩
        · rw [hdestroys, h.disjoint c c' kid hc hc']
        · exact absurd hc' (h.unlisted j kid (CallState.held_subset crypto _ hheld) c')
    · rw [threads_of_ne crypto hne] at hdoomed ⊢
      rcases h.listed_before hc with ⟨hc, -⟩ | ⟨hheld, -, -⟩
      · exact h.doomed_of j c kid hdoomed hc
      · exact absurd hdoomed (h.not_doomed i j kid (CallState.held_subset crypto _ hheld))
  held_stored j kid hheld := by
    -- a key still in its call's hand is listed nowhere, so no destruction has read it
    rcases eq_or_ne j i with rfl | hne
    · rcases (advances crypto s j).held_stored kid hheld with hold | hstored
      · exact h.held_kept hold (h.held_stored j kid hold)
      · exact hstored
    · rw [threads_of_ne crypto hne] at hheld
      exact h.held_kept hheld (h.held_stored j kid hheld)
  listed_stored c kid hc := by
    rcases h.listed_before hc with ⟨hold, hnot⟩ | ⟨hheld, -, -⟩
    · rcases h.listed_stored c kid hold with hstored | ⟨j, hclears⟩
      · rcases Classical.em ((s.step crypto i).keyring.Stored kid) with hstored' | hgone
        · exact .inl hstored'
        · -- what is listed and goes is being destroyed, so its context is about to be cleared
          right
          rcases (advances crypto s i).removed_by kid hstored hgone with
            ⟨hdoomed, hclears⟩ | ⟨c', hc', hheld⟩
          · exact ⟨i, hclears.trans (h.doomed_of i c kid hdoomed hold)⟩
          · rw [h.disjoint c c' kid hold hc'] at hc
            exact absurd (hheld hc) hnot
      · rcases eq_or_ne j i with rfl | hne
        · rw [((advances crypto s j).cleared c hclears).2.1] at hc
          exact absurd hc List.not_mem_nil
        · refine .inr ⟨j, ?_⟩
          rw [threads_of_ne crypto hne]
          exact hclears
    · exact .inl (h.held_kept hheld (h.held_stored i kid hheld))

/-- A key that was read stays in the hand of the call that read it, until it is removed. -/
theorem doomed_kept {kid : KeyId} (hstored : (s.step crypto i).keyring.Stored kid) (j : ι)
    (h : kid ∈ (s.threads j).doomed) : kid ∈ ((s.step crypto i).threads j).doomed := by
  rcases eq_or_ne j i with rfl | hne
  · exact ((advances crypto s j).doomed_removed kid h).resolve_right fun hnot => hnot hstored
  · rwa [threads_of_ne crypto hne]

theorem Covered.step (h : Covered crypto calls s) (hclears : ClearsOnlyRead crypto calls s i) :
    Covered crypto calls (s.step crypto i) := by
  intro kid hkid hstored'
  rcases (advances crypto s i).stored_by kid hstored' with hstored | hmade
  · rcases h kid hkid hstored with ⟨c, hlisted⟩ | ⟨j, hj⟩ | ⟨j, hj⟩ | ⟨j, hj⟩
    · rcases (advances crypto s i).unlisted_by c kid hlisted with hlisted' | hgone | hc
      · exact .inl ⟨c, hlisted'⟩
      · exact absurd hstored' hgone
      · obtain ⟨j, hj⟩ := hclears c kid hc hlisted hkid hstored
        exact .inr (.inr (.inl ⟨j, doomed_kept hstored' j hj⟩))
    · rcases eq_or_ne j i with rfl | hne
      · rcases (advances crypto s j).recorded kid hj with hj' | hlisted | hfailed
        · exact .inr (.inl ⟨j, hj'⟩)
        · exact .inl hlisted
        · exact .inr (.inr (.inr ⟨j, hfailed⟩))
      · rw [← threads_of_ne crypto hne] at hj
        exact .inr (.inl ⟨j, hj⟩)
    · exact .inr (.inr (.inl ⟨j, doomed_kept hstored' j hj⟩))
    · exact .inr (.inr (.inr ⟨j, Pool.kept_by_step (Q := fun t : CallState => t.failed = true)
        (fun h => (CallState.step_advances crypto _ _).failed_stays h) j hj⟩))
  · exact .inr (.inl ⟨i, hmade⟩)

theorem Lost.step {kid : KeyId} (h : Lost crypto kid s) (i : ι) :
    Lost crypto kid (s.step crypto i) where
  stored := by
    by_contra hgone
    rcases (advances crypto s i).removed_by kid h.stored hgone with ⟨hdoomed, -⟩ | ⟨c, hlisted, -⟩
    · exact h.not_doomed i hdoomed
    · exact h.unlisted c hlisted
  unlisted c hlisted := by
    rcases (advances crypto s i).listed_by c kid hlisted with hold | ⟨hheld, -⟩
    · exact h.unlisted c hold
    · exact h.recorded i (CallState.held_subset crypto _ hheld)
  recorded j hj := h.recorded j (unrecorded_before j hj)
  not_doomed j hj := by
    rcases eq_or_ne j i with rfl | hne
    · rcases (advances crypto s j).doomed_read kid hj with ⟨hold, -⟩ | ⟨c, -, hlisted⟩
      · exact h.not_doomed j hold
      · exact h.unlisted c hlisted
    · rw [threads_of_ne crypto hne] at hj
      exact h.not_doomed j hj

/-- A section that clears a created key nobody is about to remove loses it. -/
theorem lost_of_not_clearsOnlyRead (hs : Consistent crypto s)
    (h : ¬ ClearsOnlyRead crypto calls s i) :
    ∃ kid, Created crypto calls kid ∧ Lost crypto kid (s.step crypto i) := by
  obtain ⟨c, kid, hclears, hlisted, hcreated, hstored, hfree⟩ :
      ∃ c kid, (s.threads i).clears = some c ∧ kid ∈ s.keyring.listed c ∧
        Created crypto calls kid ∧ s.keyring.Stored kid ∧ ∀ j, kid ∉ (s.threads j).doomed := by
    simpa [ClearsOnlyRead] using h
  obtain ⟨hdoomed, hempty, hkept⟩ := (advances crypto s i).cleared c hclears
  refine ⟨kid, hcreated, hkept kid hstored, fun c' hlisted' => ?_, fun j hj => ?_, fun j hj => ?_⟩
  · rcases hs.listed_before hlisted' with ⟨hold, -⟩ | ⟨hheld, -, -⟩
    · rw [hs.disjoint c' c kid hold hlisted, hempty] at hlisted'
      exact absurd hlisted' List.not_mem_nil
    · exact hs.unlisted i kid (CallState.held_subset crypto _ hheld) c hlisted
  · exact hs.unlisted j kid (unrecorded_before j hj) c hlisted
  · rcases eq_or_ne j i with rfl | hne
    · rw [hdoomed] at hj
      exact absurd hj List.not_mem_nil
    · rw [threads_of_ne crypto hne] at hj
      exact hfree j hj

end Step

/-! ## Whole runs -/

theorem consistent_run (hplugin : plugin.toKeyring.Settled) (hfresh : Fresh crypto plugin calls)
    (schedule : List ι) : Consistent crypto (run (step crypto) (start plugin calls) schedule) :=
  run_keeps (fun _ i h => h.step i) schedule (consistent_start hplugin hfresh)

/-- However any number of registrations, rotations and destructions interleave: once all
have returned successfully, the keys are accounted for exactly if every list was cleared of
keys that some destruction was about to remove. -/
theorem concurrent_calls_keepTrack_iff (crypto : SoftkeyCrypto) (plugin : SoftkeyPlugin)
    (calls : ι → LifecycleCall) (schedule : List ι) (hplugin : plugin.toKeyring.Settled)
    (hfresh : Fresh crypto plugin calls)
    (hreturned : (run (step crypto) (start plugin calls) schedule).Returned) :
    KeepsTrack crypto calls (run (step crypto) (start plugin calls) schedule) ↔
      Along (step crypto) (ClearsOnlyRead crypto calls) (start plugin calls) schedule := by
  constructor
  · intro hkeeps
    by_contra hnot
    obtain ⟨pre, i, post, rfl, hi⟩ := exists_step_of_not_along hnot
    obtain ⟨kid, hcreated, hlost⟩ :=
      lost_of_not_clearsOnlyRead (consistent_run hplugin hfresh pre) hi
    -- a lost key stays lost
    have hend : Lost crypto kid (run (step crypto) (start plugin calls) (pre ++ i :: post)) := by
      rw [run_append, run_cons]
      exact run_keeps (fun _ j h => h.step j) post hlost
    obtain ⟨c, hlisted⟩ := hkeeps.created kid hcreated hend.stored
    exact hend.unlisted c hlisted
  · intro halong
    refine .of_covered (consistent_run hplugin hfresh schedule) ?_ hreturned
    exact run_invariant (fun _ _ h hi => h.step hi) covered_start halong

end Calls

namespace LifecycleDemo

open SoftkeyHost TwoKeys

/-- A plugin with one registered context of one key. -/
def enrolled : SoftkeyPlugin where
  keys := Finmap.singleton kidTwo.asStr
    ⟨kidTwo.asStr, "ES256", base64url (List.replicate 31 0 ++ [2]), 0⟩
  lifecycle := Finmap.singleton "ctx" ⟨.rawSign, .registered, 0, [kidTwo]⟩

def destroyAndRotate : Fin 2 → LifecycleCall
  | 0 => .destroyLifecycle destroyCtx 1
  | 1 => .rotateLifecycle rotateCtx drawOne 2

/-- The two calls on that plugin, in the order of sections given. -/
def race (schedule : List (Fin 2)) : Calls (Fin 2) :=
  run (Calls.step secretOneHost.crypto) (Calls.start enrolled destroyAndRotate) schedule

theorem listed_singleton {V : Type} {r : Keyring V} {ctx : LifecycleContext}
    (h : r.contexts = Finmap.singleton "ctx" ctx) (c : String) {kid : KeyId}
    (hkid : kid ∈ r.listed c) : c = "ctx" ∧ kid ∈ ctx.keyIds := by
  rw [Keyring.listed, h] at hkid
  rcases eq_or_ne c "ctx" with rfl | hne
  · exact ⟨rfl, by simpa [Finmap.lookup_singleton_eq] using hkid⟩
  · rw [Finmap.lookup_eq_none.mpr (by simpa using hne)] at hkid
    exact absurd hkid List.not_mem_nil

theorem enrolled_settled : enrolled.toKeyring.Settled where
  listed_stored c kid hkid := by
    obtain ⟨-, hkid⟩ := listed_singleton rfl c hkid
    rw [List.mem_singleton.mp hkid]
    show Finmap.lookup kidTwo.asStr (Finmap.singleton kidTwo.asStr _) ≠ none
    rw [Finmap.lookup_singleton_eq]
    exact nofun
  disjoint c c' kid hc hc' :=
    (listed_singleton rfl c hc).1.trans (listed_singleton rfl c' hc').1.symm

theorem newKids_rotate : (destroyAndRotate 1).newKids secretOneHost.crypto = [kidOne] := by
  have hgenerated : SoftkeyPlugin.generated secretOneHost.crypto (destroyAndRotate 1).toOp =
      .ok recordOne := draw_drawOne
  rw [LifecycleCall.newKids, hgenerated]
  rfl

theorem destroyAndRotate_fresh :
    Calls.Fresh secretOneHost.crypto enrolled destroyAndRotate where
  distinct i j kid hi hj := by
    match i with
    | 0 => exact absurd hi List.not_mem_nil
    | 1 =>
      match j with
      | 0 => exact absurd hj List.not_mem_nil
      | 1 => rfl
  unlisted i kid hi c hc := by
    match i with
    | 0 => exact absurd hi List.not_mem_nil
    | 1 =>
      rw [newKids_rotate, List.mem_singleton] at hi
      obtain ⟨-, hkid⟩ := listed_singleton rfl c hc
      rw [hi] at hkid
      revert hkid
      decide

/-- The rotation first and then the destruction: the new key is recorded and removed. -/
theorem rotate_then_destroy_keepTrack :
    Calls.KeepsTrack secretOneHost.crypto destroyAndRotate (race [1, 1, 0, 0, 0]) := by
  refine (Calls.concurrent_calls_keepTrack_iff _ enrolled destroyAndRotate [1, 1, 0, 0, 0]
    enrolled_settled destroyAndRotate_fresh fun i => ?_).mpr
    ⟨nofun, nofun, nofun, nofun, fun c kid _ _ _ hstored => ?_, trivial⟩
  · match i with
    | 0 => rfl
    | 1 => rfl
  · have hkeys : (race [1, 1, 0, 0]).keyring.keys = ∅ := by decide +kernel
    exact absurd ((congrArg (Finmap.lookup kid.asStr) hkeys).trans (Finmap.lookup_empty _)) hstored

/-- The destruction reads the keys, the rotation runs, and the destruction clears the context:
the new key stays in the store and no context lists it. -/
theorem rotate_inside_destroy_loses_key :
    (race [0, 1, 1, 0, 0]).Returned ∧
      ¬ Calls.KeepsTrack secretOneHost.crypto destroyAndRotate (race [0, 1, 1, 0, 0]) := by
  constructor
  · intro i
    match i with
    | 0 => rfl
    | 1 => rfl
  · intro h
    have hcontexts : (race [0, 1, 1, 0, 0]).keyring.contexts =
        Finmap.singleton "ctx" ⟨.rawSign, .destroyed, 1, []⟩ := by rfl
    have hkeys : (race [0, 1, 1, 0, 0]).keyring.keys =
        Finmap.singleton kidOne.asStr recordOne := by decide +kernel
    obtain ⟨c, hlisted⟩ := h.created kidOne ⟨1, newKids_rotate ▸ List.mem_singleton_self _⟩ (by
      rw [Keyring.Stored, hkeys, Finmap.lookup_singleton_eq]
      exact nofun)
    exact absurd (listed_singleton hcontexts c hlisted).2 List.not_mem_nil

end LifecycleDemo

end Wscd
