import Wscd.CoordinateWidths
import Wscd.RecordOrigins
import Mathlib.Data.Countable.Basic
import Mathlib.Logic.Equiv.Multiset
import Mathlib.Tactic.DeriveCountable

/-!
# Exporting the fido2 plugin and restoring it

A restore refuses the whole blob when one key in it has coordinates of another width than 32 or
48 octets. A plain EC2 key is stored with whatever width it has, so the question is what widths
the authenticator's plain keys have.

Results:
1. `roundTrips_iff`: which plugins come back from their export.
2. `exports_restore`: every session whose plain keys have one of the two widths can be restored
   at any time, and a key of another width spoils the export at once.
-/

namespace Wscd

open Lib PreviewSign

/-- Whatever is encoded is decoded again. -/
def Codec.Inverts {α : Type} (codec : Codec α) : Prop :=
  ∀ x, ∃ bytes, codec.toVec x = .ok bytes ∧ codec.fromSlice bytes = .ok x

theorem Codec.Inverts.lawful {α : Type} {codec : Codec α} (h : codec.Inverts) : codec.Lawful := by
  intro x bytes hx
  obtain ⟨bytes', hx', hread⟩ := h x
  rw [hx] at hx'
  cases hx'
  exact hread

namespace Fido2SignPlugin

open Fido2

/-! ## One export -/

/-- The export of the plugin is restored as the plugin it was taken of. -/
def RoundTrips (codec : Codec ExportedPluginState) (order : HashMap.IterOrder String StoredFidoKey)
    (p : Fido2SignPlugin) : Prop :=
  ∃ blob, p.exportState codec order = .ok blob ∧ fromState codec blob = .ok p

/-- A width that says which curve a key is on. -/
def KnownWidth (width : Nat) : Prop := width = p256CoordinateLen ∨ width = bls12381G1CoordinateLen

theorem checkWidths_eq_ok_iff (key : StoredFidoKey) :
    checkWidths key = .ok () ↔ KnownWidth key.pubX.length ∧ key.pubY.length = key.pubX.length := by
  unfold checkWidths KnownWidth
  dsimp only
  split
  · rename_i hwidth
    refine iff_of_false nofun fun h => ?_
    rcases h.1 with h | h
    · exact hwidth.1 h
    · exact hwidth.2 h
  · rename_i hwidth
    have hknown : key.pubX.length = p256CoordinateLen ∨
        key.pubX.length = bls12381G1CoordinateLen := by
      by_cases h : key.pubX.length = p256CoordinateLen
      · exact .inl h
      · exact .inr (not_not.mp fun h' => hwidth ⟨h, h'⟩)
    split
    · rename_i hmismatch
      exact iff_of_false nofun fun h => hmismatch h.2
    · rename_i hmatch
      exact iff_of_true rfl ⟨hknown, not_not.mp hmatch⟩

theorem forM_checkWidths_eq_ok_iff (keys : List StoredFidoKey) :
    keys.forM checkWidths = .ok () ↔ ∀ key ∈ keys, checkWidths key = .ok () := by
  induction keys with
  | nil => exact iff_of_true rfl nofun
  | cons key keys ih =>
    have hcons : (key :: keys).forM checkWidths =
        checkWidths key >>= fun _ => keys.forM checkWidths := rfl
    rw [hcons, List.forall_mem_cons, ← ih]
    cases checkWidths key with
    | error e => exact iff_of_false nofun fun h => nomatch h.1
    | ok u => exact ⟨fun h => ⟨rfl, h⟩, fun h => h.2⟩

variable {codec : Codec ExportedPluginState} {order : HashMap.IterOrder String StoredFidoKey}
  {p : Fido2SignPlugin}

theorem roundTrips_iff (hcodec : codec.Inverts)
    (hkeyed : ∀ k key, p.keys.lookup k = some key → key.kid = k) :
    p.RoundTrips codec order ↔ ∀ k key, p.keys.lookup k = some key → checkWidths key = .ok () := by
  obtain ⟨blob, hvec, hread⟩ := hcodec ⟨p.sortedKeys order, p.lifecycle⟩
  have hexport : p.exportState codec order = .ok blob := by
    unfold exportState
    rw [hvec]
  have hkeys : HashMap.ofListFirst StoredFidoKey.kid (p.sortedKeys order) = p.keys :=
    HashMap.ofListFirst_of_mem_iff (mem_sortedKeys order p) hkeyed
  have hchecks : (p.sortedKeys order).forM checkWidths = .ok () ↔
      ∀ k key, p.keys.lookup k = some key → checkWidths key = .ok () := by
    rw [forM_checkWidths_eq_ok_iff]
    simp only [mem_sortedKeys, forall_exists_index]
    exact forall_comm
  unfold RoundTrips fromState
  rw [← hchecks]
  constructor
  · rintro ⟨blob', hexport', hfrom⟩
    rw [hexport] at hexport'
    cases hexport'
    rw [hread] at hfrom
    dsimp only at hfrom
    split at hfrom
    · cases hfrom
    · rename_i hforM
      exact hforM
  · intro hforM
    refine ⟨blob, hexport, ?_⟩
    rw [hread]
    dsimp only
    rw [hforM, hkeys]

/-! ## Whole sessions -/

/-- Where the operation generates a P-256 key and the ceremony ends with a plain EC2 key, that
has a width the restore knows. -/
def PlainKeyFits (crypto : Fido2Crypto) (op : LifecycleOp Fido2.Draw) : Prop :=
  ∀ d width, keyGeneration op = some (.es256, d) → plainWidth crypto d = some width →
    KnownWidth width

variable {crypto : Fido2Crypto}

theorem checkWidths_draw_iff (hp256 : crypto.p256.FieldCoordinates) {algorithm : Algorithm}
    {d : Fido2.Draw} {stored : StoredFidoKey} {jwk : Json}
    (h : draw crypto algorithm d = .ok (stored, jwk)) :
    checkWidths stored = .ok () ↔
      (algorithm = .es256 → ∀ width, plainWidth crypto d = some width → KnownWidth width) := by
  obtain ⟨hx, hy, -⟩ := draw_ok hp256 h
  rw [checkWidths_eq_ok_iff, hx, hy, and_iff_left rfl]
  cases algorithm with
  | edDSA => cases h
  | bls12381G1Schnorr => exact iff_of_true (.inr rfl) nofun
  | es256 =>
    unfold coordinateWidth
    cases plainWidth crypto d with
    | none => exact iff_of_true (.inl rfl) nofun
    | some width => exact ⟨fun h _ _ heq => Option.some.inj heq ▸ h, fun h => h rfl width rfl⟩

theorem roundTrips_afterSession (hp256 : crypto.p256.FieldCoordinates) (hcodec : codec.Inverts)
    {ops : List (SessionOp Fido2.Draw)} (hfits : ∀ op, .call op ∈ ops → PlainKeyFits crypto op) :
    (afterSession crypto codec order ops).RoundTrips codec order := by
  rw [roundTrips_iff hcodec fun k key hkey => (origin_afterSession hcodec.lawful hkey).1]
  intro k key hkey
  obtain ⟨-, op, hop, hgenerated⟩ := origin_afterSession hcodec.lawful hkey
  obtain ⟨algorithm, d, jwk, hgeneration, hdraw⟩ := generated_ok hgenerated
  rw [checkWidths_draw_iff hp256 hdraw]
  rintro rfl width hwidth
  exact hfits op hop d width hgeneration hwidth

theorem roundTrips_afterSession_concat (hp256 : crypto.p256.FieldCoordinates)
    (hcodec : codec.Inverts) {ops : List (SessionOp Fido2.Draw)} {algorithm : Algorithm}
    {d : Fido2.Draw} {generated : GeneratedKey}
    (hgenerate : ((afterSession crypto codec order ops).generateKey crypto algorithm d).1 =
      .ok generated)
    (h : (afterSession crypto codec order
      (ops ++ [.call (.generateKey algorithm d)])).RoundTrips codec order) :
    PlainKeyFits crypto (.generateKey algorithm d) := by
  have hafter : afterSession crypto codec order (ops ++ [.call (.generateKey algorithm d)]) =
      ((afterSession crypto codec order ops).generateKey crypto algorithm d).2 := by
    unfold afterSession
    rw [run_append]
    rfl
  obtain ⟨stored, hdraw, -, hplugin⟩ := generateKey_ok hgenerate
  rw [roundTrips_iff hcodec fun k key hkey => (origin_afterSession hcodec.lawful hkey).1,
    hafter, hplugin] at h
  have hwidths := h stored.kid stored (Finmap.lookup_insert _)
  rw [checkWidths_draw_iff hp256 hdraw] at hwidths
  rintro d' width hgeneration hwidth
  cases hgeneration
  exact hwidths rfl width hwidth

/-- A session whose plain keys have a width the restore knows can be exported and restored in
every state it reaches. A key of another width cannot. -/
theorem exports_restore (crypto : Fido2Crypto) (hp256 : crypto.p256.FieldCoordinates)
    (codec : Codec ExportedPluginState) (hcodec : codec.Inverts)
    (order : HashMap.IterOrder String StoredFidoKey) :
    (∀ ops, (∀ op, .call op ∈ ops → PlainKeyFits crypto op) →
      (afterSession crypto codec order ops).RoundTrips codec order) ∧
    ∀ ops algorithm d generated,
      ((afterSession crypto codec order ops).generateKey crypto algorithm d).1 = .ok generated →
      ¬PlainKeyFits crypto (.generateKey algorithm d) →
      ¬(afterSession crypto codec order
        (ops ++ [.call (.generateKey algorithm d)])).RoundTrips codec order :=
  ⟨fun _ hfits => roundTrips_afterSession hp256 hcodec hfits,
    fun _ _ _ _ hgenerate hwide h =>
      hwide (roundTrips_afterSession_concat hp256 hcodec hgenerate h)⟩

/-! ## One key, exported -/

section Demo

instance : Countable UInt8 :=
  Function.Injective.countable (f := UInt8.toNat) fun _ _ => UInt8.toNat_inj.mp

instance : Countable Char :=
  Function.Injective.countable (f := Char.toNat) fun _ _ => Char.toNat_inj.mp

instance : Countable String :=
  Function.Injective.countable (f := String.toList) fun _ _ => String.toList_inj.mp

deriving instance Countable for KeyId, FactorKind, LifecycleState, LifecycleContext

instance : Countable LifecycleMap :=
  Function.Injective.countable (f := Finmap.entries) fun _ _ => Finmap.ext

instance : Countable StoredFidoKey :=
  Function.Injective.countable (f := fun key => (key.kid, key.credentialId, key.keyHandle, key.pubX,
    key.pubY, key.algorithm, key.attestationObject, key.hasDedicatedHardwareChain,
    key.clientDataHash, key.arkgKhAndCtx, key.createdAt)) fun a b h => by
    cases a
    cases b
    simpa using h

deriving instance Countable for ExportedPluginState

/-- How many blanks follow the blob: none after that of `state`. -/
noncomputable def blanks (state x : ExportedPluginState) : Nat :=
  if x = state then 0 else (exists_injective_nat ExportedPluginState).choose x + 1

theorem blanks_injective (state : ExportedPluginState) : Function.Injective (blanks state) := by
  intro x y h
  unfold blanks at h
  split at h <;> split at h
  · exact Eq.trans ‹_› (Eq.symm ‹_›)
  · omega
  · omega
  · exact (exists_injective_nat ExportedPluginState).choose_spec (Nat.succ.inj h)

open Classical in
/-- A codec of which the encoding of one state is known. -/
noncomputable def codecAt (state : ExportedPluginState) (blob : List UInt8) :
    Codec ExportedPluginState where
  toVec x := .ok (blob ++ List.replicate (blanks state x) 32)
  fromSlice bytes :=
    if h : ∃ x, bytes = blob ++ List.replicate (blanks state x) 32 then .ok h.choose
    else .error "expected value"

theorem codecAt_inverts (state : ExportedPluginState) (blob : List UInt8) :
    (codecAt state blob).Inverts := by
  intro x
  refine ⟨_, rfl, ?_⟩
  have h : ∃ y, blob ++ List.replicate (blanks state x) 32 =
      blob ++ List.replicate (blanks state y) 32 := ⟨x, rfl⟩
  have hchoose : h.choose = x := by
    have hspec := congrArg List.length h.choose_spec
    simp only [List.length_append, List.length_replicate] at hspec
    exact (blanks_injective state (Nat.add_left_cancel hspec)).symm
  exact (dif_pos h).trans (congrArg Except.ok hchoose)

theorem codecAt_toVec (state : ExportedPluginState) (blob : List UInt8) :
    (codecAt state blob).toVec state = .ok blob := by
  have hblanks : blanks state state = 0 := if_pos rfl
  show Except.ok (blob ++ List.replicate (blanks state state) 32) = _
  rw [hblanks, List.replicate_zero, List.append_nil]

end Demo

open PaddedKeys TwoKeys SoftkeyHost

/-- The codec around the export of the key alone. -/
noncomputable def codecOf (key : StoredFidoKey) : Codec ExportedPluginState :=
  codecAt ⟨[key], ∅⟩ (oneKeyBlob key)

theorem exports_restore_base :
    (afterSession PaddedKeys.crypto (codecOf (recordOf (padded 0) kidOne)) .sorted
      [.call (.generateKey .es256 (PaddedKeys.drawOf 0))]).RoundTrips
        (codecOf (recordOf (padded 0) kidOne)) .sorted := by
  refine (exports_restore PaddedKeys.crypto scalarPoints_fieldCoordinates _ (codecAt_inverts _ _)
    .sorted).1 _ fun op hop => ?_
  obtain rfl : op = .generateKey .es256 (PaddedKeys.drawOf 0) := by
    simpa using hop
  rintro d width hgeneration hwidth
  cases hgeneration
  rw [plainWidth_base] at hwidth
  exact .inl (Option.some.inj hwidth).symm

/-- A key with one zero octet in front of its coordinates is generated and exported, and the
export is refused. -/
theorem padded_key_spoils_export :
    ∃ generated blob,
      (new.generateKey PaddedKeys.crypto .es256 (PaddedKeys.drawOf 1)).1 = .ok generated ∧
      (codecOf (recordOf (padded 1) kidPadded)).Inverts ∧
      (new.generateKey PaddedKeys.crypto .es256 (PaddedKeys.drawOf 1)).2.exportState
        (codecOf (recordOf (padded 1) kidPadded)) .sorted = .ok blob ∧
      fromState (codecOf (recordOf (padded 1) kidPadded)) blob =
        .error (.serialization ("stored key 'kCrRU9NXbRl2DAylWRMr6dU3jahEcxiZQWzCi8CbQTw' has a " ++
          "33-octet x coordinate; expected 32 (P-256) or 48 (BLS12-381 G1)")) := by
  have hkeys : (sortedKeys .sorted
      ⟨Finmap.insert kidPadded.asStr (recordOf (padded 1) kidPadded) ∅, ∅⟩) =
      [recordOf (padded 1) kidPadded] := by
    unfold sortedKeys
    rw [HashMap.IterOrder.values_insert_empty, List.mergeSort_singleton]
  have hencode := codecAt_toVec ⟨[recordOf (padded 1) kidPadded], ∅⟩
    (oneKeyBlob (recordOf (padded 1) kidPadded))
  rw [generateKey_drawOf draw_padded]
  refine ⟨_, oneKeyBlob (recordOf (padded 1) kidPadded), rfl, codecAt_inverts _ _, ?_, ?_⟩
  · rw [exportState, hkeys, codecOf, hencode]
  · have hread := (codecAt_inverts _ _).lawful _ _ hencode
    rw [fromState, codecOf, hread]
    rfl

end Fido2SignPlugin

end Wscd
