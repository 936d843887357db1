import Wscd.KeystoreCalls
import Wscd.Lib.Keeper

/-!
# Concurrent calls of the Keystore plugin

Between two questions of one call to the Keystore the other calls may do anything. A key that
is alive is in the hands of the call that made it until it is recorded, and recorded until a
deletion has made sure that it is gone.

Results:
1. `Setting.meets_generateKeyWithChallenge`, `Setting.meets_deleteKey`: what a call guarantees
   the others, and returns.
2. `concurrent_calls_keep_custody`: in every interleaving a live alias is recorded, in the hands
   of a call, or reported as not cleaned up; a returned key stays until it is deleted.
-/

namespace Wscd.AndroidKeystorePlugin

open Lib AndroidKeystore

variable {W ι : Type}

/-! ## What a call does to the aliases -/

/-- The alias a creation was attempted under. -/
def KeystoreEvent.tried : KeystoreEvent → Option String
  | .generated keyAlias _ _ => some keyAlias
  | _ => none

/-- The Keystore has had a key of that kid under the alias, or would have. -/
def Belongs (host : Host W) (live : W → String → Option Json) (kid keyAlias : String) : Prop :=
  ∃ w jwk, live w keyAlias = some jwk ∧ jwkThumbprint host.digest jwk = .ok kid

/-- Public keys of different aliases have different thumbprints, whenever they are alive. -/
def DistinctThumbprints (host : Host W) (live : W → String → Option Json) : Prop :=
  ∀ kid a b, Belongs host live kid a → Belongs host live kid b → a = b

/-- The outside and the plugin, and what the calls have asked. -/
abbrev Shared (ι W : Type) : Type := (W × AndroidKeystorePlugin) × List (ι × KeystoreEvent)

/-- The host, what is alive in it, the aliases there were and the calls that run. -/
structure Setting (ι W : Type) where
  host : Host W
  live : W → String → Option Json
  created : List String
  ops : ι → KeystoreOp
  keeps : KeepsAliases host live
  distinct : DistinctThumbprints host live

namespace Setting

/-- The aliases and the plugin's records of them. -/
def keeper (x : Setting ι W) :
    Keeper ι KeystoreEvent W AndroidKeystorePlugin String Json String StoredAndroidKey where
  live := x.live
  lookup self kid := self.keys.lookup kid
  draws := KeystoreEvent.drawn
  tries := KeystoreEvent.tried
  earlier := x.created
  name := StoredAndroidKey.keyAlias
  key jwk := (jwkThumbprint x.host.digest jwk).toOption
  belongs := Belongs x.host x.live
  unique := x.distinct
  erases i kid := x.ops i = .deleteKey ⟨kid⟩

variable {x : Setting ι W} {i : ι} {s : Shared ι W} {keyAlias : String}

theorem silent_delete : x.keeper.Silent (delete x.host keyAlias) :=
  ⟨fun _ => rfl, fun _ => rfl, fun _ => rfl, fun s a => x.keeps.delete keyAlias s.1 a⟩

theorem silent_certificateChain : x.keeper.Silent (certificateChain x.host keyAlias) :=
  ⟨fun _ => rfl, fun _ => rfl, fun _ => rfl, fun s a => x.keeps.certificateChain keyAlias s.1 a⟩

theorem silent_outside {α : Type} {f : W → α × W} (hf : ∀ w a, Fades x.live w (f w).2 a) :
    x.keeper.Silent (outside f : KeystoreM W α) :=
  ⟨fun _ => rfl, fun _ => rfl, fun _ => rfl, fun s a => hf s.1 a⟩

theorem silent_onProgress {p : OperationProgress} :
    x.keeper.Silent (onProgress x.host p) :=
  silent_outside fun w a => x.keeps.onProgress p w a

theorem silent_get {α : Type} (f : W × AndroidKeystorePlugin → α) :
    x.keeper.Silent (Traced.get f : KeystoreM W α) :=
  ⟨fun _ => rfl, fun _ => rfl, fun _ => rfl, fun _ _ => .inl rfl⟩

variable [DecidableEq ι]

variable (x) in
abbrev custody : Custody ι (Shared ι W) String Json String StoredAndroidKey := x.keeper.custody

variable (x) in
/-- Whatever the other calls do, the call keeps the guarantee and returns what satisfies `Q`. -/
abbrev Meets {α : Type} (i : ι) (t : KeystoreCall W α)
    (Q : Except WscdError α → Shared ι W → Prop) (s : Shared ι W) : Prop :=
  x.keeper.Meets i t Q s

/-! ### The sections -/

theorem meets_delete {P : Shared ι W → Prop} (hP : x.custody.Kept i P)
    (hknown : ∀ s, P s → x.custody.Known s keyAlias) (hsound : x.custody.Sound s) (hs : P s) :
    x.Meets i (.atomic (delete x.host keyAlias)) (fun r s => x.custody.Sound s ∧ P s ∧
      (r = .ok () → x.custody.Gone keyAlias s)) s :=
  Keeper.meets_gone silent_delete
    (fun s hok => x.keeps.delete_ok keyAlias s.1 _ (Prod.ext hok rfl)) hP hknown hsound hs

theorem meets_newAlias (hsound : x.custody.Sound s) (hs : x.custody.Settled i s) :
    x.Meets i (.atomic (newAlias x.host)) (fun r s => x.custody.Sound s ∧
      ∃ a, r = .ok a ∧ x.custody.Holds i a s ∧ a ∈ x.custody.drawn s i ∧
        a ∉ x.custody.tried s) s := by
  refine Custody.meets_atomic Keeper.distinct_of_fresh Custody.kept_settled
    (fun r => .exists fun a => .and (.const _) (Custody.kept_holds.and Custody.kept_untried))
    ?_ hsound hs
  intro s hsound hs hfresh
  let s' := Async.enter i (fun s => (newAlias x.host s).2) s
  let a := "org.siros.wscd.android-keystore." ++
    x.host.digest.encode (x.host.rng.bytes 16 s.1.1).1
  have hdrawn : ∀ j, x.custody.drawn s' j = x.custody.drawn s j ++ if j = i then [a] else [] :=
    fun j => Keeper.drawn_enter j
  have htried : x.custody.tried s' = x.custody.tried s := Keeper.tried_enter_of_nil rfl
  have hopens : x.custody.Opens i a s s' :=
    { drawn_of_ne := fun j hne => by simp [hdrawn, hne]
      drawn_subset := by simp [hdrawn]
      drawn_new := by simp [hdrawn]
      drawn := by simp [hdrawn]
      tried_subset := by simp [htried]
      tried_new := by simp +contextual [htried]
      register := rfl
      fades := fun m _ => x.keeps.bytes 16 s.1.1 m }
  obtain ⟨hunknown, hunregistered⟩ :=
    Keeper.Fresh.unknown (x := x.keeper) (e := .drewAlias a) hfresh rfl hsound
  refine ⟨hopens.guarantee hunknown fun _ => x.keeps.bytes 16 s.1.1 a, a, rfl,
    hopens.holds hunregistered fun m hm _ => hs m hm, hopens.drawn, ?_⟩
  rw [htried]
  exact fun h => hunknown (.inl h)

theorem meets_generate {challenge : List UInt8} {strongBox : Bool} (hsound : x.custody.Sound s)
    (hs : x.custody.Holds i keyAlias s)
    (hnew : keyAlias ∈ x.custody.drawn s i ∧ keyAlias ∉ x.custody.tried s) :
    x.Meets i (.atomic (generate x.host keyAlias challenge strongBox)) (fun _ s =>
      x.custody.Sound s ∧ x.custody.Holds i keyAlias s ∧ keyAlias ∈ x.custody.tried s) s := by
  refine Custody.meets_atomic Keeper.distinct_of_fresh
    (Custody.kept_holds.and Custody.kept_untried)
    (fun r => Custody.kept_holds.and Custody.kept_tried) ?_ hsound ⟨hs, hnew⟩
  rintro s hsound ⟨hs, hnew⟩ hfresh
  let s' := Async.enter i (fun s => (generate x.host keyAlias challenge strongBox s).2) s
  have hdrawn : x.custody.drawn s' = x.custody.drawn s := Keeper.drawn_enter_of_nil rfl
  have htried : x.custody.tried s' = x.custody.tried s ++ [keyAlias] := Keeper.tried_enter
  have hopens : x.custody.Opens i keyAlias s s' :=
    { drawn_of_ne := fun j _ => by rw [hdrawn]
      drawn_subset := by simp [hdrawn]
      drawn_new := by simp +contextual [hdrawn]
      drawn := by rw [hdrawn]; exact hs.drawn
      tried_subset := by simp [htried]
      tried_new := by simp [htried]
      register := rfl
      fades := fun m hne => x.keeps.generate keyAlias (some challenge) strongBox [] false s.1.1
        m hne }
  refine ⟨hopens.guarantee ?_ fun hout => absurd hopens.drawn hout,
    hopens.holds hs.unregistered hs.others, ?_⟩
  · rintro (htried | hearlier)
    · exact hnew.2 htried
    · exact (Keeper.distinct_of_fresh s hfresh.prefix).earlier i keyAlias hnew.1 hearlier
  · rw [htried]
    exact List.mem_append_right _ (List.mem_singleton_self _)

/-- The public key that is read is that of the alias. -/
theorem meets_publicKeyJwk {P : Shared ι W → Prop} (hP : x.custody.Kept i P)
    (hdrawn : ∀ s, P s → keyAlias ∈ x.custody.drawn s i) (hsound : x.custody.Sound s)
    (hs : P s) :
    x.Meets i (.atomic (outside (x.host.callback.publicKeyJwk keyAlias))) (fun r s =>
      x.custody.Sound s ∧ P s ∧ ∃ answer, r = .ok answer ∧ ∀ jwk, answer = .ok jwk →
        x.custody.Shows i keyAlias jwk s ∧
          ∀ kid, jwkThumbprint x.host.digest jwk = .ok kid → Belongs x.host x.live kid keyAlias)
      s := by
  have hsilent : x.keeper.Silent (outside (x.host.callback.publicKeyJwk keyAlias) :
      KeystoreM W (Except WscdError Json)) := silent_outside (x.keeps.publicKeyJwk keyAlias)
  refine Keeper.meets_silent hsilent hP (fun r => .exists fun answer => .and (.const _) ?_) ?_
    hsound hs
  · intro s s' hleaves h jwk hjwk
    exact ⟨Custody.kept_shows s s' hleaves (h jwk hjwk).1, (h jwk hjwk).2⟩
  · intro s hsound hs
    refine ⟨_, rfl, fun jwk hjwk => ?_⟩
    have halive : x.live s.1.1 keyAlias = some jwk :=
      x.keeps.publicKeyJwk_ok keyAlias s.1.1 _ jwk (Prod.ext hjwk rfl)
    refine ⟨⟨?_, fun v hv => ?_⟩, fun kid hkid => ⟨s.1.1, jwk, halive, hkid⟩⟩
    · rw [((hsilent.quiet s).leaves i).drawn]
      exact hdrawn s hs
    · have hbefore : x.live s.1.1 keyAlias = some v :=
        Custody.Fades.alive (c := x.custody) ((hsilent.quiet s).fades keyAlias) hv
      exact Option.some.inj (hbefore.symm.trans halive)

theorem meets_insert {kid : String} {key : StoredAndroidKey} {jwk : Json}
    (hkid : jwkThumbprint x.host.digest jwk = .ok kid)
    (hbelongs : Belongs x.host x.live kid key.keyAlias) (hsound : x.custody.Sound s)
    (hs : x.custody.Holds i key.keyAlias s) (htried : key.keyAlias ∈ x.custody.tried s)
    (hshows : x.custody.Shows i key.keyAlias jwk s) :
    x.Meets i (.atomic (Traced.modify fun s => (s.1, ⟨s.2.keys.insert kid key⟩)))
      (fun r s => x.custody.Sound s ∧ x.custody.Settled i s ∧ x.custody.Filed kid key s ∧
        r = .ok ()) s := by
  have hkey : x.keeper.key jwk = some kid := by
    show (jwkThumbprint x.host.digest jwk).toOption = _
    rw [hkid]
    rfl
  exact Keeper.meets_insert (f := fun self => ⟨self.keys.insert kid key⟩)
    (fun self k => HashMap.lookup_insert_eq_ite self.keys kid k key) hkey hbelongs hsound hs htried
    hshows

theorem meets_erase {kid : String} (hbelongs : Belongs x.host x.live kid keyAlias)
    (hdeletes : x.ops i = .deleteKey ⟨kid⟩) (hsound : x.custody.Sound s)
    (hs : x.custody.Settled i s) (hgone : x.custody.Gone keyAlias s) :
    x.Meets i (.atomic (Traced.modify fun s => (s.1, ⟨s.2.keys.erase kid⟩)))
      (fun _ s => x.custody.Sound s ∧ x.custody.Settled i s ∧ x.custody.Gone keyAlias s) s :=
  Keeper.meets_erase (f := fun self => ⟨self.keys.erase kid⟩)
    (fun self k => HashMap.lookup_erase_eq_ite self.keys kid k) hbelongs hdeletes hsound hs hgone

/-! ### The calls -/

variable (x i) in
/-- The call fails, and leaves nothing alive that is not recorded, or says that it may have. -/
def Fails {α : Type} (r : Except WscdError α) (s : Shared ι W) : Prop :=
  ∃ e, r = .error e ∧ (IsUnconfirmed e ∨ x.custody.Settled i s)

theorem kept_fails {α : Type} {r : Except WscdError α} : x.custody.Kept i (x.Fails i r) :=
  .exists fun _ => .and (.const _) (.or (.const _) Custody.kept_settled)

theorem meets_deleteAfterFailedGenerate {originalErr : WscdError} (hsound : x.custody.Sound s)
    (hs : x.custody.Holds i keyAlias s) (htried : keyAlias ∈ x.custody.tried s) :
    x.Meets i (KeystoreCall.deleteAfterFailedGenerate x.host keyAlias originalErr) (fun r s =>
      x.custody.Sound s ∧ ∃ e, r = .ok e ∧ (IsUnconfirmed e ∨ x.custody.Settled i s)) s := by
  have hkept : ∀ r : Except WscdError WscdError, x.custody.Kept i fun s =>
      ∃ e, r = .ok e ∧ (IsUnconfirmed e ∨ x.custody.Settled i s) := fun r =>
    .exists fun e => .and (.const _) (.or (.const _) Custody.kept_settled)
  refine Async.Meets.attemptBind (meets_delete (Custody.kept_holds.and Custody.kept_tried)
    (fun s h => .inl h.2) hsound ⟨hs, htried⟩) ?_
  rintro answer s ⟨hsound, ⟨hs, htried⟩, hgone⟩
  cases answer with
  | ok _ =>
    have hsettled : x.custody.Settled i s := hs.settle fun halive => absurd (hgone rfl).2 halive
    exact Keeper.meets_returned (hkept _) hsound ⟨originalErr, rfl, .inr hsettled⟩
  | error deleteErr =>
    exact Keeper.meets_returned (hkept _) hsound ⟨_, rfl, .inl ⟨_, _, rfl⟩⟩

/-- A failure that cleans up after itself. -/
theorem meets_cleanUp {α : Type} {originalErr : WscdError} (hsound : x.custody.Sound s)
    (hs : x.custody.Holds i keyAlias s) (htried : keyAlias ∈ x.custody.tried s) :
    x.Meets i (KeystoreCall.deleteAfterFailedGenerate x.host keyAlias originalErr >>= fun err =>
      (Async.lift (.error err) : KeystoreCall W α))
      (fun r s => x.custody.Sound s ∧ x.Fails i r s) s := by
  refine Async.Meets.bind (meets_deleteAfterFailedGenerate hsound hs htried) ?_ ?_
  · rintro e s ⟨hsound, _, ⟨⟩, hends⟩
    exact Keeper.meets_returned kept_fails hsound ⟨e, rfl, hends⟩
  · rintro e s ⟨-, _, ⟨⟩, -⟩

/-- A new alias is in hand, or nothing is. -/
theorem meets_bestEffortGenerate {challenge : List UInt8} (hsound : x.custody.Sound s)
    (hs : x.custody.Settled i s) :
    x.Meets i (KeystoreCall.bestEffortGenerate x.host challenge) (fun r s =>
      x.custody.Sound s ∧ ((∃ created, r = .ok created ∧ x.custody.Holds i created.1 s ∧
        created.1 ∈ x.custody.tried s) ∨ x.Fails i r s)) s := by
  have hkept : ∀ r : Except WscdError (String × AndroidKeystoreSecurityLevel),
      x.custody.Kept i fun s => (∃ created, r = .ok created ∧ x.custody.Holds i created.1 s ∧
        created.1 ∈ x.custody.tried s) ∨ x.Fails i r s := fun r =>
    .or (.exists fun _ => .and (.const _) (Custody.kept_holds.and Custody.kept_tried)) kept_fails
  -- the clean-up of a failed attempt
  have hcleanUp : ∀ {a : String} {e : WscdError} {s : Shared ι W}, x.custody.Sound s →
      x.custody.Holds i a s → a ∈ x.custody.tried s →
      x.Meets i (KeystoreCall.deleteAfterFailedGenerate x.host a e >>= fun err =>
        (Async.lift (.error err) : KeystoreCall W (String × AndroidKeystoreSecurityLevel)))
        (fun r s => x.custody.Sound s ∧ ((∃ created, r = .ok created ∧
          x.custody.Holds i created.1 s ∧ created.1 ∈ x.custody.tried s) ∨ x.Fails i r s)) s :=
    fun hsound hs htried => (meets_cleanUp hsound hs htried).imp fun _ _ => And.imp_right .inr
  refine Async.Meets.bind (meets_newAlias hsound hs) ?_ ?_
  swap
  · rintro e s ⟨-, _, ⟨⟩, -⟩
  rintro keyAlias s ⟨hsound, _, ⟨⟩, hs, hnew⟩
  refine Async.Meets.attemptBind (meets_generate hsound hs hnew) ?_
  rintro answer s ⟨hsound, hs, htried⟩
  cases answer with
  | ok level => exact Keeper.meets_returned (hkept _) hsound (.inl ⟨_, rfl, hs, htried⟩)
  | error e =>
    cases e with
    | strongBoxUnavailable =>
      refine Async.Meets.attemptBind (meets_delete (Custody.kept_holds.and Custody.kept_tried)
        (fun s h => .inl h.2) hsound ⟨hs, htried⟩) ?_
      rintro answer s ⟨hsound, ⟨hs, htried⟩, hgone⟩
      cases answer with
      | error deleteErr =>
        exact Keeper.meets_returned (hkept _) hsound (.inr ⟨_, rfl, .inl ⟨_, _, rfl⟩⟩)
      | ok _ =>
        have hsettled : x.custody.Settled i s :=
          hs.settle fun halive => absurd (hgone rfl).2 halive
        refine Async.Meets.bind (meets_newAlias hsound hsettled) ?_ ?_
        swap
        · rintro e s ⟨-, _, ⟨⟩, -⟩
        rintro teeAlias s ⟨hsound, _, ⟨⟩, hs, hnew⟩
        refine Async.Meets.attemptBind (meets_generate hsound hs hnew) ?_
        rintro answer s ⟨hsound, hs, htried⟩
        cases answer with
        | ok level => exact Keeper.meets_returned (hkept _) hsound (.inl ⟨_, rfl, hs, htried⟩)
        | error e => exact hcleanUp hsound hs htried
    | _ => exact hcleanUp hsound hs htried

variable (x i) in
/-- The call has made a key, and everything it has made is recorded. -/
def Makes (r : Except WscdError GeneratedKey) (s : Shared ι W) : Prop :=
  ∃ generated, r = .ok generated ∧ x.custody.Settled i s ∧
    ∃ key, key.publicKeyJwk = generated.publicKeyJwk ∧
      x.custody.Filed generated.kid.asStr key s

theorem kept_makes {r : Except WscdError GeneratedKey} : x.custody.Kept i (x.Makes i r) :=
  .exists fun _ => .and (.const _) (Custody.kept_settled.and
    (.exists fun _ => .and (.const _) Custody.kept_filed))

/-- The key in hand is recorded, or still in hand. -/
theorem meets_finishGenerateKey {level : AndroidKeystoreSecurityLevel} {challenge : List UInt8}
    (hsound : x.custody.Sound s) (hs : x.custody.Holds i keyAlias s)
    (htried : keyAlias ∈ x.custody.tried s) :
    x.Meets i (KeystoreCall.finishGenerateKey x.host keyAlias level challenge) (fun r s =>
      x.custody.Sound s ∧ (x.Makes i r s ∨ (∃ e, r = .error e) ∧
        x.custody.Holds i keyAlias s ∧ keyAlias ∈ x.custody.tried s)) s := by
  have hinHand : x.custody.Kept i fun s =>
      x.custody.Holds i keyAlias s ∧ keyAlias ∈ x.custody.tried s :=
    Custody.kept_holds.and Custody.kept_tried
  have hkept : ∀ r, x.custody.Kept i fun s => x.Makes i r s ∨ (∃ e, r = .error e) ∧
      x.custody.Holds i keyAlias s ∧ keyAlias ∈ x.custody.tried s := fun r =>
    .or kept_makes (.and (.const _) hinHand)
  have hfails : ∀ {e : WscdError} {s : Shared ι W}, x.custody.Sound s →
      x.custody.Holds i keyAlias s → keyAlias ∈ x.custody.tried s →
      x.Meets i (.returned (.error e)) (fun r s => x.custody.Sound s ∧ (x.Makes i r s ∨
        (∃ e, r = .error e) ∧ x.custody.Holds i keyAlias s ∧ keyAlias ∈ x.custody.tried s)) s :=
    fun hsound hs htried => Keeper.meets_returned (hkept _) hsound (.inr ⟨⟨_, rfl⟩, hs, htried⟩)
  refine Async.Meets.bind (Keeper.meets_silent silent_certificateChain hinHand
    (Q := fun _ _ => True) (fun _ => .const _) (fun _ _ _ => trivial) hsound ⟨hs, htried⟩) ?_ ?_
  swap
  · rintro e s ⟨hsound, ⟨hs, htried⟩, -⟩
    exact ⟨hsound, .inr ⟨⟨e, rfl⟩, hs, htried⟩⟩
  rintro certificates s ⟨hsound, ⟨hs, htried⟩, -⟩
  refine Async.Meets.bind (meets_publicKeyJwk hinHand (fun s h => h.1.drawn) hsound
    ⟨hs, htried⟩) ?_ ?_
  swap
  · rintro e s ⟨-, -, _, ⟨⟩, -⟩
  rintro answer s ⟨hsound, ⟨hs, htried⟩, _, ⟨⟩, hjwk⟩
  refine Async.Meets.liftBind (fun publicKeyJwk hok => ?_) fun e _ => hfails hsound hs htried
  obtain ⟨hshows, hbelongs⟩ := hjwk publicKeyJwk hok
  refine Async.Meets.liftBind (fun kid hkid => ?_) fun e _ => hfails hsound hs htried
  refine Async.Meets.bind (Keeper.meets_passing (silent_get _) (fun _ => ⟨_, rfl⟩)
    (hinHand.and Custody.kept_shows) hsound ⟨⟨hs, htried⟩, hshows⟩) ?_ ?_
  swap
  · rintro e s ⟨-, -, _, ⟨⟩⟩
  rintro createdAt s ⟨hsound, ⟨⟨hs, htried⟩, hshows⟩, -⟩
  refine Async.Meets.bind (meets_insert hkid (hbelongs kid hkid) hsound hs htried hshows) ?_ ?_
  · rintro _ s ⟨hsound, hs, hfiled, -⟩
    exact Keeper.meets_returned (hkept _) hsound (.inl ⟨_, rfl, hs, _, rfl, hfiled⟩)
  · rintro e s ⟨-, -, -, ⟨⟩⟩

theorem meets_generateKeyWithChallenge {algorithm : Algorithm} {challenge : List UInt8}
    (hsound : x.custody.Sound s) (hs : x.custody.Settled i s) :
    x.Meets i (KeystoreCall.generateKeyWithChallenge x.host algorithm challenge) (fun r s =>
      x.custody.Sound s ∧ (x.Makes i r s ∨ x.Fails i r s)) s := by
  have hkept : ∀ r, x.custody.Kept i fun s => x.Makes i r s ∨ x.Fails i r s := fun r =>
    kept_makes.or kept_fails
  have hrefuses : ∀ e : WscdError, x.Meets i (.returned (.error e)) (fun r s =>
      x.custody.Sound s ∧ (x.Makes i r s ∨ x.Fails i r s)) s := fun e =>
    Keeper.meets_returned (hkept _) hsound (.inr ⟨e, rfl, .inr hs⟩)
  unfold KeystoreCall.generateKeyWithChallenge
  split
  · exact hrefuses _
  split
  · exact hrefuses _
  refine Async.Meets.bind (Keeper.meets_passing silent_onProgress (fun _ => ⟨_, rfl⟩)
    Custody.kept_settled hsound hs) ?_ ?_
  swap
  · rintro e s ⟨-, -, _, ⟨⟩⟩
  rintro _ s ⟨hsound, hs, -⟩
  refine Async.Meets.bind (meets_bestEffortGenerate hsound hs) ?_ ?_
  swap
  · rintro e s ⟨hsound, ⟨_, ⟨⟩, -⟩ | ⟨_, ⟨⟩, hends⟩⟩
    exact ⟨hsound, .inr ⟨e, rfl, hends⟩⟩
  rintro ⟨keyAlias, level⟩ s ⟨hsound, ⟨_, ⟨⟩, hs, htried⟩ | ⟨_, ⟨⟩, -⟩⟩
  refine Async.Meets.attemptBind (meets_finishGenerateKey hsound hs htried) ?_
  rintro answer s ⟨hsound, hmakes | ⟨⟨e, rfl⟩, hs, htried⟩⟩
  · obtain ⟨generated, rfl, hs, key, hjwk, hfiled⟩ := hmakes
    refine Async.Meets.bind (Keeper.meets_passing silent_onProgress (fun _ => ⟨_, rfl⟩)
      (Custody.kept_settled.and Custody.kept_filed) hsound ⟨hs, hfiled⟩) ?_ ?_
    · rintro _ s ⟨hsound, ⟨hs, hfiled⟩, -⟩
      exact Keeper.meets_returned (hkept _) hsound (.inl ⟨generated, rfl, hs, key, hjwk, hfiled⟩)
    · rintro e s ⟨-, -, _, ⟨⟩⟩
  · exact (meets_cleanUp hsound hs htried).imp fun _ _ => And.imp_right .inr

theorem meets_generateKey {algorithm : Algorithm} (hsound : x.custody.Sound s)
    (hs : x.custody.Settled i s) :
    x.Meets i (KeystoreCall.generateKey x.host algorithm) (fun r s =>
      x.custody.Sound s ∧ (x.Makes i r s ∨ x.Fails i r s)) s := by
  refine Async.Meets.bind (Keeper.meets_passing (silent_outside (x.keeps.bytes 32))
    (fun _ => ⟨_, rfl⟩) Custody.kept_settled hsound hs) ?_ ?_
  · rintro challenge s ⟨hsound, hs, -⟩
    exact meets_generateKeyWithChallenge hsound hs
  · rintro e s ⟨-, -, _, ⟨⟩⟩

variable (x i) in
/-- The call has deleted the key, which is dead. -/
def Deleted (kid : KeyId) (r : Except WscdError Unit) (s : Shared ι W) : Prop :=
  (r = .ok () → ∃ n, x.custody.belongs kid.asStr n ∧ x.custody.Gone n s) ∧ x.custody.Settled i s

theorem kept_deleted {kid : KeyId} {r : Except WscdError Unit} :
    x.custody.Kept i (x.Deleted i kid r) :=
  .and (.imp (.exists fun _ => .and (.const _) Custody.kept_gone)) Custody.kept_settled

theorem meets_deleteKey {kid : KeyId} (hdeletes : x.ops i = .deleteKey kid)
    (hsound : x.custody.Sound s) (hs : x.custody.Settled i s) :
    x.Meets i (KeystoreCall.deleteKey x.host kid) (fun r s =>
      x.custody.Sound s ∧ x.Deleted i kid r s) s := by
  -- what a record says of its alias stays true when the record is gone
  refine Async.Meets.bind (Keeper.meets_silent (silent_get Prod.snd) Custody.kept_settled
    (Q := fun r s => ∃ self, r = .ok self ∧ ∀ key, self.keys.lookup kid.asStr = some key →
      x.custody.belongs kid.asStr key.keyAlias ∧ x.custody.Known s key.keyAlias) ?_ ?_ hsound
    hs) ?_ ?_
  · refine fun r => .exists fun self => .and (.const _) ?_
    intro s s' hleaves h key hkey
    exact ⟨(h key hkey).1, hleaves.known (h key hkey).2⟩
  · intro s hsound _
    refine ⟨_, rfl, fun key hkey => ?_⟩
    obtain ⟨hbelongs, hknown⟩ := hsound.owned kid.asStr key hkey
    exact ⟨hbelongs, ((silent_get Prod.snd).quiet s).leaves i |>.known hknown⟩
  swap
  · rintro e s ⟨-, -, _, ⟨⟩, -⟩
  rintro self s ⟨hsound, hs, _, ⟨⟩, hrecord⟩
  refine Async.Meets.liftBind (fun key hkey => ?_) fun e _ =>
    Keeper.meets_returned kept_deleted hsound ⟨nofun, hs⟩
  have hlookup : self.keys.lookup kid.asStr = some key := by
    unfold findKey at hkey
    cases h : self.keys.lookup kid.asStr with
    | none =>
      rw [h] at hkey
      cases hkey
    | some key' =>
      rw [h] at hkey
      cases hkey
      rfl
  obtain ⟨hbelongs, hknown⟩ := hrecord key hlookup
  refine Async.Meets.bind (meets_delete (Custody.kept_settled.and Custody.kept_known)
    (fun s h => h.2) hsound ⟨hs, hknown⟩) ?_ ?_
  · rintro _ s ⟨hsound, ⟨hs, -⟩, hgone⟩
    refine (meets_erase hbelongs hdeletes hsound hs (hgone rfl)).imp fun r s h => ?_
    exact ⟨h.1, fun _ => ⟨key.keyAlias, hbelongs, h.2.2⟩, h.2.1⟩
  · rintro e s ⟨hsound, ⟨hs, -⟩, -⟩
    exact ⟨hsound, nofun, hs⟩

end Setting

section Runs

variable [DecidableEq ι]

namespace Setting

variable (x : Setting ι W)

/-- What a call has answered. -/
def Answers (i : ι) : Except WscdError (Option GeneratedKey) → Shared ι W → Prop
  | .ok (some generated), s => x.custody.Settled i s ∧
    ∃ key, key.publicKeyJwk = generated.publicKeyJwk ∧ x.custody.Filed generated.kid.asStr key s
  | .ok none, s => x.custody.Settled i s ∧ ∀ kid, x.ops i = .deleteKey kid →
    ∃ n, x.custody.belongs kid.asStr n ∧ x.custody.Gone n s
  | .error e, s => IsUnconfirmed e ∨ x.custody.Settled i s

variable {x} {i : ι} {s : Shared ι W}

theorem kept_answers (r : Except WscdError (Option GeneratedKey)) :
    x.custody.Kept i (x.Answers i r) := by
  rcases r with e | _ | generated
  · exact .or (.const _) Custody.kept_settled
  · refine .and Custody.kept_settled fun s s' hs h kid hkid => ?_
    exact (Custody.Kept.exists fun _ => .and (.const _) Custody.kept_gone) s s' hs (h kid hkid)
  · exact .and Custody.kept_settled (.exists fun _ => .and (.const _) Custody.kept_filed)

theorem meets_call (hsound : x.custody.Sound s) (hs : x.custody.Settled i s) :
    x.Meets i ((x.ops i).call x.host) (fun r s => x.custody.Sound s ∧ x.Answers i r s) s := by
  -- a generation, by what it comes to
  have hgenerates : ∀ {t : KeystoreCall W GeneratedKey},
      x.Meets i t (fun r s => x.custody.Sound s ∧ (x.Makes i r s ∨ x.Fails i r s)) s →
      x.Meets i (t >>= fun generated => pure (some generated))
        (fun r s => x.custody.Sound s ∧ x.Answers i r s) s := by
    intro t ht
    refine Async.Meets.bind ht ?_ ?_
    · rintro generated s ⟨hsound, ⟨_, ⟨⟩, hs, hkey⟩ | ⟨_, ⟨⟩, -⟩⟩
      exact Keeper.meets_returned (kept_answers _) hsound ⟨hs, hkey⟩
    · rintro e s ⟨hsound, ⟨_, ⟨⟩, -⟩ | ⟨_, ⟨⟩, hends⟩⟩
      exact ⟨hsound, hends⟩
  cases hop : x.ops i with
  | generateKey algorithm => exact hgenerates (meets_generateKey hsound hs)
  | generateKeyWithChallenge algorithm challenge =>
    exact hgenerates (meets_generateKeyWithChallenge hsound hs)
  | deleteKey kid =>
    refine Async.Meets.bind (meets_deleteKey hop hsound hs) ?_ ?_
    · rintro _ s ⟨hsound, hgone, hs⟩
      refine Keeper.meets_returned (kept_answers _) hsound ⟨hs, fun kid' hkid' => ?_⟩
      cases hop.symm.trans hkid'
      exact hgone rfl
    · rintro e s ⟨hsound, -, hs⟩
      exact ⟨hsound, .inr hs⟩

/-- After any interleaving the records are sound, and the calls have kept their word. -/
theorem interleave_answers {w : W} {self : AndroidKeystorePlugin}
    (haccounted : Accounted x.host x.live x.created (w, self))
    (hbelongs : ∀ kid key, self.keys.lookup kid = some key →
      Belongs x.host x.live kid key.keyAlias) (schedule : List ι)
    (hfresh : x.keeper.Fresh (interleave x.host x.ops (w, self) schedule).shared.2) :
    x.custody.Sound (interleave x.host x.ops (w, self) schedule).shared ∧
      ∀ i r, ((interleave x.host x.ops (w, self) schedule).threads i).2.result = some r →
        x.Answers i r (interleave x.host x.ops (w, self) schedule).shared := by
  have hstart : x.custody.Sound ((w, self), []) := by
    refine ⟨fun kid key hkey => ⟨hbelongs kid key hkey, .inr (haccounted.created kid key hkey)⟩,
      fun kid key jwk hkey halive => ?_, by rintro a ⟨⟩, haccounted.recorded⟩
    show (jwkThumbprint x.host.digest jwk).toOption = some kid
    rw [haccounted.named kid key jwk hkey halive]
    rfl
  have hmeet : Async.AllMeet x.keeper.Fresh x.custody.Guarantee
      (fun i r s => x.custody.Sound s ∧ x.Answers i r s)
      (Async.start (w, self) fun i => (x.ops i).call x.host) := fun i =>
    ⟨rfl, meets_call hstart (by rintro a ⟨⟩)⟩
  obtain ⟨hall, hreached⟩ := hmeet.run (fun _ _ => Keeper.Fresh.prefix) schedule hfresh
  exact ⟨hstart.reached hreached, fun i r hr => (hall.result hr).2⟩

theorem Answers.settled {r : Except WscdError (Option GeneratedKey)} (h : x.Answers i r s)
    (hconfirmed : ∀ e, r = .error e → ¬ IsUnconfirmed e) : x.custody.Settled i s := by
  rcases r with e | _ | generated
  · exact h.resolve_left (hconfirmed e rfl)
  · exact h.1
  · exact h.1

end Setting

/-- However any number of calls interleave, whatever the Keystore answers:
a live alias that some call has created is recorded, or in the hands of a call, or reported as
not cleaned up; a key that was returned is recorded unless some call is to delete it; and of a
key whose deletion has returned nothing is alive. -/
theorem concurrent_calls_keep_custody (host : Host W) (live : W → String → Option Json)
    (hhost : KeepsAliases host live) (hdistinct : DistinctThumbprints host live)
    (created : List String) (w : W) (self : AndroidKeystorePlugin)
    (haccounted : Accounted host live created (w, self))
    (hbelongs : ∀ kid key, self.keys.lookup kid = some key → Belongs host live kid key.keyAlias)
    (ops : ι → KeystoreOp) (schedule : List ι) :
    let p := interleave host ops (w, self) schedule
    (created ++ p.shared.2.filterMap fun e => e.2.drawn).Nodup →
      (∀ keyAlias, keyAlias ∈ created ∨ (∃ i, (i, .drewAlias keyAlias) ∈ p.shared.2) →
        live p.shared.1.1 keyAlias ≠ none →
        (∃ kid key, p.shared.1.2.keys.lookup kid = some key ∧ key.keyAlias = keyAlias) ∨
          ∃ i, (i, .drewAlias keyAlias) ∈ p.shared.2 ∧ ∀ r, (p.threads i).2.result = some r →
            ∃ e, r = .error e ∧ IsUnconfirmed e) ∧
      (∀ i generated, (p.threads i).2.result = some (.ok (some generated)) →
        (∀ j, ops j ≠ .deleteKey generated.kid) →
        ∃ key, p.shared.1.2.keys.lookup generated.kid.asStr = some key ∧
          key.publicKeyJwk = generated.publicKeyJwk) ∧
      ∀ i kid, ops i = .deleteKey kid → (p.threads i).2.result = some (.ok none) →
        ∀ keyAlias jwk, live p.shared.1.1 keyAlias = some jwk →
          jwkThumbprint host.digest jwk ≠ .ok kid.asStr := by
  intro p hfresh
  let x : Setting ι W := ⟨host, live, created, ops, hhost, hdistinct⟩
  obtain ⟨hsound, hanswers⟩ :=
    Setting.interleave_answers (x := x) haccounted hbelongs schedule hfresh
  refine ⟨fun keyAlias hmade halive => ?_, fun i generated hresult hnone => ?_,
    fun i kid hop hresult keyAlias jwk halive hkid => ?_⟩
  · rcases hmade with hcreated | ⟨i, hdrawn⟩
    · exact .inl (hsound.earlier keyAlias hcreated halive)
    · by_cases hexcused : ∀ r, (p.threads i).2.result = some r → ∃ e, r = .error e ∧ IsUnconfirmed e
      · exact .inr ⟨i, hdrawn, hexcused⟩
      · push Not at hexcused
        obtain ⟨r, hr, hconfirmed⟩ := hexcused
        have hs : x.custody.Settled i p.shared := (hanswers i r hr).settled hconfirmed
        exact .inl (hs keyAlias (Keeper.mem_drawn.mpr ⟨_, hdrawn, rfl⟩) halive)
  · obtain ⟨-, key, hjwk, -, hkey | ⟨-, j, herases⟩⟩ := hanswers i _ hresult
    · exact ⟨key, hkey, hjwk⟩
    · exact absurd herases (hnone j)
  · obtain ⟨-, hgone⟩ := hanswers i _ hresult
    obtain ⟨n, hbelongs, -, hdead⟩ := hgone kid hop
    obtain rfl := hdistinct kid.asStr keyAlias n ⟨_, jwk, halive, hkid⟩ hbelongs
    exact absurd (hdead.symm.trans halive) nofun

/-- Once all calls have returned and none reports an alias as not cleaned up, all is accounted
for again, so that other calls can follow. -/
theorem interleave_accounted {host : Host W} {live : W → String → Option Json}
    (hhost : KeepsAliases host live) (hdistinct : DistinctThumbprints host live)
    {created : List String} {w : W} {self : AndroidKeystorePlugin}
    (haccounted : Accounted host live created (w, self))
    (hbelongs : ∀ kid key, self.keys.lookup kid = some key → Belongs host live kid key.keyAlias)
    (ops : ι → KeystoreOp) (schedule : List ι)
    (hfresh : (created ++ (interleave host ops (w, self) schedule).shared.2.filterMap
      fun e => e.2.drawn).Nodup)
    (hreturned : ∀ i, ∃ r, ((interleave host ops (w, self) schedule).threads i).2.result =
      some r ∧ ∀ e, r = .error e → ¬ IsUnconfirmed e) :
    Accounted host live (created ++ (interleave host ops (w, self) schedule).shared.2.filterMap
        fun e => e.2.drawn) (interleave host ops (w, self) schedule).shared.1 ∧
      ∀ kid key, (interleave host ops (w, self) schedule).shared.1.2.keys.lookup kid = some key →
        Belongs host live kid key.keyAlias := by
  let x : Setting ι W := ⟨host, live, created, ops, hhost, hdistinct⟩
  obtain ⟨hsound, hanswers⟩ :=
    Setting.interleave_answers (x := x) haccounted hbelongs schedule hfresh
  refine ⟨⟨fun a ha halive => ?_, fun kid key hkey => ?_, fun kid key jwk hkey halive => ?_⟩,
    fun kid key hkey => (hsound.owned kid key hkey).1⟩
  · rcases List.mem_append.mp ha with hcreated | hdrawn
    · exact hsound.earlier a hcreated halive
    · obtain ⟨⟨i, e⟩, he, hdrawn⟩ := List.mem_filterMap.mp hdrawn
      obtain ⟨r, hr, hconfirmed⟩ := hreturned i
      exact (hanswers i r hr).settled hconfirmed a (Keeper.mem_drawn.mpr ⟨e, he, hdrawn⟩) halive
  · rcases (hsound.owned kid key hkey).2 with htried | hcreated
    · obtain ⟨i, hi⟩ := hsound.tried _ htried
      obtain ⟨e, he, hdrawn⟩ := Keeper.mem_drawn.mp hi
      exact List.mem_append_right _ (List.mem_filterMap.mpr ⟨_, he, hdrawn⟩)
    · exact List.mem_append_left _ hcreated
  · have hkid : (jwkThumbprint host.digest jwk).toOption = some kid :=
      hsound.keyed kid key jwk hkey halive
    cases h : jwkThumbprint host.digest jwk with
    | error e =>
      rw [h] at hkid
      cases hkid
    | ok kid' =>
      rw [h] at hkid
      cases hkid
      rfl

end Runs

/-! ## Two generations on a device without StrongBox -/

namespace CustodyDemo

open SoftkeyHost

/-- The aliases that are alive, and the octet to draw next. -/
abbrev World : Type := List String × UInt8

def nthAlias (octet : UInt8) : String :=
  "org.siros.wscd.android-keystore." ++ base64url (List.replicate 16 octet)

/-- The two keys the device makes, under the third and the fourth alias. -/
def keyUnder (keyAlias : String) : Option Json :=
  if keyAlias = nthAlias 2 then some (pointJwk basePoint)
  else if keyAlias = nthAlias 3 then some (pointJwk doublePoint)
  else none

def live (w : World) (keyAlias : String) : Option Json :=
  if keyAlias ∈ w.1 then keyUnder keyAlias else none

def host : Host World where
  callback :=
    { generate := fun keyAlias _ strongBox _ _ w =>
        if strongBox then (.error .strongBoxUnavailable, w)
        else (.ok .trustedExecution, keyAlias :: w.1, w.2)
      certificateChain := fun _ w => (.ok [[1], [2]], w)
      publicKeyJwk := fun keyAlias w =>
        (match live w keyAlias with
          | some jwk => .ok jwk
          | none => .error (.plugin "no such alias"), w)
      delete := fun keyAlias w => (.ok (), w.1.filter (· ≠ keyAlias), w.2) }
  progress := ⟨fun _ w => w⟩
  rng := .repeating (fun w => w.2) fun w => (w.1, w.2 + 1)
  digest := ⟨Lib.sha256, base64url⟩
  nowUnix _ := 0

theorem live_cases {w : World} {keyAlias : String} {jwk : Json}
    (h : live w keyAlias = some jwk) :
    (keyAlias = nthAlias 2 ∧ jwk = pointJwk basePoint) ∨
      (keyAlias = nthAlias 3 ∧ jwk = pointJwk doublePoint) := by
  unfold live keyUnder at h
  split_ifs at h with _ hthird hfourth
  · exact .inl ⟨hthird, (Option.some.inj h).symm⟩
  · exact .inr ⟨hfourth, (Option.some.inj h).symm⟩

theorem distinctThumbprints : DistinctThumbprints host live := by
  have hkids : (.ok kidOne.asStr : Except WscdError String) ≠ .ok kidTwo.asStr := by decide
  rintro k a b ⟨w, ja, ha, hka⟩ ⟨w', jb, hb, hkb⟩
  rcases live_cases ha with ⟨rfl, rfl⟩ | ⟨rfl, rfl⟩ <;>
    rcases live_cases hb with ⟨rfl, rfl⟩ | ⟨rfl, rfl⟩
  · rfl
  · exact absurd (thumbprint_basePoint.symm.trans (hka.trans
      (hkb.symm.trans thumbprint_doublePoint))) hkids
  · exact absurd (thumbprint_basePoint.symm.trans (hkb.trans
      (hka.symm.trans thumbprint_doublePoint))) hkids
  · rfl

theorem keepsAliases : KeepsAliases host live where
  generate keyAlias challenge strongBox methods unlocked w a hne := by
    left
    cases strongBox with
    | true => rfl
    | false => simp [live, host, hne]
  certificateChain _ _ _ := .inl rfl
  publicKeyJwk _ _ _ := .inl rfl
  publicKeyJwk_ok keyAlias w w' jwk h := by
    have hanswer := congrArg Prod.fst h
    dsimp only [host] at hanswer
    cases halive : live w keyAlias with
    | none =>
      rw [halive] at hanswer
      cases hanswer
    | some jwk' =>
      rw [halive] at hanswer
      cases hanswer
      rfl
  delete keyAlias w a := by
    by_cases hne : a = keyAlias
    · exact .inr (by simp [live, host, hne])
    · exact .inl (by simp [live, host, hne])
  delete_ok keyAlias w w' h := by
    obtain ⟨-, rfl⟩ := Prod.mk.inj h
    simp [live]
  bytes _ _ _ := .inl rfl
  onProgress _ _ _ := .inl rfl
  distinct w a b ja jb kid ha hb hka hkb :=
    distinctThumbprints kid a b ⟨w, ja, ha, hka⟩ ⟨w, jb, hb, hkb⟩

def twoGenerations (_ : Fin 2) : KeystoreOp := .generateKeyWithChallenge .es256 [7]

/-- Both attempts in StrongBox fail before either call turns to the TEE. -/
def schedule : List (Fin 2) := (List.replicate 11 [0, 1]).flatten

def calls : Async.Calls (Fin 2) KeystoreEvent (World × AndroidKeystorePlugin) WscdError
    (Option GeneratedKey) :=
  interleave host twoGenerations (([], 0), .new) schedule

def returnedKid (i : Fin 2) : Option String :=
  match (calls.threads i).2.result with
  | some (.ok (some generated)) => some generated.kid.asStr
  | _ => none

theorem result_of_returnedKid {i : Fin 2} {k : String} (h : returnedKid i = some k) :
    ∃ generated, (calls.threads i).2.result = some (.ok (some generated)) ∧
      generated.kid.asStr = k := by
  unfold returnedKid at h
  split at h
  · rename_i generated hresult
    exact ⟨generated, hresult, Option.some.inj h⟩
  · cases h

theorem calls_fresh :
    (([] : List String) ++ calls.shared.2.filterMap fun e => e.2.drawn).Nodup := by
  decide +kernel

theorem accounted_new : Accounted host live [] (([], 0), .new) :=
  ⟨by rintro a ⟨⟩, by rintro kid key ⟨⟩, by rintro kid key jwk ⟨⟩⟩

end CustodyDemo

open CustodyDemo SoftkeyHost in
theorem concurrent_calls_keep_custody_twoGenerations :
    (∃ key, calls.shared.1.2.keys.lookup kidOne.asStr = some key) ∧
      ∃ key, calls.shared.1.2.keys.lookup kidTwo.asStr = some key := by
  obtain ⟨-, hreturned, -⟩ := concurrent_calls_keep_custody host live keepsAliases
    distinctThumbprints [] ([], 0) .new accounted_new (by rintro kid key ⟨⟩) twoGenerations
    schedule calls_fresh
  have hrecorded : ∀ i k, returnedKid i = some k →
      ∃ key, calls.shared.1.2.keys.lookup k = some key := by
    intro i k hk
    obtain ⟨generated, hresult, rfl⟩ := result_of_returnedKid hk
    obtain ⟨key, hkey, -⟩ := hreturned i generated hresult nofun
    unfold calls
    exact ⟨key, hkey⟩
  exact ⟨hrecorded 0 _ (by decide +kernel), hrecorded 1 _ (by decide +kernel)⟩

end Wscd.AndroidKeystorePlugin
