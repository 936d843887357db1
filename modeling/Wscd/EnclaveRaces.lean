import Wscd.Deletion
import Wscd.Lib.Keeper

/-!
# Concurrent calls of the Secure Enclave plugin

As with the Keystore, key generations and deletions run at a time on one plugin, which locks its
records only to read them and to change them. A generation that the Secure Enclave refuses is
not cleaned up here, and a deletion also counts where the Keychain item was gone already.

Results:
1. `interleave_alone`: a call that nothing interrupts is the sequential operation.
2. `concurrent_enclave_calls_keep_custody`: in every interleaving a live key is recorded, or one
   of a call that has not returned a key; a returned key stays until it is deleted.
-/

namespace Wscd.AppleSecureEnclavePlugin

open Lib AppleSecureEnclave

variable {W ι : Type}

/-! ## Calls and their sections -/

/-- A call of the plugin, section by section. -/
abbrev EnclaveCall (W α : Type) : Type :=
  Async EnclaveEvent (W × AppleSecureEnclavePlugin) WscdError α

namespace EnclaveCall

section Calls

variable (host : Host W)

def generateKey (algorithm : Algorithm) : EnclaveCall W GeneratedKey := do
  if algorithm ≠ .es256 then
    Async.lift (.error (.unsupported id s!"generate_key({algorithm.asStr})"))
  else
    Async.atomic (onProgress host (.started "generate_key"))
    let keyTag ← .atomic (randomKeyTag host)
    let publicKey ← .atomic (generate host keyTag)
    let jwk := publicKeyJwk host publicKey.x publicKey.y
    let kid ← Async.lift (jwkThumbprint host.digest jwk)
    let createdAt ← .atomic (Traced.get fun s => host.nowUnix s.1)
    let stored : StoredKey := ⟨keyTag, publicKey.x, publicKey.y, createdAt⟩
    Async.atomic (Traced.modify fun s => (s.1, ⟨s.2.keys.insert kid stored⟩))
    Async.atomic (onProgress host .complete)
    return ⟨⟨kid⟩, jwk⟩

/-- The tag is read under the lock, and the record removed under it, later. -/
def deleteKey (kid : KeyId) : EnclaveCall W Unit := do
  match ← Async.atomic (Traced.get fun s => s.2.keys.lookup kid.asStr) with
  | none => Async.lift (.error (.keyNotFound kid.asStr))
  | some stored =>
    match ← Async.attempt (.atomic (delete host stored.keyTag)) with
    | .ok () | .error (.keyNotFound _) =>
      Async.atomic (Traced.modify fun s => (s.1, ⟨s.2.keys.erase kid.asStr⟩))
    | .error e => Async.lift (.error e)

variable {host}

theorem generateKey_toTraced (algorithm : Algorithm) :
    (generateKey host algorithm).toTraced =
      AppleSecureEnclavePlugin.generateKey host algorithm := by
  unfold generateKey AppleSecureEnclavePlugin.generateKey
  split
  · rfl
  refine Async.toTraced_bind_eq (Async.toTraced_atomic _) fun _ => ?_
  refine Async.toTraced_bind_eq (Async.toTraced_atomic _) fun keyTag => ?_
  refine Async.toTraced_bind_eq (Async.toTraced_atomic _) fun publicKey => ?_
  refine Async.toTraced_bind_eq rfl fun kid => ?_
  -- reading the clock first and then writing the record is the same, when nothing intervenes
  refine (Async.toTraced_bind_eq (Async.toTraced_atomic _) fun createdAt =>
    Async.toTraced_bind_eq (Async.toTraced_atomic _) fun _ =>
      Async.toTraced_bind_eq (Async.toTraced_atomic _) fun _ => rfl).trans ?_
  rfl

theorem deleteKey_toTraced (kid : KeyId) :
    (deleteKey host kid).toTraced = AppleSecureEnclavePlugin.deleteKey host kid := by
  refine Async.toTraced_bind_eq (Async.toTraced_atomic _) fun found => ?_
  cases found with
  | none => rfl
  | some stored =>
    refine Async.toTraced_bind_eq (Async.toTraced_attempt_atomic _) fun answer => ?_
    cases answer with
    | ok _ => exact Async.toTraced_atomic _
    | error e => cases e <;> first | exact Async.toTraced_atomic _ | rfl

end Calls

end EnclaveCall

inductive EnclaveOp where
  | generateKey (algorithm : Algorithm)
  | deleteKey (kid : KeyId)

namespace EnclaveOp

/-- The call of an operation; a generation answers with its key. -/
def call (host : Host W) : EnclaveOp → EnclaveCall W (Option GeneratedKey)
  | .generateKey algorithm => do
    let generated ← EnclaveCall.generateKey host algorithm
    return some generated
  | .deleteKey kid => do
    EnclaveCall.deleteKey host kid
    return none

/-- The operation without others, and its answer. -/
def answer (host : Host W) : EnclaveOp → EnclaveM W (Option GeneratedKey)
  | .generateKey algorithm => do
    let generated ← AppleSecureEnclavePlugin.generateKey host algorithm
    return some generated
  | .deleteKey kid => do
    AppleSecureEnclavePlugin.deleteKey host kid
    return none

theorem call_toTraced (host : Host W) (op : EnclaveOp) :
    (op.call host).toTraced = op.answer host := by
  cases op with
  | generateKey algorithm =>
    exact Async.toTraced_bind_eq (EnclaveCall.generateKey_toTraced algorithm) fun _ => rfl
  | deleteKey kid => exact Async.toTraced_bind_eq (EnclaveCall.deleteKey_toTraced kid) fun _ => rfl

end EnclaveOp

/-- The calls of the operations after a schedule of their sections. -/
def interleave [DecidableEq ι] (host : Host W) (ops : ι → EnclaveOp)
    (s : W × AppleSecureEnclavePlugin) (schedule : List ι) :
    Async.Calls ι EnclaveEvent (W × AppleSecureEnclavePlugin) WscdError (Option GeneratedKey) :=
  run (Pool.step Async.step) (Async.start s fun i => (ops i).call host) schedule

/-- A call that nothing interrupts is the sequential operation. -/
theorem interleave_alone [DecidableEq ι] (host : Host W) (ops : ι → EnclaveOp)
    (s : W × AppleSecureEnclavePlugin) (i : ι) :
    ∃ n, (interleave host ops s (List.replicate n i)).shared =
        (((ops i).answer host s).2.1, ((ops i).answer host s).2.2.map (i, ·)) ∧
      ((interleave host ops s (List.replicate n i)).threads i).2 =
        .returned ((ops i).answer host s).1 := by
  have h := Async.run_start_replicate s (fun i => (ops i).call host) i
  rw [EnclaveOp.call_toTraced] at h
  exact h

/-! ## What the host promises -/

/-- The name of the key under the tag. -/
def Belongs (host : Host W) (live : W → String → Option SecureEnclavePublicKey)
    (kid keyTag : String) : Prop :=
  ∃ w publicKey, live w keyTag = some publicKey ∧
    jwkThumbprint host.digest (publicKeyJwk host publicKey.x publicKey.y) = .ok kid

/-- Nothing happens to a tag, or it goes away. -/
def Fades (live : W → String → Option SecureEnclavePublicKey) (w w' : W) (keyTag : String) :
    Prop :=
  live w' keyTag = live w keyTag ∨ live w' keyTag = none

/-- The host answers as it likes, `live` being the keys alive in it: only a generation brings one
to life, under its tag and as it says; a deletion that succeeds, or finds nothing, has deleted;
and the keys of different tags have different thumbprints. -/
structure KeepsTags (host : Host W) (live : W → String → Option SecureEnclavePublicKey) :
    Prop where
  generateKey : ∀ keyTag w t, t ≠ keyTag →
    Fades live w (host.callback.generateKey keyTag w).2 t
  generateKey_ok : ∀ keyTag w w' publicKey,
    host.callback.generateKey keyTag w = (.ok publicKey, w') → live w' keyTag = some publicKey
  deleteKey : ∀ keyTag w t, Fades live w (host.callback.deleteKey keyTag w).2 t
  deleteKey_ok : ∀ keyTag w w', host.callback.deleteKey keyTag w = (.ok (), w') →
    live w' keyTag = none
  deleteKey_notFound : ∀ keyTag w w' k,
    host.callback.deleteKey keyTag w = (.error (.keyNotFound k), w') → live w' keyTag = none
  bytes : ∀ n w t, Fades live w (host.rng.bytes n w).2 t
  onProgress : ∀ p w t, Fades live w (host.progress.onProgress p w) t
  distinct : ∀ kid t t', Belongs host live kid t → Belongs host live kid t' → t = t'

/-- The tag a key may have been created under. -/
def EnclaveEvent.created : EnclaveEvent → Option String
  | .generated keyTag _ => some keyTag
  | .deleted _ _ => none

/-- Every live tag there was is recorded, and every record is one of these, under its kid. -/
structure Accounted (host : Host W) (live : W → String → Option SecureEnclavePublicKey)
    (created : List String) (s : W × AppleSecureEnclavePlugin) : Prop where
  recorded : ∀ t ∈ created, live s.1 t ≠ none →
    ∃ kid stored, s.2.keys.lookup kid = some stored ∧ stored.keyTag = t
  created : ∀ kid stored, s.2.keys.lookup kid = some stored → stored.keyTag ∈ created
  belongs : ∀ kid stored, s.2.keys.lookup kid = some stored → Belongs host live kid stored.keyTag
  named : ∀ kid stored publicKey, s.2.keys.lookup kid = some stored →
    live s.1 stored.keyTag = some publicKey →
    jwkThumbprint host.digest (publicKeyJwk host publicKey.x publicKey.y) = .ok kid

/-- The outside and the plugin, and what the calls have asked. -/
abbrev Shared (ι W : Type) : Type := (W × AppleSecureEnclavePlugin) × List (ι × EnclaveEvent)

/-- The host, what is alive in it, the tags there were and the calls that run. -/
structure Setting (ι W : Type) where
  host : Host W
  live : W → String → Option SecureEnclavePublicKey
  created : List String
  ops : ι → EnclaveOp
  keeps : KeepsTags host live

namespace Setting

/-- The keys of the Secure Enclave and the plugin's records of them. -/
def keeper (x : Setting ι W) : Keeper ι EnclaveEvent W AppleSecureEnclavePlugin String
    SecureEnclavePublicKey String StoredKey where
  live := x.live
  lookup self kid := self.keys.lookup kid
  draws := EnclaveEvent.created
  tries := EnclaveEvent.created
  earlier := x.created
  name := StoredKey.keyTag
  key publicKey :=
    (jwkThumbprint x.host.digest (publicKeyJwk x.host publicKey.x publicKey.y)).toOption
  belongs := Belongs x.host x.live
  unique := x.keeps.distinct
  erases i kid := x.ops i = .deleteKey ⟨kid⟩

variable {x : Setting ι W} {i : ι} {s : Shared ι W} {keyTag : String}

theorem silent_onProgress {p : OperationProgress} : x.keeper.Silent (onProgress x.host p) :=
  ⟨fun _ => rfl, fun _ => rfl, fun _ => rfl, fun s t => x.keeps.onProgress p s.1 t⟩

theorem silent_randomKeyTag : x.keeper.Silent (randomKeyTag x.host) :=
  ⟨fun _ => rfl, fun _ => rfl, fun _ => rfl, fun s t => x.keeps.bytes 16 s.1 t⟩

theorem silent_delete : x.keeper.Silent (delete x.host keyTag) :=
  ⟨fun _ => rfl, fun _ => rfl, fun _ => rfl, fun s t => x.keeps.deleteKey keyTag s.1 t⟩

theorem silent_get {α : Type} (f : W × AppleSecureEnclavePlugin → α) :
    x.keeper.Silent (Traced.get f : EnclaveM W α) :=
  ⟨fun _ => rfl, fun _ => rfl, fun _ => rfl, fun _ _ => .inl rfl⟩

theorem dead_of_confirms {s : W × AppleSecureEnclavePlugin}
    (h : (HardwareKey.enclaveTag keyTag).Confirms (delete x.host keyTag s).1) :
    x.live (delete x.host keyTag s).2.1.1 keyTag = none := by
  have hanswer : (delete x.host keyTag s).1 = (x.host.callback.deleteKey keyTag s.1).1 := rfl
  rcases hr : (x.host.callback.deleteKey keyTag s.1).1 with e | _
  · rw [hanswer, hr] at h
    cases e with
    | keyNotFound k => exact x.keeps.deleteKey_notFound keyTag s.1 _ k (Prod.ext hr rfl)
    | _ => exact h.elim
  · exact x.keeps.deleteKey_ok keyTag s.1 _ (Prod.ext hr rfl)

variable [DecidableEq ι]

variable (x) in
abbrev custody : Custody ι (Shared ι W) String SecureEnclavePublicKey String StoredKey :=
  x.keeper.custody

variable (x) in
/-- Whatever the other calls do, the call keeps the guarantee and returns what satisfies `Q`. -/
abbrev Meets {α : Type} (i : ι) (t : EnclaveCall W α)
    (Q : Except WscdError α → Shared ι W → Prop) (s : Shared ι W) : Prop :=
  x.keeper.Meets i t Q s

/-- The new key is in hand, with its public key, if the host has made it. -/
theorem meets_generate (hsound : x.custody.Sound s) (hs : x.custody.Settled i s) :
    x.Meets i (.atomic (generate x.host keyTag)) (fun r s => x.custody.Sound s ∧
      ∀ publicKey, r = .ok publicKey → x.custody.Holds i keyTag s ∧
        keyTag ∈ x.custody.tried s ∧ x.custody.Shows i keyTag publicKey s ∧
          ∀ kid, jwkThumbprint x.host.digest (publicKeyJwk x.host publicKey.x publicKey.y) =
            .ok kid → Belongs x.host x.live kid keyTag) s := by
  refine Custody.meets_atomic Keeper.distinct_of_fresh Custody.kept_settled (fun r => ?_) ?_
    hsound hs
  · intro s s' hleaves h publicKey hr
    obtain ⟨hs, htried, hshows, hbelongs⟩ := h publicKey hr
    exact ⟨Custody.kept_holds s s' hleaves hs, Custody.kept_tried s s' hleaves htried,
      Custody.kept_shows s s' hleaves hshows, hbelongs⟩
  intro s hsound hs hfresh
  let s' := Async.enter i (fun s => (generate x.host keyTag s).2) s
  have hdrawn : ∀ j, x.custody.drawn s' j =
      x.custody.drawn s j ++ if j = i then [keyTag] else [] := fun j => Keeper.drawn_enter j
  have htried : x.custody.tried s' = x.custody.tried s ++ [keyTag] := Keeper.tried_enter
  have hopens : x.custody.Opens i keyTag s s' :=
    { drawn_of_ne := fun j hne => by simp [hdrawn, hne]
      drawn_subset := by simp [hdrawn]
      drawn_new := by simp [hdrawn]
      drawn := by simp [hdrawn]
      tried_subset := by simp [htried]
      tried_new := by simp [htried]
      register := rfl
      fades := fun t hne => x.keeps.generateKey keyTag s.1.1 t hne }
  obtain ⟨hunknown, hunregistered⟩ := Keeper.Fresh.unknown (x := x.keeper) hfresh rfl hsound
  refine ⟨hopens.guarantee hunknown fun hout => absurd hopens.drawn hout, ?_⟩
  intro publicKey hok
  have halive : x.live s'.1.1 keyTag = some publicKey :=
    x.keeps.generateKey_ok keyTag s.1.1 _ publicKey (Prod.ext hok rfl)
  have hin : keyTag ∈ x.custody.tried s' := by simp [htried]
  refine ⟨hopens.holds hunregistered fun m hm _ => hs m hm, hin,
    ⟨hopens.drawn, fun v hv => Option.some.inj (hv.symm.trans halive)⟩,
    fun kid hkid => ⟨_, publicKey, halive, hkid⟩⟩

theorem meets_insert {kid : String} {stored : StoredKey} {publicKey : SecureEnclavePublicKey}
    (hkid : jwkThumbprint x.host.digest (publicKeyJwk x.host publicKey.x publicKey.y) = .ok kid)
    (hbelongs : Belongs x.host x.live kid stored.keyTag) (hsound : x.custody.Sound s)
    (hs : x.custody.Holds i stored.keyTag s) (htried : stored.keyTag ∈ x.custody.tried s)
    (hshows : x.custody.Shows i stored.keyTag publicKey s) :
    x.Meets i (.atomic (Traced.modify fun s => (s.1, ⟨s.2.keys.insert kid stored⟩)))
      (fun r s => x.custody.Sound s ∧ x.custody.Settled i s ∧ x.custody.Filed kid stored s ∧
        r = .ok ()) s := by
  have hkey : x.keeper.key publicKey = some kid := by
    show (jwkThumbprint x.host.digest
      (publicKeyJwk x.host publicKey.x publicKey.y)).toOption = some kid
    rw [hkid]
    rfl
  exact Keeper.meets_insert (f := fun self => ⟨self.keys.insert kid stored⟩)
    (fun self k => HashMap.lookup_insert_eq_ite self.keys kid k stored) hkey hbelongs hsound hs
    htried hshows

variable (x i) in
/-- What a call has answered. -/
def Answers : Except WscdError (Option GeneratedKey) → Shared ι W → Prop
  | .ok (some generated), s => x.custody.Settled i s ∧
    ∃ stored, publicKeyJwk x.host stored.pubX stored.pubY = generated.publicKeyJwk ∧
      x.custody.Filed generated.kid.asStr stored s
  | .ok none, s => x.custody.Settled i s ∧ ∀ kid, x.ops i = .deleteKey kid →
    ∃ t, Belongs x.host x.live kid.asStr t ∧ x.custody.Gone t s
  | .error _, _ => True

theorem kept_answers (r : Except WscdError (Option GeneratedKey)) :
    x.custody.Kept i (x.Answers i r) := by
  rcases r with e | _ | generated
  · exact .const _
  · refine .and Custody.kept_settled fun s s' hs h kid hkid => ?_
    exact (Custody.Kept.exists fun _ => .and (.const _) Custody.kept_gone) s s' hs (h kid hkid)
  · exact .and Custody.kept_settled (.exists fun _ => .and (.const _) Custody.kept_filed)

variable (x i) in
/-- The call has made a key, which is recorded. -/
def Makes (r : Except WscdError GeneratedKey) (s : Shared ι W) : Prop :=
  ∀ generated, r = .ok generated → x.custody.Settled i s ∧
    ∃ stored, publicKeyJwk x.host stored.pubX stored.pubY = generated.publicKeyJwk ∧
      x.custody.Filed generated.kid.asStr stored s

theorem kept_makes (r : Except WscdError GeneratedKey) : x.custody.Kept i (x.Makes i r) :=
  fun s s' hs h generated hr => (Custody.kept_settled.and
    (.exists fun _ => .and (.const _) Custody.kept_filed)) s s' hs (h generated hr)

theorem meets_generateKey {algorithm : Algorithm} (hsound : x.custody.Sound s)
    (hs : x.custody.Settled i s) :
    x.Meets i (EnclaveCall.generateKey x.host algorithm)
      (fun r s => x.custody.Sound s ∧ x.Makes i r s) s := by
  unfold EnclaveCall.generateKey
  split
  · exact Keeper.meets_returned (kept_makes _) hsound nofun
  refine Async.Meets.bind (Keeper.meets_passing silent_onProgress (fun _ => ⟨_, rfl⟩)
    Custody.kept_settled hsound hs) ?_ ?_
  swap
  · rintro e s ⟨-, -, _, ⟨⟩⟩
  rintro _ s ⟨hsound, hs, -⟩
  refine Async.Meets.bind (Keeper.meets_passing silent_randomKeyTag (fun _ => ⟨_, rfl⟩)
    Custody.kept_settled hsound hs) ?_ ?_
  swap
  · rintro e s ⟨-, -, _, ⟨⟩⟩
  rintro keyTag s ⟨hsound, hs, -⟩
  refine Async.Meets.bind (meets_generate hsound hs) ?_ ?_
  swap
  · exact fun e s h => ⟨h.1, nofun⟩
  rintro publicKey s ⟨hsound, hmade⟩
  obtain ⟨hs, htried, hshows, hbelongs⟩ := hmade publicKey rfl
  refine Async.Meets.liftBind (fun kid hkid => ?_) fun e _ =>
    Keeper.meets_returned (kept_makes _) hsound nofun
  refine Async.Meets.bind (Keeper.meets_passing (silent_get _) (fun _ => ⟨_, rfl⟩)
    (Custody.kept_holds.and (Custody.kept_tried.and Custody.kept_shows)) hsound
    ⟨hs, htried, hshows⟩) ?_ ?_
  swap
  · rintro e s ⟨-, -, _, ⟨⟩⟩
  rintro createdAt s ⟨hsound, ⟨hs, htried, hshows⟩, -⟩
  refine Async.Meets.bind (meets_insert hkid (hbelongs kid hkid) hsound hs htried hshows) ?_ ?_
  swap
  · rintro e s ⟨-, -, -, ⟨⟩⟩
  rintro _ s ⟨hsound, hs, hfiled, -⟩
  refine Async.Meets.bind (Keeper.meets_passing silent_onProgress (fun _ => ⟨_, rfl⟩)
    (Custody.kept_settled.and Custody.kept_filed) hsound ⟨hs, hfiled⟩) ?_ ?_
  swap
  · rintro e s ⟨-, -, _, ⟨⟩⟩
  rintro _ s ⟨hsound, ⟨hs, hfiled⟩, -⟩
  refine Keeper.meets_returned (kept_makes _) hsound ?_
  rintro _ ⟨⟩
  exact ⟨hs, _, rfl, hfiled⟩

variable (x i) in
/-- The call has deleted the key, which is dead. -/
def Deletes (kid : KeyId) (r : Except WscdError Unit) (s : Shared ι W) : Prop :=
  r = .ok () → x.custody.Settled i s ∧
    ∃ t, Belongs x.host x.live kid.asStr t ∧ x.custody.Gone t s

theorem kept_deletes {kid : KeyId} (r : Except WscdError Unit) :
    x.custody.Kept i (x.Deletes i kid r) :=
  .imp (Custody.kept_settled.and (.exists fun _ => .and (.const _) Custody.kept_gone))

theorem meets_deleteKey {kid : KeyId} (hdeletes : x.ops i = .deleteKey kid)
    (hsound : x.custody.Sound s) (hs : x.custody.Settled i s) :
    x.Meets i (EnclaveCall.deleteKey x.host kid)
      (fun r s => x.custody.Sound s ∧ x.Deletes i kid r s) s := by
  -- what a record says of its tag stays true when the record is gone
  refine Async.Meets.bind (Keeper.meets_silent (silent_get _) Custody.kept_settled
    (Q := fun r s => ∃ found, r = .ok found ∧ ∀ stored, found = some stored →
      Belongs x.host x.live kid.asStr stored.keyTag ∧ x.custody.Known s stored.keyTag) ?_ ?_ hsound
    hs) ?_ ?_
  · refine fun r => .exists fun found => .and (.const _) ?_
    intro s s' hleaves h stored hfound
    exact ⟨(h stored hfound).1, hleaves.known (h stored hfound).2⟩
  · intro s hsound _
    refine ⟨_, rfl, fun stored hfound => ?_⟩
    obtain ⟨hbelongs, hknown⟩ := hsound.owned kid.asStr stored hfound
    exact ⟨hbelongs, ((silent_get _).quiet s).leaves i |>.known hknown⟩
  swap
  · rintro e s ⟨-, -, _, ⟨⟩, -⟩
  rintro found s ⟨hsound, hs, _, ⟨⟩, hrecord⟩
  cases found with
  | none => exact Keeper.meets_returned (kept_deletes _) hsound nofun
  | some stored =>
    obtain ⟨hbelongs, hknown⟩ := hrecord stored rfl
    refine Async.Meets.attemptBind (Keeper.meets_gone silent_delete (fun _ => dead_of_confirms)
      (Custody.kept_settled.and Custody.kept_known) (fun s h => h.2) hsound ⟨hs, hknown⟩) ?_
    rintro answer s ⟨hsound, ⟨hs, -⟩, hgone⟩
    -- the record goes if the key has
    have herases : x.custody.Gone stored.keyTag s →
        x.Meets i (.atomic (Traced.modify fun s => (s.1, ⟨s.2.keys.erase kid.asStr⟩)))
          (fun r s => x.custody.Sound s ∧ x.Deletes i kid r s) s := fun hgone =>
      (Keeper.meets_erase (f := fun self => ⟨self.keys.erase kid.asStr⟩)
        (fun self k => HashMap.lookup_erase_eq_ite self.keys kid.asStr k) hbelongs hdeletes hsound
        hs hgone).imp fun _ _ h => ⟨h.1, fun _ => ⟨h.2.1, _, hbelongs, h.2.2⟩⟩
    cases answer with
    | ok _ => exact herases (hgone trivial)
    | error e =>
      cases e with
      | keyNotFound _ => exact herases (hgone trivial)
      | _ => exact Keeper.meets_returned (kept_deletes _) hsound nofun

theorem meets_call (hsound : x.custody.Sound s) (hs : x.custody.Settled i s) :
    x.Meets i ((x.ops i).call x.host) (fun r s => x.custody.Sound s ∧ x.Answers i r s) s := by
  cases hop : x.ops i with
  | generateKey algorithm =>
    refine Async.Meets.bind (meets_generateKey hsound hs) ?_ fun e s h => ⟨h.1, trivial⟩
    rintro generated s ⟨hsound, hmakes⟩
    exact Keeper.meets_returned (kept_answers _) hsound (hmakes generated rfl)
  | deleteKey kid =>
    refine Async.Meets.bind (meets_deleteKey hop hsound hs) ?_ fun e s h => ⟨h.1, trivial⟩
    rintro _ s ⟨hsound, hdeletes⟩
    obtain ⟨hs, hgone⟩ := hdeletes rfl
    refine Keeper.meets_returned (kept_answers _) hsound ⟨hs, fun kid' hkid' => ?_⟩
    cases hop.symm.trans hkid'
    exact hgone

/-- After any interleaving the records are sound, and the calls have kept their word. -/
theorem interleave_answers {w : W} {self : AppleSecureEnclavePlugin}
    (haccounted : Accounted x.host x.live x.created (w, self)) (schedule : List ι)
    (hfresh : x.keeper.Fresh (interleave x.host x.ops (w, self) schedule).shared.2) :
    x.custody.Sound (interleave x.host x.ops (w, self) schedule).shared ∧
      ∀ i r, ((interleave x.host x.ops (w, self) schedule).threads i).2.result = some r →
        x.Answers i r (interleave x.host x.ops (w, self) schedule).shared := by
  have hstart : x.custody.Sound ((w, self), []) := by
    refine ⟨fun kid stored hstored => ⟨haccounted.belongs kid stored hstored,
      .inr (haccounted.created kid stored hstored)⟩, fun kid stored publicKey hstored halive => ?_,
      by rintro t ⟨⟩, haccounted.recorded⟩
    show (jwkThumbprint x.host.digest
      (publicKeyJwk x.host publicKey.x publicKey.y)).toOption = some kid
    rw [haccounted.named kid stored publicKey hstored halive]
    rfl
  have hmeet : Async.AllMeet x.keeper.Fresh x.custody.Guarantee
      (fun i r s => x.custody.Sound s ∧ x.Answers i r s)
      (Async.start (w, self) fun i => (x.ops i).call x.host) := fun i =>
    ⟨rfl, meets_call hstart (by rintro t ⟨⟩)⟩
  obtain ⟨hall, hreached⟩ := hmeet.run (fun _ _ => Keeper.Fresh.prefix) schedule hfresh
  exact ⟨hstart.reached hreached, fun i r hr => (hall.result hr).2⟩

end Setting

/-- However any number of calls interleave, whatever the Secure Enclave answers: a live key that
some call has created is recorded, or that call has not returned a key; a key that was returned
is recorded unless some call is to delete it; and of a key whose deletion has returned nothing
is alive. -/
theorem concurrent_enclave_calls_keep_custody [DecidableEq ι] (host : Host W)
    (live : W → String → Option SecureEnclavePublicKey) (hhost : KeepsTags host live)
    (created : List String) (w : W) (self : AppleSecureEnclavePlugin)
    (haccounted : Accounted host live created (w, self)) (ops : ι → EnclaveOp)
    (schedule : List ι) :
    let p := interleave host ops (w, self) schedule
    (created ++ p.shared.2.filterMap fun e => e.2.created).Nodup →
      (∀ keyTag, keyTag ∈ created ∨ (∃ i answer, (i, .generated keyTag answer) ∈ p.shared.2) →
        live p.shared.1.1 keyTag ≠ none →
        (∃ kid stored, p.shared.1.2.keys.lookup kid = some stored ∧ stored.keyTag = keyTag) ∨
          ∃ i answer, (i, .generated keyTag answer) ∈ p.shared.2 ∧
            ∀ r, (p.threads i).2.result = some r → ∃ e, r = .error e) ∧
      (∀ i generated, (p.threads i).2.result = some (.ok (some generated)) →
        (∀ j, ops j ≠ .deleteKey generated.kid) →
        ∃ stored, p.shared.1.2.keys.lookup generated.kid.asStr = some stored ∧
          publicKeyJwk host stored.pubX stored.pubY = generated.publicKeyJwk) ∧
      ∀ i kid, ops i = .deleteKey kid → (p.threads i).2.result = some (.ok none) →
        ∀ keyTag publicKey, live p.shared.1.1 keyTag = some publicKey →
          jwkThumbprint host.digest (publicKeyJwk host publicKey.x publicKey.y) ≠
            .ok kid.asStr := by
  intro p hfresh
  let x : Setting ι W := ⟨host, live, created, ops, hhost⟩
  obtain ⟨hsound, hanswers⟩ := Setting.interleave_answers (x := x) haccounted schedule hfresh
  refine ⟨fun keyTag hmade halive => ?_, fun i generated hresult hnone => ?_,
    fun i kid hop hresult keyTag publicKey halive hkid => ?_⟩
  · rcases hmade with hcreated | ⟨i, answer, he⟩
    · exact .inl (hsound.earlier keyTag hcreated halive)
    · by_cases hfails : ∀ r, (p.threads i).2.result = some r → ∃ e, r = .error e
      · exact .inr ⟨i, answer, he, hfails⟩
      · push Not at hfails
        obtain ⟨r, hr, hok⟩ := hfails
        have hs : x.custody.Settled i p.shared := by
          have h := hanswers i r hr
          rcases r with e | _ | generated
          · exact absurd rfl (hok e)
          · exact h.1
          · exact h.1
        exact .inl (hs keyTag (Keeper.mem_drawn.mpr ⟨_, he, rfl⟩) halive)
  · obtain ⟨-, stored, hjwk, -, hstored | ⟨-, j, herases⟩⟩ := hanswers i _ hresult
    · exact ⟨stored, hstored, hjwk⟩
    · exact absurd herases (hnone j)
  · obtain ⟨-, hgone⟩ := hanswers i _ hresult
    obtain ⟨t, hbelongs, -, hdead⟩ := hgone kid hop
    obtain rfl := hhost.distinct kid.asStr keyTag t ⟨_, publicKey, halive, hkid⟩ hbelongs
    exact absurd (hdead.symm.trans halive) nofun

/-! ## A generation while another key is deleted -/

namespace EnclaveDemo

open SoftkeyHost

/-- The tags that are alive, and the octet to draw next. -/
abbrev World : Type := List String × UInt8

def nthTag (octet : UInt8) : String := "apple-se-tag-" ++ hex (List.replicate 16 octet)

/-- The keys of the P-256 secrets `1` and `2`. -/
def firstKey : SecureEnclavePublicKey := ⟨basePoint.1, basePoint.2⟩

def secondKey : SecureEnclavePublicKey := ⟨doublePoint.1, doublePoint.2⟩

/-- The device makes two keys. -/
def keyUnder (keyTag : String) : Option SecureEnclavePublicKey :=
  if keyTag = nthTag 0 then some firstKey
  else if keyTag = nthTag 1 then some secondKey
  else none

def live (w : World) (keyTag : String) : Option SecureEnclavePublicKey :=
  if keyTag ∈ w.1 then keyUnder keyTag else none

def host : Host World where
  callback :=
    { generateKey := fun keyTag w =>
        match keyUnder keyTag with
        | some publicKey => (.ok publicKey, keyTag :: w.1, w.2)
        | none => (.error (.plugin "no key left"), w)
      deleteKey := fun keyTag w =>
        if keyTag ∈ w.1 then (.ok (), w.1.filter (· ≠ keyTag), w.2)
        else (.error (.keyNotFound keyTag), w) }
  progress := ⟨fun _ w => w⟩
  rng := .repeating (fun w => w.2) fun w => (w.1, w.2 + 1)
  digest := ⟨Lib.sha256, base64url⟩
  nowUnix _ := 0

def thumbprint (publicKey : SecureEnclavePublicKey) : Except WscdError String :=
  jwkThumbprint host.digest (publicKeyJwk host publicKey.x publicKey.y)

theorem thumbprint_firstKey : thumbprint firstKey = .ok kidOne.asStr := thumbprint_basePoint

theorem thumbprint_secondKey : thumbprint secondKey = .ok kidTwo.asStr := thumbprint_doublePoint

theorem live_cases {w : World} {keyTag : String} {publicKey : SecureEnclavePublicKey}
    (h : live w keyTag = some publicKey) :
    (keyTag = nthTag 0 ∧ publicKey = firstKey) ∨ (keyTag = nthTag 1 ∧ publicKey = secondKey) := by
  unfold live keyUnder at h
  split_ifs at h with _ hfirst hsecond
  · exact .inl ⟨hfirst, (Option.some.inj h).symm⟩
  · exact .inr ⟨hsecond, (Option.some.inj h).symm⟩

theorem distinct (k t t' : String) (h : Belongs host live k t) (h' : Belongs host live k t') :
    t = t' := by
  have hkids : (.ok kidOne.asStr : Except WscdError String) ≠ .ok kidTwo.asStr := by decide
  obtain ⟨w, publicKey, halive, hk⟩ := h
  obtain ⟨w', publicKey', halive', hk'⟩ := h'
  rcases live_cases halive with ⟨rfl, rfl⟩ | ⟨rfl, rfl⟩ <;>
    rcases live_cases halive' with ⟨rfl, rfl⟩ | ⟨rfl, rfl⟩
  · rfl
  · exact absurd (thumbprint_firstKey.symm.trans (hk.trans
      (hk'.symm.trans thumbprint_secondKey))) hkids
  · exact absurd (thumbprint_firstKey.symm.trans (hk'.trans
      (hk.symm.trans thumbprint_secondKey))) hkids
  · rfl

theorem keepsTags : KeepsTags host live where
  generateKey keyTag w t hne := by
    left
    cases hkey : keyUnder keyTag <;> simp [live, host, hkey, hne]
  generateKey_ok keyTag w w' publicKey h := by
    cases hkey : keyUnder keyTag with
    | none => simp [host, hkey] at h
    | some publicKey' =>
      simp only [host, hkey, Prod.mk.injEq, Except.ok.injEq] at h
      obtain ⟨rfl, rfl⟩ := h
      simp [live, hkey]
  deleteKey keyTag w t := by
    by_cases hmem : keyTag ∈ w.1
    · by_cases hne : t = keyTag
      · exact .inr (by simp [live, host, hmem, hne])
      · exact .inl (by simp [live, host, hmem, hne])
    · exact .inl (by simp [live, host, hmem])
  deleteKey_ok keyTag w w' h := by
    by_cases hmem : keyTag ∈ w.1
    · simp only [host, hmem, if_true, Prod.mk.injEq, true_and] at h
      simp [← h, live]
    · simp [host, hmem] at h
  deleteKey_notFound keyTag w w' k h := by
    by_cases hmem : keyTag ∈ w.1
    · simp [host, hmem] at h
    · simp only [host, hmem, if_false, Prod.mk.injEq] at h
      simp [← h.2, live, hmem]
  bytes _ _ _ := .inl rfl
  onProgress _ _ _ := .inl rfl
  distinct := distinct

def stored : StoredKey := ⟨nthTag 0, basePoint.1, basePoint.2, 0⟩

/-- The first key is there. -/
def plugin : AppleSecureEnclavePlugin := ⟨Finmap.singleton kidOne.asStr stored⟩

theorem lookup_plugin {k : String} {s : StoredKey} (h : plugin.keys.lookup k = some s) :
    k = kidOne.asStr ∧ s = stored := by
  have hk : k = kidOne.asStr := by
    by_contra hne
    rw [plugin, Finmap.lookup_eq_none.mpr (by simpa [Finmap.mem_singleton] using hne)] at h
    cases h
  subst hk
  rw [plugin, Finmap.lookup_singleton_eq] at h
  exact ⟨rfl, (Option.some.inj h).symm⟩

theorem keyUnder_first : keyUnder (nthTag 0) = some firstKey := if_pos rfl

theorem accounted : Accounted host live [nthTag 0] (([nthTag 0], 1), plugin) where
  recorded t ht _ :=
    ⟨kidOne.asStr, stored, Finmap.lookup_singleton_eq, (List.mem_singleton.mp ht).symm⟩
  created k s h := by
    obtain ⟨-, rfl⟩ := lookup_plugin h
    exact List.mem_singleton.mpr rfl
  belongs k s h := by
    obtain ⟨rfl, rfl⟩ := lookup_plugin h
    exact ⟨([nthTag 0], 1), firstKey, by simp [live, stored, keyUnder_first], thumbprint_firstKey⟩
  named k s publicKey h halive := by
    obtain ⟨rfl, rfl⟩ := lookup_plugin h
    rw [show live ([nthTag 0], 1) stored.keyTag = some firstKey by
      simp [live, stored, keyUnder_first]] at halive
    cases halive
    exact thumbprint_firstKey

inductive Caller where
  | deletes
  | generates
deriving DecidableEq

def ops : Caller → EnclaveOp
  | .deletes => .deleteKey kidOne
  | .generates => .generateKey .es256

/-- The new key is made after the old one is looked up and recorded after it is gone. -/
def schedule : List Caller :=
  [.generates, .deletes, .generates, .generates, .deletes, .deletes, .generates, .generates,
    .generates, .generates]

def calls : Async.Calls Caller EnclaveEvent (World × AppleSecureEnclavePlugin) WscdError
    (Option GeneratedKey) :=
  interleave host ops (([nthTag 0], 1), plugin) schedule

def returnedKid (i : Caller) : Option String :=
  match (calls.threads i).2.result with
  | some (.ok (some generated)) => some generated.kid.asStr
  | _ => none

theorem result_of_returnedKid {i : Caller} {k : String} (h : returnedKid i = some k) :
    ∃ generated, (calls.threads i).2.result = some (.ok (some generated)) ∧
      generated.kid.asStr = k := by
  unfold returnedKid at h
  split at h
  · rename_i generated hresult
    exact ⟨generated, hresult, Option.some.inj h⟩
  · cases h

/-- A call has deleted what it was to. -/
def deleted (i : Caller) : Bool :=
  match (calls.threads i).2.result with
  | some (.ok none) => true
  | _ => false

theorem result_of_deleted {i : Caller} (h : deleted i = true) :
    (calls.threads i).2.result = some (.ok none) := by
  unfold deleted at h
  split at h
  · assumption
  · cases h

theorem calls_fresh :
    ([nthTag 0] ++ calls.shared.2.filterMap fun e => e.2.created).Nodup := by
  decide +kernel

end EnclaveDemo

open EnclaveDemo SoftkeyHost in
theorem concurrent_enclave_calls_keep_custody_deletion :
    (∃ stored, calls.shared.1.2.keys.lookup kidTwo.asStr = some stored) ∧
      live calls.shared.1.1 (nthTag 0) ≠ some firstKey := by
  obtain ⟨-, hreturned, hdeleted⟩ := concurrent_enclave_calls_keep_custody host live keepsTags
    [nthTag 0] ([nthTag 0], 1) plugin accounted ops schedule calls_fresh
  constructor
  · obtain ⟨generated, hresult, hkid⟩ :=
      result_of_returnedKid (i := .generates) (k := kidTwo.asStr) (by decide +kernel)
    have hnone : ∀ j, ops j ≠ .deleteKey generated.kid := by
      intro j hj
      cases j with
      | deletes =>
        have hsame : kidOne.asStr = generated.kid.asStr :=
          congrArg KeyId.asStr (EnclaveOp.deleteKey.inj hj)
        exact absurd (hsame.trans hkid) (by decide)
      | generates => cases hj
    obtain ⟨stored, hstored, -⟩ := hreturned .generates generated hresult hnone
    rw [hkid] at hstored
    unfold calls
    exact ⟨stored, hstored⟩
  · intro halive
    have hresult := result_of_deleted (i := .deletes) (by decide +kernel)
    unfold calls at halive hresult
    exact hdeleted .deletes kidOne rfl hresult (nthTag 0) firstKey halive thumbprint_firstKey

end Wscd.AppleSecureEnclavePlugin
