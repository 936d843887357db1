import Wscd.CryptoLaws
import Wscd.Plugins.Fido2Sign
import Wscd.Plugins.R2ps

/-!
# The factors of a signature are those that were applied

What a plugin may report for a signature: possession, and a second factor only if a PIN given
in this call authenticated it, or the user verification was observed and no PIN was asked for.
The first is a fact about the log of the call, so the recorder around the callback is related
to it first.

Results:
1. `records_signInner`, `records_signOpaque`: the recorder sees every PIN of a signature.
2. `run_spec`, `agreedVerifiedFactor_iff`: what the ceremony adapter knows, from the
   assertions in the log.
3. `factors_are_sound`: the factors both plugins report are those applied to that signature.
-/

namespace Wscd

open Lib

/-- Possession first, then at most one more factor, which verifies the user and was applied. -/
def SoundFactors (possession : String) (Applied : AuthFactor → Prop) (factors : List AuthFactor) :
    Prop :=
  ∃ second : Option AuthFactor, factors = ⟨.possession, possession⟩ :: second.toList ∧
    ∀ f, second = some f → Verifies f ∧ Applied f

variable {W : Type}

/-! ## The fido2 plugin -/

section Fido2

open ClientPin PreviewSign Fido2SignPlugin

/-- A second factor of a fido2 signature, by the log of the call. -/
inductive Fido2SignPlugin.Applied (crypto : Fido2SignCrypto) (host : Fido2Host W)
    (options : SignOptions) (signature : Signature) (w' : W) (l : List HostEvent) :
    AuthFactor → Prop where
  /-- One PIN was given; its normal form bought the token that authenticated the assertion. -/
  | pin {key : Fido2.StoredFidoKey} {tbs challenge response : List UInt8} {r : SignResult}
      {session : PinUvAuthSession} {raw : Secret} {exchange : List HostEvent} {method : String} :
      givenPins l = [("fido2", raw)] →
      PinTokenFor crypto.toCtapCrypto "fido2" permissionGetAssertion (some rawSignRpId) session raw
        exchange →
      l = .drewBytes challenge :: (exchange ++ [.sentCommand
        (buildGetAssertionRequest crypto.cbor rawSignRpId challenge key.credentialId
          (signInput crypto key tbs)
          (some (session.authenticate crypto.kdf challenge, session.protocol.asInt)))
        (.ok response)]) →
      parseGetAssertionResponse crypto.cbor response = .ok r → r.userVerified = true →
      decodeSignature crypto (keyAlgorithm key) r.signature = .ok signature.bytes →
      classifySecret (normalizePin crypto.nfc raw) = some method →
      Applied crypto host options signature w' l ⟨.knowledge, method⟩
  /-- No PIN was asked for, and the assertion says the transport verified the user. -/
  | observed {key : Fido2.StoredFidoKey} {tbs : List UInt8} {r : SignResult} {f : AuthFactor} :
      (∀ e ∈ l, e.isPinRequest = false) → host.transport.performsUserVerification w' = true →
      Asserted crypto key tbs none r l → r.userVerified = true →
      decodeSignature crypto (keyAlgorithm key) r.signature = .ok signature.bytes →
      r.verifiedFactor.or options.hostVerifiedFactor = some f →
      Applied crypto host options signature w' l f

section Recording

variable (crypto : CtapCrypto) (transport : Ctap2Transport W) (rng : Rng W) (auth : AuthCallback W)

/-- A computation beside a recorder of PIN classes. -/
abbrev RecordingM (W α : Type) : Type := HostM (W × List (Option String)) α

theorem records_readPinInfo :
    Records crypto.nfc (readPinInfo crypto transport.beside : RecordingM W _) :=
  (records_sendCommand _ transport _).bind fun _ =>
    (Traced.follows_lift _).bind fun _ => Traced.follows_lift _

theorem records_getKeyAgreement (protocol : PinUvAuthProtocol) :
    Records crypto.nfc (getKeyAgreement crypto transport.beside protocol : RecordingM W _) :=
  (records_sendCommand _ transport _).bind fun _ => Traced.follows_lift _

theorem records_freshIv (protocol : PinUvAuthProtocol) :
    Records crypto.nfc (freshIv rng.beside protocol : RecordingM W _) := by
  cases protocol with
  | one => exact Traced.follows_pure _
  | two => exact records_randomBytes _ rng 16

theorem records_setPin (protocol : PinUvAuthProtocol) (pin : List UInt8) :
    Records crypto.nfc (setPin crypto transport.beside rng.beside protocol pin : RecordingM W _) :=
  (records_generateSecret _ rng).bind fun _ =>
    (records_getKeyAgreement crypto transport protocol).bind fun _ =>
      (Traced.follows_lift _).bind fun _ =>
        (records_randomBytes _ rng 16).bind fun _ =>
          (records_sendCommand _ transport _).bind fun _ =>
            (Traced.follows_lift _).bind fun _ => Traced.follows_pure _

theorem records_tokenWithPin (protocol : PinUvAuthProtocol) (pin : List UInt8)
    (permissions : UInt8) (rpId : Option String) :
    Records crypto.nfc
      (tokenWithPin crypto transport.beside rng.beside protocol pin permissions rpId :
        RecordingM W _) :=
  (records_generateSecret _ rng).bind fun _ =>
    (records_getKeyAgreement crypto transport protocol).bind fun _ =>
      (Traced.follows_lift _).bind fun _ =>
        (records_freshIv crypto rng protocol).bind fun _ =>
          (records_sendCommand _ transport _).bind fun _ =>
            (Traced.follows_lift _).bind fun _ =>
              (Traced.follows_lift _).bind fun _ => Traced.follows_pure _

theorem records_acquirePinUvAuthToken (pluginId : String) (permissions : UInt8)
    (rpId : Option String) :
    Records crypto.nfc
      (acquirePinUvAuthToken crypto transport.beside rng.beside (recordingAuth crypto.nfc auth)
        pluginId permissions rpId) := by
  refine (records_readPinInfo crypto transport).bind fun info => ?_
  have hentered : Records crypto.nfc (tokenWithEnteredPin crypto transport.beside rng.beside
      (recordingAuth crypto.nfc auth) pluginId info permissions rpId) := by
    refine (records_requestPinFor _ auth _ _).bind fun raw => ?_
    split
    · exact Traced.follows_lift _
    · exact records_tokenWithPin crypto transport rng _ _ _ _
  cases info.pinState with
  | notSet =>
    exact (records_requestPinFor _ auth _ _).bind fun _ => (Traced.follows_lift _).bind fun _ =>
      (records_setPin crypto transport rng _ _).bind fun _ =>
        records_tokenWithPin crypto transport rng _ _ _ _
  | set =>
    exact hentered
  | unsupported =>
    exact hentered

theorem records_getAssertion (rpId : String) (challenge credentialId : List UInt8)
    (sign : SignInput) :
    Records crypto.nfc
      (PreviewSign.getAssertion crypto transport.beside rng.beside (recordingAuth crypto.nfc auth)
        rpId challenge credentialId sign) := by
  have hauth : Records crypto.nfc (ceremonyPinUvAuth crypto transport.beside rng.beside
      (recordingAuth crypto.nfc auth) permissionGetAssertion rpId challenge) := by
    refine (Traced.follows_get _).bind fun verifies => ?_
    split
    · exact Traced.follows_pure _
    · exact (records_acquirePinUvAuthToken crypto transport rng auth _ _ _).bind fun _ =>
        Traced.follows_pure _
  exact hauth.bind fun _ => (records_sendCommand _ transport _).bind fun _ => Traced.follows_lift _

end Recording

theorem records_signInner (crypto : Fido2SignCrypto) (host : Fido2Host W) (auth : AuthCallback W)
    (kid : KeyId) (data : List UInt8) :
    Records crypto.nfc (signInner crypto host.beside (recordingAuth crypto.nfc auth) kid data) :=
  (records_onProgress _ host.progress _).bind fun _ =>
    (Traced.follows_get _).bind fun _ =>
      (Traced.follows_lift _).bind fun _ =>
        (records_onProgress _ host.progress _).bind fun _ =>
          (records_randomBytes _ host.rng 32).bind fun _ =>
            (Traced.follows_lift _).bind fun _ =>
              (records_getAssertion crypto.toCtapCrypto host.transport host.rng auth _ _ _ _).bind
                fun _ => (records_onProgress _ host.progress _).bind fun _ =>
                  (Traced.follows_lift _).bind fun _ => Traced.follows_pure _

/-- What a log with an assertion says about PINs: none was asked for, or one was given. -/
theorem Fido2SignPlugin.Asserted.pins {crypto : Fido2SignCrypto} {key : Fido2.StoredFidoKey}
    {tbs : List UInt8} {pinUvAuth : Option (List UInt8 × Int)} {r : SignResult}
    {l : List HostEvent} (h : Asserted crypto key tbs pinUvAuth r l) :
    (pinUvAuth = none ∧ givenPins l = [] ∧ ∀ e ∈ l, e.isPinRequest = false) ∨
    ∃ session raw challenge exchange response,
      givenPins l = [("fido2", raw)] ∧
      PinTokenFor crypto.toCtapCrypto "fido2" permissionGetAssertion (some rawSignRpId) session raw
        exchange ∧
      l = .drewBytes challenge :: (exchange ++ [.sentCommand
        (buildGetAssertionRequest crypto.cbor rawSignRpId challenge key.credentialId
          (signInput crypto key tbs)
          (some (session.authenticate crypto.kdf challenge, session.protocol.asInt)))
        (.ok response)]) ∧
      parseGetAssertionResponse crypto.cbor response = .ok r := by
  obtain ⟨challenge, exchange, response, rfl, hverified, hparse⟩ := h
  cases hverified with
  | byTransport =>
    refine .inl ⟨rfl, rfl, ?_⟩
    intro e he
    rcases List.mem_cons.mp he with rfl | he
    · rfl
    · obtain rfl := List.mem_singleton.mp he
      rfl
  | @byPin session raw exchange htoken =>
    refine .inr ⟨session, raw, challenge, exchange, response, ?_, htoken, rfl, hparse⟩
    have hpins := htoken.givenPins
    show Wscd.givenPins (exchange ++ _) = _
    rw [givenPins_append, hpins]
    rfl

theorem signWithFactors_sound {crypto : Fido2SignCrypto} {host : Fido2Host W}
    {auth : AuthCallback W} {kid : KeyId} {data : List UInt8} {options : SignOptions} {w w' : W}
    {l : List HostEvent} {outcome : SignOutcome}
    (h : Fido2SignPlugin.signWithFactors crypto host auth kid data options w =
      (.ok outcome, w', l)) :
    SoundFactors "key_in_local_external_wscd"
      (Fido2SignPlugin.Applied crypto host options outcome.signature w' l)
      outcome.factors.factors := by
  unfold Fido2SignPlugin.signWithFactors at h
  obtain ⟨_, w₁, l₁, l₂, hvalidRun, h₁, rfl⟩ := Traced.bind_ok_iff.mp h
  obtain ⟨hvalid, rfl, rfl⟩ := Traced.lift_ok_iff.mp hvalidRun
  obtain ⟨verifies, w₂, l₃, l₄, hverifies, h₂, rfl⟩ := Traced.bind_ok_iff.mp h₁
  obtain ⟨-, rfl, rfl⟩ := Traced.get_ok_iff.mp hverifies
  split at h₂
  · obtain ⟨herror, -, -⟩ := Traced.lift_ok_iff.mp h₂
    cases herror
  obtain ⟨⟨⟨signature, userVerified, verifiedFactor⟩, pins⟩, w₃, l₅, l₆, hlocal, h₃, rfl⟩ :=
    Traced.bind_ok_iff.mp h₂
  obtain ⟨verifies', w₄, l₇, l₈, hverifies', h₄, rfl⟩ := Traced.bind_ok_iff.mp h₃
  obtain ⟨rfl, rfl, rfl⟩ := Traced.get_ok_iff.mp hverifies'
  obtain ⟨rfl, rfl, rfl⟩ := Traced.pure_ok_iff.mp h₄
  have hinner := Traced.withLocal_ok_iff.mp hlocal
  have hpins := (records_signInner crypto host auth kid data).pins_eq _ hinner
  obtain ⟨key, tbs, pinUvAuth, r, -, -, hasserted, hdecode, rfl, rfl⟩ := signInner_ok hinner
  simp only [List.nil_append, List.append_nil]
  have hvocabulary : "key_in_local_external_wscd" ∈ FactorCategory.possession.methods := by decide
  have hfactor : ∀ f, r.verifiedFactor = some f → Verifies f := by
    obtain ⟨_, _, _, _, _, hparse⟩ := hasserted
    exact fun f hf => parseGetAssertionResponse_verifies hparse hf
  cases huv : r.userVerified with
  | false =>
    rw [if_neg Bool.false_ne_true]
    obtain ⟨hfactors, hsecond⟩ := deriveFactors_factors none false none options
      "the assertion did not carry the user-verified flag" hvocabulary (by rintro m ⟨⟩)
      (by rintro f ⟨⟩) hvalid
    exact ⟨_, hfactors, by rintro f ⟨⟩⟩
  | true =>
    rw [if_pos rfl]
    rcases hasserted.pins with ⟨rfl, hnone, hsilent⟩ |
      ⟨session, raw, challenge, exchange, response, hgiven, htoken, hlog, hparse⟩
    · -- the transport verified the user, if anyone did
      rw [hnone] at hpins
      subst hpins
      obtain ⟨hfactors, hsecond⟩ := deriveFactors_factors none
        (host.transport.performsUserVerification w₃) r.verifiedFactor options _ hvocabulary
        (by rintro m ⟨⟩) hfactor hvalid
      refine ⟨_, hfactors, fun f hf => ⟨hsecond f hf, ?_⟩⟩
      cases hverifies : host.transport.performsUserVerification w₃ with
      | false =>
        rw [hverifies] at hf
        cases hf
      | true =>
        rw [hverifies] at hf
        exact .observed hsilent hverifies hasserted huv hdecode hf
    · -- the one PIN was classified as it was used, in its normal form
      rw [hgiven] at hpins
      subst hpins
      obtain ⟨hfactors, hsecond⟩ := deriveFactors_factors
        (some (classifySecret (normalizePin crypto.nfc raw)))
        (host.transport.performsUserVerification w₃) r.verifiedFactor options _ hvocabulary
        (fun m hm => classifySecret_mem (Option.some.inj hm)) hfactor hvalid
      refine ⟨_, hfactors, fun f hf => ⟨hsecond f hf, ?_⟩⟩
      obtain ⟨method, hmethod, rfl⟩ := Option.map_eq_some_iff.mp hf
      exact .pin hgiven htoken hlog hparse huv hdecode hmethod

end Fido2

/-! ## What the record of a ceremony knows -/

section Record

variable (wire : R2psWire)

/-- The user verified flag is a bit of the decoded octets. -/
theorem authenticatorDataUvFlag_iff (a : String) :
    authenticatorDataUvFlag wire a = true ↔ ∃ d flags, wire.decodeVec a = .ok d ∧
      d[32]? = some flags ∧ flags &&& 0x04 ≠ 0 := by
  unfold authenticatorDataUvFlag
  cases hdecode : wire.decodeVec a with
  | error e => simp
  | ok d =>
    simp only [Bool.and_eq_true, decide_eq_true_eq, PreviewSign.authDataFlags_and_ne_zero_iff,
      Except.ok.injEq]
    constructor
    · rintro ⟨-, flags, hflags, huv⟩
      exact ⟨d, flags, rfl, hflags, huv⟩
    · rintro ⟨_, flags, rfl, hflags, huv⟩
      exact ⟨(List.getElem?_eq_some_iff.mp hflags).1, flags, hflags, huv⟩

/-- Every assertion, of at least one, names the factor `f`, and says the user was verified. -/
def AgreeOn (as : List String) (f : AuthFactor) : Prop :=
  as ≠ [] ∧ ∀ a ∈ as, authenticatorDataUvFlag wire a = true ∧
    classifyAuthenticatorDataUvm wire a = some f

/-- The record after the assertions `as`. -/
def recordOf (as : List String) : CeremonyRecord :=
  as.foldl (CeremonyRecord.recordAssertion wire) .new

theorem recordOf_concat (as : List String) (a : String) :
    recordOf wire (as ++ [a]) = (recordOf wire as).recordAssertion wire a := by
  rw [recordOf, List.foldl_append]
  rfl

theorem recordOf_counts (as : List String) :
    (recordOf wire as).assertions = as.length ∧
    (recordOf wire as).uvAssertions = as.countP (authenticatorDataUvFlag wire) := by
  induction as using List.reverseRecOn with
  | nil => exact ⟨rfl, rfl⟩
  | append_singleton as a ih =>
    obtain ⟨hall, huv⟩ := ih
    rw [recordOf_concat, List.countP_append, List.length_append, List.length_singleton,
      List.countP_singleton, ← hall, ← huv]
    refine ⟨rfl, ?_⟩
    show (if authenticatorDataUvFlag wire a then _ else _) = _
    split <;> rfl

theorem allAssertionsUserVerified_iff (as : List String) :
    (recordOf wire as).allAssertionsUserVerified = true ↔
      as ≠ [] ∧ ∀ a ∈ as, authenticatorDataUvFlag wire a = true := by
  obtain ⟨hall, huv⟩ := recordOf_counts wire as
  simp only [CeremonyRecord.allAssertionsUserVerified, hall, huv, Bool.and_eq_true,
    decide_eq_true_eq, List.countP_eq_length, List.length_pos_iff]

/-- The record has seen no assertion yet just when there was none. -/
theorem verifiedFactor_unseen_iff (as : List String) :
    (recordOf wire as).verifiedFactor = .unseen ↔ as = [] := by
  induction as using List.reverseRecOn with
  | nil => exact ⟨fun _ => rfl, fun _ => rfl⟩
  | append_singleton as a ih =>
    rw [recordOf_concat]
    refine iff_of_false ?_ (by simp)
    unfold CeremonyRecord.recordAssertion
    dsimp only
    split
    · nofun
    · split <;> nofun
    · nofun

theorem verifiedFactor_agreed_iff (as : List String) (f : AuthFactor) :
    (recordOf wire as).verifiedFactor = .agreed f ↔
      as ≠ [] ∧ ∀ a ∈ as, classifyAuthenticatorDataUvm wire a = some f := by
  -- the record takes in the assertions one by one, so the last one is split off
  induction as using List.reverseRecOn with
  | nil => exact iff_of_false nofun fun h => h.1 rfl
  | append_singleton as a ih =>
    have hnonempty : as ++ [a] ≠ [] := by simp
    have hall : (∀ b ∈ as ++ [a], classifyAuthenticatorDataUvm wire b = some f) ↔
        (∀ b ∈ as, classifyAuthenticatorDataUvm wire b = some f) ∧
          classifyAuthenticatorDataUvm wire a = some f := by
      simp [or_imp, forall_and]
    have hunseen := verifiedFactor_unseen_iff wire as
    rw [recordOf_concat, hall]
    simp only [CeremonyRecord.recordAssertion, ne_eq, hnonempty, not_false_eq_true, true_and]
    cases hrecord : (recordOf wire as).verifiedFactor with
    | unseen =>
      obtain rfl := hunseen.mp hrecord
      cases classifyAuthenticatorDataUvm wire a <;> simp
    | agreed prev =>
      rw [hrecord] at ih
      have hne : as ≠ [] := fun h => by
        rw [hunseen.mpr h] at hrecord
        cases hrecord
      have hprev : prev = f ↔ ∀ b ∈ as, classifyAuthenticatorDataUvm wire b = some f := by
        simpa [hne] using ih
      cases classifyAuthenticatorDataUvm wire a with
      | none => simp
      | some g =>
        dsimp only
        rw [← hprev]
        split
        · rename_i heq
          subst heq
          simp
        · rename_i hdiff
          simp only [reduceCtorEq, Option.some.injEq, false_iff]
          rintro ⟨rfl, rfl⟩
          exact hdiff rfl
    | disagreed =>
      rw [hrecord] at ih
      have hne : as ≠ [] := fun h => by
        rw [hunseen.mpr h] at hrecord
        cases hrecord
      have hnot : ¬ ∀ b ∈ as, classifyAuthenticatorDataUvm wire b = some f := fun h =>
        nomatch ih.mpr ⟨hne, h⟩
      simp [hnot]

/-- The factor the adapter reports is the one all the assertions agree on. -/
theorem agreedVerifiedFactor_iff (as : List String) (f : AuthFactor) :
    (recordOf wire as).agreedVerifiedFactor = some f ↔ AgreeOn wire as f := by
  have hagreed := verifiedFactor_agreed_iff wire as f
  have huv := allAssertionsUserVerified_iff wire as
  unfold CeremonyRecord.agreedVerifiedFactor
  constructor
  · intro h
    split at h
    · rename_i hverified
      split at h
      · rename_i g hrecord
        cases h
        obtain ⟨hne, hfactor⟩ := hagreed.mp hrecord
        exact ⟨hne, fun a ha => ⟨(huv.mp hverified).2 a ha, hfactor a ha⟩⟩
      · cases h
    · cases h
  · rintro ⟨hne, h⟩
    rw [if_pos (huv.mpr ⟨hne, fun a ha => (h a ha).1⟩),
      hagreed.mpr ⟨hne, fun a ha => (h a ha).2⟩]

theorem verifies_of_agreedVerifiedFactor {as : List String} {f : AuthFactor}
    (h : (recordOf wire as).agreedVerifiedFactor = some f) : Verifies f := by
  obtain ⟨hne, hall⟩ := (agreedVerifiedFactor_iff wire as f).mp h
  obtain ⟨a, ha⟩ := List.exists_mem_of_ne_nil _ hne
  have hclassify := (hall a ha).2
  unfold classifyAuthenticatorDataUvm at hclassify
  split at hclassify
  · obtain ⟨entries, -, hentries⟩ := Option.bind_eq_some_iff.mp hclassify
    exact Uvm.classifyUvmForTs12_verifies hentries
  · cases hclassify

end Record

/-! ## The r2ps plugin -/

section R2ps

open R2psPlugin

/-- A second factor of an r2ps signature, by the log of the call. -/
inductive R2psPlugin.Applied (wire : R2psWire) (config : R2psConfig) (kid : KeyId)
    (data : List UInt8) (options : SignOptions) (signature : Signature) (l : List HostEvent) :
    AuthFactor → Prop where
  /-- One PIN was given, as it is; it authenticated the session the signature then used. -/
  | pin {raw : Secret} {method : String} :
      config.authMode = "opaque" →
      l = [.requestedPin "r2ps" (.ok raw), .authenticated raw (.ok ()),
        .rawSigned (utf8 kid.asStr) data (.ok signature.bytes)] →
      classifySecret raw = some method →
      Applied wire config kid data options signature l ⟨.knowledge, method⟩
  /-- No PIN was asked for, and every assertion of the ceremony verified the user. -/
  | observed {f : AuthFactor} :
      config.authMode = "webauthn" → (∀ e ∈ l, e.isPinRequest = false) →
      assertions l ≠ [] → (∀ a ∈ assertions l, authenticatorDataUvFlag wire a = true) →
      (AgreeOn wire (assertions l) f ∨
        (∀ g, ¬ AgreeOn wire (assertions l) g) ∧ options.hostVerifiedFactor = some f) →
      Applied wire config kid data options signature l f

/-! ### A ceremony and its record -/

/-- A computation whose record takes in the assertions its log notes. -/
abbrev KeepsRecord {α : Type} (wire : R2psWire) (x : HostM (W × CeremonyRecord) α) : Prop :=
  Traced.Follows Prod.snd
    (fun record e => (HostEvent.assertion e).elim record (record.recordAssertion wire)) x

/-- A computation that asks for no PIN. -/
abbrev AsksNoPin {S α : Type} (x : HostM S α) : Prop :=
  Traced.Logs (fun e => e.isPinRequest = false) x

section Ceremony

variable (wire : R2psWire) (auth : AuthCallback W)

theorem askHost_spec (challenge : List UInt8) (rpId : String) (allowed : List (List UInt8)) :
    KeepsRecord wire (askHost auth challenge rpId allowed) ∧
      AsksNoPin (askHost auth challenge rpId allowed) := by
  constructor
  · refine Traced.Follows.bind (Traced.Follows.attempt ?_) ?_
    · refine Traced.follows_of_unchanged (fun _ => rfl) ?_
      intro s e he record
      obtain rfl := List.mem_singleton.mp he
      rfl
    · rintro (e | json)
      · exact Traced.follows_pure _
      · exact Traced.follows_pure _
  · refine Traced.Logs.bind (Traced.Logs.attempt ?_) ?_
    · intro s e he
      obtain rfl := List.mem_singleton.mp he
      rfl
    · rintro (e | json)
      · exact Traced.logs_of_silent fun _ => rfl
      · exact Traced.logs_of_silent fun _ => rfl

theorem createCredential_spec (challenge rpId : String) :
    KeepsRecord wire (Wscd.createCredential wire auth challenge rpId) ∧
      AsksNoPin (Wscd.createCredential wire auth challenge rpId) := by
  unfold Wscd.createCredential
  split
  · exact ⟨Traced.follows_pure _, Traced.logs_of_silent fun _ => rfl⟩
  · have hask := askHost_spec (W := W) wire auth
    refine ⟨(hask _ _ _).1.bind fun answer => ?_, (hask _ _ _).2.bind fun answer => ?_⟩
    · split
      · exact Traced.follows_pure _
      · split <;> exact Traced.follows_pure _
    · split
      · exact Traced.logs_of_silent fun _ => rfl
      · split <;> exact Traced.logs_of_silent fun _ => rfl

theorem recordAssertion_spec (authenticatorData : String) :
    KeepsRecord wire (recordAssertion wire authenticatorData : HostM (W × CeremonyRecord) Unit) ∧
      AsksNoPin (recordAssertion wire authenticatorData : HostM (W × CeremonyRecord) Unit) := by
  refine ⟨fun _ => rfl, ?_⟩
  intro s e he
  obtain rfl := List.mem_singleton.mp he
  rfl

theorem getAssertion_spec (challenge rpId : String) (allowCredentials : List String) :
    KeepsRecord wire (Wscd.getAssertion wire auth challenge rpId allowCredentials) ∧
      AsksNoPin (Wscd.getAssertion wire auth challenge rpId allowCredentials) := by
  unfold Wscd.getAssertion
  split
  · exact ⟨Traced.follows_pure _, Traced.logs_of_silent fun _ => rfl⟩
  split
  · exact ⟨Traced.follows_pure _, Traced.logs_of_silent fun _ => rfl⟩
  · have hask := askHost_spec (W := W) wire auth
    refine ⟨(hask _ _ _).1.bind fun answer => ?_, (hask _ _ _).2.bind fun answer => ?_⟩
    · split
      · exact Traced.follows_pure _
      split
      · exact Traced.follows_pure _
      · exact (recordAssertion_spec wire _).1.bind fun _ => Traced.follows_pure _
    · split
      · exact Traced.logs_of_silent fun _ => rfl
      split
      · exact Traced.logs_of_silent fun _ => rfl
      · exact (recordAssertion_spec wire _).2.bind fun _ => Traced.logs_of_silent fun _ => rfl

/-- Whatever the client does, the record is that of the assertions it got. -/
theorem run_spec {α : Type} (call : CeremonyCall W α) :
    KeepsRecord wire (call.run wire auth) ∧ AsksNoPin (call.run wire auth) := by
  induction call with
  | done result =>
    exact ⟨Traced.follows_of_silent (fun _ => rfl) fun _ => rfl,
      Traced.logs_of_silent fun _ => rfl⟩
  | exchange send next ih =>
    exact ⟨(Traced.follows_of_silent (fun _ => rfl) fun _ => rfl).bind fun answer => (ih answer).1,
      (Traced.logs_of_silent fun _ => rfl).bind fun answer => (ih answer).2⟩
  | createCredential challenge rpId userId next ih =>
    exact ⟨(createCredential_spec wire auth _ _).1.bind fun answer => (ih answer).1,
      (createCredential_spec wire auth _ _).2.bind fun answer => (ih answer).2⟩
  | getAssertion challenge rpId allowCredentials next ih =>
    exact ⟨(getAssertion_spec wire auth _ _ _).1.bind fun answer => (ih answer).1,
      (getAssertion_spec wire auth _ _ _).2.bind fun answer => (ih answer).2⟩

/-- A record that follows a log, from the assertions of the log. -/
theorem foldl_assertion (l : List HostEvent) (record : CeremonyRecord) :
    l.foldl (fun record e => (HostEvent.assertion e).elim record (record.recordAssertion wire))
      record = (assertions l).foldl (CeremonyRecord.recordAssertion wire) record := by
  induction l generalizing record with
  | nil => rfl
  | cons e l ih =>
    rw [List.foldl_cons, ih, assertions, assertions]
    cases hassertion : e.assertion with
    | none =>
      rw [List.filterMap_cons_none hassertion]
      rfl
    | some a =>
      rw [List.filterMap_cons_some hassertion]
      rfl

end Ceremony

variable {wire : R2psWire} {config : R2psConfig} {auth : AuthCallback W} {host : R2psHost W}
  {kid : KeyId} {data : List UInt8} {w w' : W} {l : List HostEvent}

theorem signWithSad_ok {signature : List UInt8} {record : CeremonyRecord}
    (h : signWithSad wire config auth host kid data w = (.ok (signature, record), w', l)) :
    record = recordOf wire (assertions l) ∧ ∀ e ∈ l, e.isPinRequest = false := by
  unfold signWithSad at h
  obtain ⟨⟨answer, kept⟩, w₁, l₁, l₂, hlocal, h₁, rfl⟩ := Traced.bind_ok_iff.mp h
  obtain ⟨bytes, w₂, l₃, l₄, hresult, h₂, rfl⟩ := Traced.bind_ok_iff.mp h₁
  obtain ⟨-, -, rfl⟩ := Traced.lift_ok_iff.mp hresult
  obtain ⟨heq, -, rfl⟩ := Traced.pure_ok_iff.mp h₂
  cases heq
  simp only [List.append_nil]
  have hrun := Traced.withLocal_ok_iff.mp hlocal
  obtain ⟨hkeeps, hsilent⟩ := run_spec wire auth
    (host.client.signWithSad config.rpId config.allowedCredentialIds kid.asStr data)
  have hrecord := hkeeps (w, .new)
  have hlog := hsilent (w, .new)
  rw [hrun] at hrecord hlog
  exact ⟨hrecord.trans (foldl_assertion wire _ _), hlog⟩

/-! ### OPAQUE mode -/

theorem clientResult_ok {α : Type} {what : String} {answer : Except R2psError α} {a : α}
    (h : clientResult wire what answer = .ok a) : answer = .ok a := by
  cases answer with
  | error e => cases h
  | ok a' => exact congrArg _ (Except.ok.inj h)

/-- A PIN is at hand because it was asked for, or none because the session is used. -/
theorem collectOpaquePin_ok {isAuthenticated : W → Bool} {fresh : Bool} {pin : Option Secret}
    (h : collectOpaquePin config auth isAuthenticated fresh w = (.ok pin, w', l)) :
    config.authMode = "opaque" ∧
      ((pin = none ∧ fresh = false ∧ l = []) ∨
        ∃ raw, pin = some raw ∧ l = [.requestedPin "r2ps" (.ok raw)]) := by
  unfold collectOpaquePin at h
  split at h
  · obtain ⟨herror, -, -⟩ := Traced.lift_ok_iff.mp h
    cases herror
  rename_i hmode
  refine ⟨Decidable.not_not.mp hmode, ?_⟩
  obtain ⟨authenticated, w₁, l₁, l₂, hget, h₁, rfl⟩ := Traced.bind_ok_iff.mp h
  obtain ⟨-, -, rfl⟩ := Traced.get_ok_iff.mp hget
  split at h₁
  · rename_i hreuse
    obtain ⟨rfl, -, rfl⟩ := Traced.pure_ok_iff.mp h₁
    exact .inl ⟨rfl, by simpa using (Bool.and_eq_true_iff.mp hreuse).1, rfl⟩
  · obtain ⟨raw, w₂, l₃, l₄, hask, h₂, rfl⟩ := Traced.bind_ok_iff.mp h₁
    obtain ⟨-, rfl⟩ := Traced.ask_ok_iff.mp hask
    obtain ⟨rfl, -, rfl⟩ := Traced.pure_ok_iff.mp h₂
    exact .inr ⟨raw, rfl, rfl⟩

theorem authenticate_ok {session : R2psSession W} {raw : Secret}
    (h : authenticate wire session (some raw) w = (.ok (), w', l)) :
    l = [.authenticated raw (.ok ())] := by
  unfold authenticate at h
  obtain ⟨answer, w₁, l₁, l₂, hdraw, h₁, rfl⟩ := Traced.bind_ok_iff.mp h
  obtain ⟨-, rfl⟩ := Traced.draw_ok_iff.mp hdraw
  obtain ⟨hresult, -, rfl⟩ := Traced.lift_ok_iff.mp h₁
  rw [clientResult_ok hresult]
  rfl

theorem rawSign_ok {session : R2psSession W} {signature : List UInt8}
    (h : rawSign wire session kid data w = (.ok signature, w', l)) :
    l = [.rawSigned (utf8 kid.asStr) data (.ok signature)] := by
  unfold rawSign at h
  obtain ⟨answer, w₁, l₁, l₂, hdraw, h₁, rfl⟩ := Traced.bind_ok_iff.mp h
  obtain ⟨-, rfl⟩ := Traced.draw_ok_iff.mp hdraw
  obtain ⟨hresult, -, rfl⟩ := Traced.lift_ok_iff.mp h₁
  rw [clientResult_ok hresult]
  rfl

/-- What a signature in OPAQUE mode has done: it asked for a PIN and authenticated the session
by it, or used the session it found. -/
theorem signOpaque_ok {session : R2psSession W} {progress : ProgressCallback W}
    {setLastAmr : List String → W → W} {fresh : Bool} {signature : List UInt8}
    (h : signOpaque wire config auth session progress setLastAmr kid data fresh w =
      (.ok signature, w', l)) :
    config.authMode = "opaque" ∧
    ((∃ raw, l = [.requestedPin "r2ps" (.ok raw), .authenticated raw (.ok ()),
        .rawSigned (utf8 kid.asStr) data (.ok signature)]) ∨
      fresh = false ∧ l = [.rawSigned (utf8 kid.asStr) data (.ok signature)]) := by
  unfold signOpaque at h
  obtain ⟨pin, w₁, l₁, l₂, hcollect, h₁, rfl⟩ := Traced.bind_ok_iff.mp h
  obtain ⟨_, w₂, l₃, l₄, hprogress, h₂, rfl⟩ := Traced.bind_ok_iff.mp h₁
  obtain ⟨_, w₃, l₅, l₆, hauthenticate, h₃, rfl⟩ := Traced.bind_ok_iff.mp h₂
  obtain ⟨bytes, w₄, l₇, l₈, hsign, h₄, rfl⟩ := Traced.bind_ok_iff.mp h₃
  obtain ⟨_, w₅, l₉, l₁₀, hamr, h₅, rfl⟩ := Traced.bind_ok_iff.mp h₄
  obtain ⟨-, rfl⟩ := Traced.modify_ok_iff.mp hprogress
  obtain ⟨-, rfl⟩ := Traced.modify_ok_iff.mp hamr
  obtain ⟨rfl, -, rfl⟩ := Traced.pure_ok_iff.mp h₅
  obtain rfl := rawSign_ok hsign
  obtain ⟨hmode, ⟨rfl, hfresh, rfl⟩ | ⟨raw, rfl, rfl⟩⟩ := collectOpaquePin_ok hcollect
  · obtain ⟨-, -, rfl⟩ := Traced.pure_ok_iff.mp hauthenticate
    exact ⟨hmode, .inr ⟨hfresh, rfl⟩⟩
  · obtain rfl := authenticate_ok hauthenticate
    exact ⟨hmode, .inl ⟨raw, rfl⟩⟩

theorem records_signOpaque (nfc : String → String) (session : R2psSession W)
    (progress : ProgressCallback W) (setLastAmr : List String → W → W) (fresh : Bool) :
    Records nfc (signOpaque wire config (recordingAuth nfc auth) session.beside progress.beside
      (fun amr w => (setLastAmr amr w.1, w.2)) kid data fresh) := by
  have hcollect : Records nfc (collectOpaquePin config (recordingAuth nfc auth)
      (session.beside (T := List (Option String))).isAuthenticated fresh) := by
    unfold collectOpaquePin
    split
    · exact Traced.follows_lift _
    · refine (Traced.follows_get _).bind fun authenticated => ?_
      split
      · exact Traced.follows_pure _
      · exact (records_requestPin nfc auth _).bind fun _ => Traced.follows_pure _
  have hauthenticate : ∀ pin, Records nfc (authenticate wire
      (session.beside (T := List (Option String))) pin) := by
    rintro (_ | raw)
    · exact Traced.follows_pure _
    · refine (records_of_unchanged nfc (fun _ => rfl) ?_).bind fun _ => Traced.follows_lift _
      intro s e he
      obtain rfl := List.mem_singleton.mp he
      rfl
  have hsign :
      Records nfc (rawSign wire (session.beside (T := List (Option String))) kid data) := by
    refine (records_of_unchanged nfc (fun _ => rfl) ?_).bind fun _ => Traced.follows_lift _
    intro s e he
    obtain rfl := List.mem_singleton.mp he
    rfl
  exact hcollect.bind fun pin => (records_onProgress nfc progress _).bind fun _ =>
    (hauthenticate pin).bind fun _ => hsign.bind fun _ =>
      (Traced.follows_of_silent (fun _ => rfl) fun _ => rfl).bind fun _ => Traced.follows_pure _

theorem remoteWscd_vocabulary : "key_in_remote_wscd" ∈ FactorCategory.possession.methods := by
  decide

/-- In WebAuthn mode the ceremony authenticates the signature. -/
theorem sound_of_signWithSad {options : SignOptions} (hvalid : options.validate = .ok ())
    (hmode : config.authMode = "webauthn") {signature : List UInt8} {record : CeremonyRecord}
    (h : signWithSad wire config auth host kid data w = (.ok (signature, record), w', l)) :
    SoundFactors "key_in_remote_wscd"
      (R2psPlugin.Applied wire config kid data options ⟨signature⟩ l)
      (deriveFactors "key_in_remote_wscd" none record.allAssertionsUserVerified
        record.agreedVerifiedFactor options
        "the WebAuthn assertion did not carry the user-verified flag").factors := by
  obtain ⟨rfl, hsilent⟩ := signWithSad_ok h
  have hagreed := agreedVerifiedFactor_iff wire (assertions l)
  obtain ⟨hfactors, hsecond⟩ := deriveFactors_factors none
    (recordOf wire (assertions l)).allAssertionsUserVerified
    (recordOf wire (assertions l)).agreedVerifiedFactor options
    "the WebAuthn assertion did not carry the user-verified flag" remoteWscd_vocabulary
    (by rintro m ⟨⟩) (fun _ hf => verifies_of_agreedVerifiedFactor wire hf) hvalid
  refine ⟨_, hfactors, fun f hf => ⟨hsecond f hf, ?_⟩⟩
  unfold secondFactor at hf
  dsimp only at hf
  split at hf
  · rename_i hall
    obtain ⟨hne, huv⟩ := (allAssertionsUserVerified_iff wire (assertions l)).mp hall
    refine .observed hmode hsilent hne huv ?_
    rcases Option.or_eq_some_iff.mp hf with hf | ⟨hnone, hf⟩
    · exact .inl ((hagreed f).mp hf)
    · refine .inr ⟨fun g hg => ?_, hf⟩
      rw [(hagreed g).mpr hg] at hnone
      cases hnone
  · cases hf

/-- In OPAQUE mode one PIN, or none, authenticated the session. -/
theorem sound_of_signOpaque {nfc : String → String} {options : SignOptions}
    (hvalid : options.validate = .ok ()) {signature : List UInt8} {pins : List (Option String)}
    (h : signOpaque wire config (recordingAuth nfc auth) host.client.toR2psSession.beside
      host.progress.beside (fun amr w => (host.setLastAmr amr w.1, w.2)) kid data
      options.requireFreshUserAuthentication (w, []) = (.ok signature, (w', pins), l)) :
    SoundFactors "key_in_remote_wscd"
      (R2psPlugin.Applied wire config kid data options ⟨signature⟩ l)
      (deriveFactors "key_in_remote_wscd" pins.getLast? false none options
        ("no PIN was entered for this sign: a cached session was reused " ++
          "(set require_fresh_user_authentication)")).factors := by
  have hpins := (records_signOpaque nfc host.client.toR2psSession host.progress host.setLastAmr
    options.requireFreshUserAuthentication).pins_eq _ h
  obtain ⟨hmode, ⟨raw, rfl⟩ | ⟨-, rfl⟩⟩ := signOpaque_ok h
  · subst hpins
    obtain ⟨hfactors, hsecond⟩ := deriveFactors_factors (some (classifySecret raw)) false none
      options _ remoteWscd_vocabulary (fun m hm => classifySecret_mem (Option.some.inj hm))
      (by rintro f ⟨⟩) hvalid
    refine ⟨_, hfactors, fun f hf => ⟨hsecond f hf, ?_⟩⟩
    obtain ⟨method, hmethod, rfl⟩ := Option.map_eq_some_iff.mp hf
    exact .pin hmode rfl hmethod
  · subst hpins
    obtain ⟨hfactors, -⟩ := deriveFactors_factors none false none options
      ("no PIN was entered for this sign: a cached session was reused " ++
        "(set require_fresh_user_authentication)") remoteWscd_vocabulary (by rintro m ⟨⟩)
      (by rintro f ⟨⟩) hvalid
    exact ⟨_, hfactors, by rintro f ⟨⟩⟩

theorem R2psPlugin.signWithFactors_sound {nfc : String → String} {options : SignOptions}
    {outcome : SignOutcome}
    (h : R2psPlugin.signWithFactors wire config auth host nfc kid data options w =
      (.ok outcome, w', l)) :
    SoundFactors "key_in_remote_wscd"
      (R2psPlugin.Applied wire config kid data options outcome.signature l)
      outcome.factors.factors := by
  unfold R2psPlugin.signWithFactors at h
  obtain ⟨_, w₁, l₁, l₂, hvalidRun, h₁, rfl⟩ := Traced.bind_ok_iff.mp h
  obtain ⟨hvalid, rfl, rfl⟩ := Traced.lift_ok_iff.mp hvalidRun
  split at h₁
  · obtain ⟨herror, -, -⟩ := Traced.lift_ok_iff.mp h₁
    cases herror
  obtain ⟨_, w₂, l₃, l₄, hstarted, h₂, rfl⟩ := Traced.bind_ok_iff.mp h₁
  obtain ⟨_, w₃, l₅, l₆, hwaiting, h₃, rfl⟩ := Traced.bind_ok_iff.mp h₂
  obtain ⟨-, rfl⟩ := Traced.modify_ok_iff.mp hstarted
  obtain ⟨-, rfl⟩ := Traced.modify_ok_iff.mp hwaiting
  simp only [List.nil_append]
  split at h₃
  · rename_i hmode
    obtain ⟨_, w₄, l₇, l₈, hround, h₄, rfl⟩ := Traced.bind_ok_iff.mp h₃
    obtain ⟨⟨signature, record⟩, w₅, l₉, l₁₀, hsad, h₅, rfl⟩ := Traced.bind_ok_iff.mp h₄
    obtain ⟨_, w₆, l₁₁, l₁₂, hamr, h₆, rfl⟩ := Traced.bind_ok_iff.mp h₅
    obtain ⟨_, w₇, l₁₃, l₁₄, hcomplete, h₇, rfl⟩ := Traced.bind_ok_iff.mp h₆
    obtain ⟨-, rfl⟩ := Traced.modify_ok_iff.mp hround
    obtain ⟨-, rfl⟩ := Traced.modify_ok_iff.mp hamr
    obtain ⟨-, rfl⟩ := Traced.modify_ok_iff.mp hcomplete
    obtain ⟨rfl, -, rfl⟩ := Traced.pure_ok_iff.mp h₇
    simp only [List.nil_append, List.append_nil]
    exact sound_of_signWithSad hvalid hmode hsad
  · obtain ⟨⟨signature, pins⟩, w₄, l₇, l₈, hlocal, h₄, rfl⟩ := Traced.bind_ok_iff.mp h₃
    obtain ⟨_, w₅, l₉, l₁₀, hcomplete, h₅, rfl⟩ := Traced.bind_ok_iff.mp h₄
    obtain ⟨-, rfl⟩ := Traced.modify_ok_iff.mp hcomplete
    obtain ⟨rfl, -, rfl⟩ := Traced.pure_ok_iff.mp h₅
    simp only [List.append_nil]
    exact sound_of_signOpaque hvalid (Traced.withLocal_ok_iff.mp hlocal)

end R2ps

/-! ## Both plugins -/

/-- Both plugins report possession, and beside it no more than what was applied to that signature.
The user verified flags they go by are the bits of the authenticator data. -/
theorem factors_are_sound {W : Type} :
    (∀ (crypto : Fido2SignCrypto) (host : Fido2Host W) (auth : AuthCallback W) (kid : KeyId)
        (data : List UInt8) (options : SignOptions) (w w' : W) (l : List HostEvent)
        (outcome : SignOutcome),
      Fido2SignPlugin.signWithFactors crypto host auth kid data options w =
        (.ok outcome, w', l) →
      SoundFactors "key_in_local_external_wscd"
        (Fido2SignPlugin.Applied crypto host options outcome.signature w' l)
        outcome.factors.factors) ∧
    (∀ (wire : R2psWire) (config : R2psConfig) (auth : AuthCallback W) (host : R2psHost W)
        (nfc : String → String) (kid : KeyId) (data : List UInt8) (options : SignOptions)
        (w w' : W) (l : List HostEvent) (outcome : SignOutcome),
      R2psPlugin.signWithFactors wire config auth host nfc kid data options w =
        (.ok outcome, w', l) →
      SoundFactors "key_in_remote_wscd"
        (R2psPlugin.Applied wire config kid data options outcome.signature l)
        outcome.factors.factors) ∧
    (∀ (cbor : CborCodec) (response : List UInt8) (r : PreviewSign.SignResult),
      PreviewSign.parseGetAssertionResponse cbor response = .ok r →
      ∃ body entries authData, response = 0x00 :: body ∧ cbor.read body = .ok (.map entries) ∧
        Cbor.FirstUnder (.integer 2) (.bytes authData) entries ∧
        (r.userVerified = true ↔ ∃ flags, authData[32]? = some flags ∧ flags &&& 0x04 ≠ 0)) ∧
    ∀ (wire : R2psWire) (a : String), authenticatorDataUvFlag wire a = true ↔
      ∃ d flags, wire.decodeVec a = .ok d ∧ d[32]? = some flags ∧ flags &&& 0x04 ≠ 0 := by
  refine ⟨fun _ _ _ _ _ _ _ _ _ _ h => signWithFactors_sound h,
    fun _ _ _ _ _ _ _ _ _ _ _ _ h => R2psPlugin.signWithFactors_sound h,
    fun cbor response r h => ?_, authenticatorDataUvFlag_iff⟩
  obtain ⟨body, entries, authData, hresponse, hread, hdata, -, huv, -⟩ :=
    PreviewSign.parseGetAssertionResponse_ok h
  exact ⟨body, entries, authData, hresponse, hread, hdata, huv⟩

/-! ## A pattern on a passkey and a PIN on a remote key -/

namespace PatternDemo

def crypto : Fido2SignCrypto := { scalarCrypto with signatureFromDer := fun _ => .error "" }

/-- A passkey of 48-octet coordinates. -/
def key : Fido2.StoredFidoKey :=
  ⟨"kid", [1], [2], List.replicate 48 0, List.replicate 48 0, -9, [], false, [], none, 0⟩

/-- The transport verifies the user by a pattern. -/
def host : Fido2Host Unit where
  plugin _ := ⟨HashMap.ofListFirst (·.kid) [key], ∅⟩
  transport := ⟨fun _ w => (.ok (PreviewSign.encodeGetAssertionResponse cborWire
    ⟨List.replicate 64 0, true, some ⟨.knowledge, "pattern"⟩⟩), w), fun _ => true⟩
  rng := ⟨fun n w => (List.replicate n 0, w), fun w => (⟨1, SecretKey.one_ne_zero⟩, w),
    Rng.length_zeros⟩
  progress := ⟨fun _ w => w⟩

def auth : AuthCallback Unit :=
  ⟨fun _ w => (.error .authCancelled, w), fun _ _ w => (.error .authCancelled, w),
    fun _ _ _ _ w => (.error .authCancelled, w)⟩

def outcome : SignOutcome :=
  ⟨⟨List.replicate 64 0⟩, ⟨[⟨.possession, "key_in_local_external_wscd"⟩, ⟨.knowledge, "pattern"⟩],
    none⟩⟩

end PatternDemo

set_option maxRecDepth 4000 in
/-- The passkey, and a remote key whose session a PIN of six digits opens. -/
theorem factors_are_sound_pattern_and_pin :
    (∃ l, SoundFactors "key_in_local_external_wscd"
      (Fido2SignPlugin.Applied PatternDemo.crypto PatternDemo.host .default
        PatternDemo.outcome.signature () l)
      [⟨.possession, "key_in_local_external_wscd"⟩, ⟨.knowledge, "pattern"⟩]) ∧
    SoundFactors "key_in_remote_wscd"
      (R2psPlugin.Applied
        ⟨cborWire, base64urlDecode, fun _ => .error "", fun _ => .error "", fun _ => ""⟩
        ⟨"opaque", "", []⟩ ⟨"kid"⟩ [7] .default ⟨[1]⟩
        [.requestedPin "r2ps" (.ok [49, 50, 51, 52, 53, 54]),
          .authenticated [49, 50, 51, 52, 53, 54] (.ok ()), .rawSigned (utf8 "kid") [7] (.ok [1])])
      [⟨.possession, "key_in_remote_wscd"⟩, ⟨.knowledge, "pin_6_or_more_digits"⟩] := by
  constructor
  · exact ⟨_, factors_are_sound.1 PatternDemo.crypto PatternDemo.host PatternDemo.auth ⟨"kid"⟩
      (List.replicate 32 0) .default () () _ PatternDemo.outcome rfl⟩
  · exact factors_are_sound.2.1 _ _
      ⟨fun _ w => (.ok [49, 50, 51, 52, 53, 54], w), fun _ _ w => (.error .authCancelled, w),
        fun _ _ _ _ w => (.error .authCancelled, w)⟩
      ⟨⟨⟨fun _ => false, fun _ w => (.ok (), w), fun _ _ w => (.ok [1], w)⟩,
        fun _ _ _ _ => .done fun w => (.error (.other ""), w)⟩, ⟨fun _ w => w⟩, fun _ w => w⟩
      id _ _ _ () () _ ⟨⟨[1]⟩, ⟨[⟨.possession, "key_in_remote_wscd"⟩,
        ⟨.knowledge, "pin_6_or_more_digits"⟩], none⟩⟩ rfl

end Wscd
