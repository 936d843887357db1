import Wscd.CryptoLaws
import Wscd.PreviewSign.Ceremonies

/-!
# What a ceremony sends

A command too many costs one of the few PIN retries, or sets a PIN nobody has checked on a
user's hardware key. So here is everything a ceremony may do on a transport that does not
verify the user, whatever the authenticator and the user answer and wherever it ends.

Results:
1. `tokenWithPin_cases`, `setPin_cases`, `acquirePinUvAuthToken_cases`: the logs of the
   exchange, with an error exit after each step.
2. `CeremonyTrace.everywhere`: where in the log of a ceremony each event may stand.
3. `ceremonies_send_safely`: what that means for the commands, as an authenticator reads them.
-/

namespace Wscd.PreviewSign

open Lib ClientPin Cbor

variable {W : Type}

/-! ## The logs of the exchange -/

section Traces

variable {crypto : CtapCrypto} {transport : Ctap2Transport W} {rng : Rng W}
  {auth : AuthCallback W} {w w' : W} {l : List HostEvent} {protocol : PinUvAuthProtocol}
  {pin : List UInt8} {pluginId : String} {permissions : UInt8} {rpId : Option String}

/-- The log of a token exchange, by where it ended. -/
inductive TokenTrace (crypto : CtapCrypto) (protocol : PinUvAuthProtocol) (pin : List UInt8)
    (permissions : UInt8) (rpId : Option String) :
    Except WscdError PinUvAuthSession → List HostEvent → Prop where
  | unagreed {secret : SecretKey} {answer : Except WscdError (List UInt8)} {e : WscdError} :
      TokenTrace crypto protocol pin permissions rpId (.error e)
        [.generatedSecret secret, .sentCommand (keyAgreementCommand crypto protocol) answer]
  | ungranted {secret : SecretKey} {agreement sharedX iv : List UInt8} {peer : PublicKey}
      {answer : Except WscdError (List UInt8)} {e : WscdError} :
      parseKeyAgreement crypto agreement = .ok peer →
      ecdhSharedX crypto secret peer = .ok sharedX →
      TokenTrace crypto protocol pin permissions rpId (.error e)
        ([.generatedSecret secret,
            .sentCommand (keyAgreementCommand crypto protocol) (.ok agreement)] ++
          ivEvents protocol iv ++
          [.sentCommand
            (tokenCommand crypto protocol (secret.publicKey crypto.p256)
              (encrypt crypto protocol (deriveAesKey crypto protocol sharedX)
                (pinHash crypto pin) iv) permissions rpId) answer])
  | granted {session : PinUvAuthSession} {l : List HostEvent} :
      TokenFor crypto protocol pin permissions rpId session l →
      TokenTrace crypto protocol pin permissions rpId (.ok session) l

theorem getKeyAgreement_cases {r : Except WscdError PublicKey}
    (h : getKeyAgreement crypto transport protocol w = (r, w', l)) :
    ∃ answer, l = [.sentCommand (keyAgreementCommand crypto protocol) answer] := by
  unfold getKeyAgreement at h
  rcases Traced.bind_cases h with ⟨e, -, herror⟩ | ⟨response, w₁, l₁, l₂, hsend, hparse, rfl⟩
  · obtain ⟨-, rfl⟩ := Traced.ask_cases herror
    exact ⟨_, rfl⟩
  · obtain ⟨-, rfl⟩ := Traced.ask_cases hsend
    obtain ⟨-, -, rfl⟩ := Traced.lift_cases hparse
    exact ⟨_, rfl⟩

theorem tokenWithPin_cases {r : Except WscdError PinUvAuthSession}
    (h : tokenWithPin crypto transport rng protocol pin permissions rpId w = (r, w', l)) :
    TokenTrace crypto protocol pin permissions rpId r l := by
  cases r with
  | ok session => exact .granted (tokenWithPin_ok h)
  | error e =>
    unfold tokenWithPin at h
    obtain ⟨secret, w₁, l₁, l₂, hsecret, h₁, rfl⟩ :=
      Traced.bind_cases_of_total (fun _ => ⟨_, rfl⟩) h
    obtain ⟨-, rfl⟩ := Traced.draw_ok_iff.mp hsecret
    rcases Traced.bind_cases h₁ with ⟨_, -, herror⟩ | ⟨peer, w₂, l₃, l₄, hpeer, h₂, rfl⟩
    · obtain ⟨answer, rfl⟩ := getKeyAgreement_cases herror
      exact .unagreed
    obtain ⟨agreement, rfl, hagreement⟩ := getKeyAgreement_ok hpeer
    rcases Traced.bind_cases h₂ with ⟨_, -, herror⟩ | ⟨sharedX, w₃, l₅, l₆, hshared, h₃, rfl⟩
    · obtain ⟨-, -, rfl⟩ := Traced.lift_cases herror
      exact .unagreed
    obtain ⟨hsharedX, -, rfl⟩ := Traced.lift_ok_iff.mp hshared
    obtain ⟨iv, w₄, l₇, l₈, hiv, h₄, rfl⟩ := Traced.bind_cases_of_total (fun _ => by
      cases protocol <;> exact ⟨_, rfl⟩) h₃
    obtain rfl := freshIv_ok hiv
    -- from here on the request is sent, and whatever fails fails after it
    have hsent : ∃ answer, l₈ = [.sentCommand
        (tokenCommand crypto protocol (secret.publicKey crypto.p256)
          (encrypt crypto protocol (deriveAesKey crypto protocol sharedX)
            (pinHash crypto pin) iv) permissions rpId) answer] := by
      rcases Traced.bind_cases h₄ with ⟨_, -, herror⟩ | ⟨answer, w₅, l₉, l₁₀, hsend, h₅, rfl⟩
      · obtain ⟨-, rfl⟩ := Traced.ask_cases herror
        exact ⟨_, rfl⟩
      obtain ⟨-, rfl⟩ := Traced.ask_ok_iff.mp hsend
      rcases Traced.bind_cases h₅ with ⟨_, -, herror⟩ | ⟨tokenEnc, w₆, l₁₁, l₁₂, hparse, h₆, rfl⟩
      · obtain ⟨-, -, rfl⟩ := Traced.lift_cases herror
        exact ⟨_, rfl⟩
      obtain ⟨-, -, rfl⟩ := Traced.lift_ok_iff.mp hparse
      rcases Traced.bind_cases h₆ with ⟨_, -, herror⟩ | ⟨token, w₇, l₁₃, l₁₄, hdecrypt, h₇, rfl⟩
      · obtain ⟨-, -, rfl⟩ := Traced.lift_cases herror
        exact ⟨_, rfl⟩
      · obtain ⟨hok, -, -⟩ := Traced.pure_cases h₇
        cases hok
    obtain ⟨answer, rfl⟩ := hsent
    rw [List.nil_append, ← List.append_assoc, ← List.append_assoc]
    exact .ungranted hagreement hsharedX

/-- The log of a setPIN. The authenticator has taken the PIN if the call says so. -/
inductive SetPinTrace (crypto : CtapCrypto) (protocol : PinUvAuthProtocol) (pin : List UInt8) :
    Except WscdError Unit → List HostEvent → Prop where
  | unagreed {secret : SecretKey} {answer : Except WscdError (List UInt8)} {e : WscdError} :
      SetPinTrace crypto protocol pin (.error e)
        [.generatedSecret secret, .sentCommand (keyAgreementCommand crypto protocol) answer]
  | sent {secret : SecretKey} {agreement sharedX iv : List UInt8} {peer : PublicKey}
      {answer : Except WscdError (List UInt8)} {r : Except WscdError Unit} :
      parseKeyAgreement crypto agreement = .ok peer →
      ecdhSharedX crypto secret peer = .ok sharedX →
      (r = .ok () → ∃ body, answer.bind splitClientPinStatus = .ok body) →
      SetPinTrace crypto protocol pin r
        [.generatedSecret secret,
          .sentCommand (keyAgreementCommand crypto protocol) (.ok agreement), .drewBytes iv,
          .sentCommand
            (setPinCommand crypto protocol (secret.publicKey crypto.p256)
              (setPinFields crypto protocol sharedX pin iv).1
              (setPinFields crypto protocol sharedX pin iv).2) answer]

theorem setPin_cases {r : Except WscdError Unit}
    (h : setPin crypto transport rng protocol pin w = (r, w', l)) :
    SetPinTrace crypto protocol pin r l := by
  unfold setPin at h
  obtain ⟨secret, w₁, l₁, l₂, hsecret, h₁, rfl⟩ :=
    Traced.bind_cases_of_total (fun _ => ⟨_, rfl⟩) h
  obtain ⟨-, rfl⟩ := Traced.draw_ok_iff.mp hsecret
  rcases Traced.bind_cases h₁ with ⟨_, rfl, herror⟩ | ⟨peer, w₂, l₃, l₄, hpeer, h₂, rfl⟩
  · obtain ⟨answer, rfl⟩ := getKeyAgreement_cases herror
    exact .unagreed
  obtain ⟨agreement, rfl, hagreement⟩ := getKeyAgreement_ok hpeer
  rcases Traced.bind_cases h₂ with ⟨_, rfl, herror⟩ | ⟨sharedX, w₃, l₅, l₆, hshared, h₃, rfl⟩
  · obtain ⟨-, -, rfl⟩ := Traced.lift_cases herror
    exact .unagreed
  obtain ⟨hsharedX, -, rfl⟩ := Traced.lift_ok_iff.mp hshared
  obtain ⟨iv, w₄, l₇, l₈, hiv, h₄, rfl⟩ := Traced.bind_cases_of_total (fun _ => ⟨_, rfl⟩) h₃
  obtain ⟨-, rfl⟩ := Traced.draw_ok_iff.mp hiv
  rcases Traced.bind_cases h₄ with ⟨_, rfl, herror⟩ | ⟨answer, w₅, l₉, l₁₀, hsend, h₅, rfl⟩
  · obtain ⟨-, rfl⟩ := Traced.ask_cases herror
    exact .sent hagreement hsharedX nofun
  obtain ⟨-, rfl⟩ := Traced.ask_ok_iff.mp hsend
  rcases Traced.bind_cases h₅ with ⟨_, rfl, herror⟩ | ⟨body, w₆, l₁₁, l₁₂, hstatus, h₆, rfl⟩
  · obtain ⟨-, -, rfl⟩ := Traced.lift_cases herror
    exact .sent hagreement hsharedX nofun
  · obtain ⟨hbody, -, rfl⟩ := Traced.lift_ok_iff.mp hstatus
    obtain ⟨rfl, -, rfl⟩ := Traced.pure_cases h₆
    exact .sent hagreement hsharedX fun _ => ⟨body, hbody⟩

/-- A `getInfo` was answered with this information. -/
def Informs (crypto : CtapCrypto) (response : List UInt8) (info : AuthenticatorPinInfo) : Prop :=
  ∃ body, splitStatus response = .ok body ∧ parsePinInfo crypto body = .ok info

/-- What the user is asked, by what the authenticator says it has. -/
def promptFor (info : AuthenticatorPinInfo) : PinRequestKind :=
  match info.pinState with
  | .notSet => .setNewPin info.minPinLength
  | .set | .unsupported => .enterPin

/-- A PIN that does not leave the wallet. The lengths are those of its normal form, which is
what would be set. -/
def LocallyRefused (nfc : String → String) (kind : PinRequestKind) (raw : List UInt8) : Prop :=
  0 ∈ raw ∨ 0 ∈ normalizePin nfc raw ∨
    match kind, fromUtf8 raw with
    | .enterPin, _ => False
    | .setNewPin _, none => True
    | .setNewPin minLength, some s =>
      maxPinBytes < (utf8 (nfc s)).length ∨ (nfc s).toList.length < minLength

/-- The log of a whole exchange. -/
inductive AcquireTrace (crypto : CtapCrypto) (pluginId : String) (permissions : UInt8)
    (rpId : Option String) : Except WscdError PinUvAuthSession → List HostEvent → Prop where
  | uninformed {answer : Except WscdError (List UInt8)} {e : WscdError} :
      AcquireTrace crypto pluginId permissions rpId (.error e) [.sentCommand [ctap2GetInfo] answer]
  | prompted {response : List UInt8} {info : AuthenticatorPinInfo}
      {answer : Except WscdError Secret} {e : WscdError} :
      Informs crypto response info →
      AcquireTrace crypto pluginId permissions rpId (.error e)
        [.sentCommand [ctap2GetInfo] (.ok response),
          .requestedPinFor pluginId (promptFor info) answer]
  | entered {response : List UInt8} {info : AuthenticatorPinInfo} {raw : Secret}
      {r : Except WscdError PinUvAuthSession} {l : List HostEvent} :
      Informs crypto response info → promptFor info = .enterPin →
      0 ∉ normalizePin crypto.nfc raw →
      TokenTrace crypto info.protocol (normalizePin crypto.nfc raw) permissions rpId r l →
      AcquireTrace crypto pluginId permissions rpId r
        (.sentCommand [ctap2GetInfo] (.ok response) ::
          .requestedPinFor pluginId .enterPin (.ok raw) :: l)
  | unset {response : List UInt8} {info : AuthenticatorPinInfo} {raw : Secret} {pin : String}
      {e : WscdError} {l : List HostEvent} :
      Informs crypto response info → info.pinState = .notSet →
      validateNewPin crypto raw info.minPinLength = .ok pin →
      SetPinTrace crypto info.protocol (utf8 pin) (.error e) l →
      AcquireTrace crypto pluginId permissions rpId (.error e)
        (.sentCommand [ctap2GetInfo] (.ok response) ::
          .requestedPinFor pluginId (.setNewPin info.minPinLength) (.ok raw) :: l)
  | chosen {response : List UInt8} {info : AuthenticatorPinInfo} {raw : Secret} {pin : String}
      {r : Except WscdError PinUvAuthSession} {l₁ l₂ : List HostEvent} :
      Informs crypto response info → info.pinState = .notSet →
      validateNewPin crypto raw info.minPinLength = .ok pin →
      SetPinTrace crypto info.protocol (utf8 pin) (.ok ()) l₁ →
      TokenTrace crypto info.protocol (utf8 pin) permissions rpId r l₂ →
      AcquireTrace crypto pluginId permissions rpId r
        (.sentCommand [ctap2GetInfo] (.ok response) ::
          .requestedPinFor pluginId (.setNewPin info.minPinLength) (.ok raw) :: (l₁ ++ l₂))

theorem readPinInfo_cases {r : Except WscdError AuthenticatorPinInfo}
    (h : readPinInfo crypto transport w = (r, w', l)) :
    ∃ answer, l = [.sentCommand [ctap2GetInfo] answer] ∧
      ∀ info, r = .ok info → ∃ response, answer = .ok response ∧ Informs crypto response info := by
  cases r with
  | ok info =>
    obtain ⟨response, body, rfl, hstatus, hparse⟩ := readPinInfo_ok h
    refine ⟨_, rfl, ?_⟩
    rintro _ ⟨⟩
    exact ⟨response, rfl, body, hstatus, hparse⟩
  | error e =>
    unfold readPinInfo at h
    rcases Traced.bind_cases h with ⟨_, -, herror⟩ | ⟨response, w₁, l₁, l₂, hsend, h₁, rfl⟩
    · obtain ⟨-, rfl⟩ := Traced.ask_cases herror
      exact ⟨_, rfl, nofun⟩
    obtain ⟨-, rfl⟩ := Traced.ask_ok_iff.mp hsend
    rcases Traced.bind_cases h₁ with ⟨_, -, herror⟩ | ⟨body, w₂, l₃, l₄, hstatus, h₂, rfl⟩
    · obtain ⟨-, -, rfl⟩ := Traced.lift_cases herror
      exact ⟨_, rfl, nofun⟩
    · obtain ⟨-, -, rfl⟩ := Traced.lift_ok_iff.mp hstatus
      obtain ⟨-, -, rfl⟩ := Traced.lift_cases h₂
      exact ⟨_, rfl, nofun⟩

/-- A PIN is entered whether one is known to be set or not known at all. -/
theorem tokenWithEnteredPin_cases {info : AuthenticatorPinInfo} {response : List UInt8}
    {r : Except WscdError PinUvAuthSession} (hinforms : Informs crypto response info)
    (hkind : promptFor info = .enterPin)
    (h : tokenWithEnteredPin crypto transport rng auth pluginId info permissions rpId w =
      (r, w', l)) :
    AcquireTrace crypto pluginId permissions rpId r
      (.sentCommand [ctap2GetInfo] (.ok response) :: l) := by
  unfold tokenWithEnteredPin at h
  rcases Traced.bind_cases h with ⟨e, rfl, herror⟩ | ⟨raw, w₁, l₁, l₂, hask, h₁, rfl⟩
  · obtain ⟨-, rfl⟩ := Traced.ask_cases herror
    rw [← hkind]
    exact .prompted hinforms
  obtain ⟨-, rfl⟩ := Traced.ask_ok_iff.mp hask
  split at h₁
  · obtain ⟨rfl, -, rfl⟩ := Traced.lift_cases h₁
    rw [← hkind]
    exact .prompted hinforms
  · rename_i hnul
    exact .entered hinforms hkind (by simpa using hnul) (tokenWithPin_cases h₁)

/-- A new PIN is asked for, checked and set before there is a token. -/
theorem tokenWithNewPin_cases {info : AuthenticatorPinInfo} {response : List UInt8}
    {r : Except WscdError PinUvAuthSession} (hinforms : Informs crypto response info)
    (hstate : info.pinState = .notSet)
    (h : tokenWithNewPin crypto transport rng auth pluginId info permissions rpId w =
      (r, w', l)) :
    AcquireTrace crypto pluginId permissions rpId r
      (.sentCommand [ctap2GetInfo] (.ok response) :: l) := by
  have hkind : promptFor info = .setNewPin info.minPinLength := by rw [promptFor, hstate]
  unfold tokenWithNewPin at h
  rcases Traced.bind_cases h with ⟨e, rfl, herror⟩ | ⟨raw, w₁, l₁, l₂, hask, h₁, rfl⟩
  · obtain ⟨-, rfl⟩ := Traced.ask_cases herror
    rw [← hkind]
    exact .prompted hinforms
  obtain ⟨-, rfl⟩ := Traced.ask_ok_iff.mp hask
  rcases Traced.bind_cases h₁ with ⟨e, rfl, herror⟩ | ⟨pin, w₂, l₃, l₄, hvalidate, h₂, rfl⟩
  · obtain ⟨-, -, rfl⟩ := Traced.lift_cases herror
    rw [← hkind]
    exact .prompted hinforms
  obtain ⟨hpin, -, rfl⟩ := Traced.lift_ok_iff.mp hvalidate
  rcases Traced.bind_cases h₂ with ⟨e, rfl, herror⟩ | ⟨_, w₃, l₅, l₆, hset, h₃, rfl⟩
  · exact .unset hinforms hstate hpin (setPin_cases herror)
  · show AcquireTrace _ _ _ _ r (_ :: _ :: (l₅ ++ l₆))
    exact .chosen hinforms hstate hpin (setPin_cases hset) (tokenWithPin_cases h₃)

theorem acquirePinUvAuthToken_cases {r : Except WscdError PinUvAuthSession}
    (h : acquirePinUvAuthToken crypto transport rng auth pluginId permissions rpId w =
      (r, w', l)) :
    AcquireTrace crypto pluginId permissions rpId r l := by
  unfold acquirePinUvAuthToken at h
  rcases Traced.bind_cases h with ⟨e, rfl, herror⟩ | ⟨info, w₁, l₁, l₂, hinfo, h₁, rfl⟩
  · obtain ⟨answer, rfl, -⟩ := readPinInfo_cases herror
    exact .uninformed
  obtain ⟨_, rfl, hanswer⟩ := readPinInfo_cases hinfo
  obtain ⟨response, rfl, hinforms⟩ := hanswer info rfl
  cases hstate : info.pinState with
  | set =>
    simp only [hstate] at h₁
    exact tokenWithEnteredPin_cases hinforms (by rw [promptFor, hstate]) h₁
  | unsupported =>
    simp only [hstate] at h₁
    exact tokenWithEnteredPin_cases hinforms (by rw [promptFor, hstate]) h₁
  | notSet =>
    simp only [hstate] at h₁
    exact tokenWithNewPin_cases hinforms hstate h₁

/-- The log of a ceremony on a transport that does not verify the user: `command` is its
command, by the authentication it carries. -/
inductive CeremonyTrace (crypto : CtapCrypto) (permission : UInt8) (rpId : String)
    (message : List UInt8) (command : Option (List UInt8 × Int) → List UInt8) :
    List HostEvent → Prop where
  | unverified {e : WscdError} {l : List HostEvent} :
      AcquireTrace crypto "fido2" permission (some rpId) (.error e) l →
      CeremonyTrace crypto permission rpId message command l
  | commanded {session : PinUvAuthSession} {raw : Secret} {l : List HostEvent}
      {answer : Except WscdError (List UInt8)} :
      AcquireTrace crypto "fido2" permission (some rpId) (.ok session) l →
      PinTokenFor crypto "fido2" permission (some rpId) session raw l →
      CeremonyTrace crypto permission rpId message command
        (l ++ [.sentCommand
          (command (some (session.authenticate crypto.kdf message, session.protocol.asInt)))
          answer])

/-- Both ceremonies are of this form. -/
theorem ceremony_cases {α : Type} {permission : UInt8} {rpId : String} {message : List UInt8}
    {command : Option (List UInt8 × Int) → List UInt8} {parse : List UInt8 → Except WscdError α}
    {r : Except WscdError α} (hverifies : transport.performsUserVerification w = false)
    (h : (do
      let pinUvAuth ← ceremonyPinUvAuth crypto transport rng auth permission rpId message
      let response ← HostM.sendCommand transport (command pinUvAuth)
      Traced.lift (parse response) : HostM W α) w = (r, w', l)) :
    CeremonyTrace crypto permission rpId message command l := by
  have hauth : ∀ {r : Except WscdError (Option (List UInt8 × Int))} {w₁ l₁},
      ceremonyPinUvAuth crypto transport rng auth permission rpId message w = (r, w₁, l₁) →
      (∃ e, r = .error e ∧ AcquireTrace crypto "fido2" permission (some rpId) (.error e) l₁) ∨
        ∃ session, r = .ok (some (session.authenticate crypto.kdf message,
          session.protocol.asInt)) ∧
          AcquireTrace crypto "fido2" permission (some rpId) (.ok session) l₁ ∧
          ∃ raw, PinTokenFor crypto "fido2" permission (some rpId) session raw l₁ := by
    intro r w₁ l₁ hrun
    unfold ceremonyPinUvAuth at hrun
    obtain ⟨verifies, w₂, l₂, l₃, hget, hrun₁, rfl⟩ :=
      Traced.bind_cases_of_total (fun _ => ⟨_, rfl⟩) hrun
    obtain ⟨rfl, rfl, rfl⟩ := Traced.get_ok_iff.mp hget
    rw [if_neg (by simp [hverifies])] at hrun₁
    rcases Traced.bind_cases hrun₁ with ⟨e, rfl, herror⟩ | ⟨session, w₃, l₄, l₅, hok, hrun₂, rfl⟩
    · exact .inl ⟨e, rfl, acquirePinUvAuthToken_cases herror⟩
    · obtain ⟨rfl, -, rfl⟩ := Traced.pure_cases hrun₂
      rw [List.nil_append, List.append_nil]
      exact .inr ⟨session, rfl, acquirePinUvAuthToken_cases hok, acquirePinUvAuthToken_ok hok⟩
  rcases Traced.bind_cases h with ⟨e, rfl, herror⟩ | ⟨pinUvAuth, w₁, l₁, l₂, hok, h₁, rfl⟩
  · rcases hauth herror with ⟨_, he, htrace⟩ | ⟨_, hok, -⟩
    · exact .unverified htrace
    · cases hok
  rcases hauth hok with ⟨_, herror, -⟩ | ⟨session, hsession, htrace, raw, hraw⟩
  · cases herror
  cases hsession
  have hsent : ∃ answer, l₂ = [.sentCommand
      (command (some (session.authenticate crypto.kdf message, session.protocol.asInt)))
      answer] := by
    rcases Traced.bind_cases h₁ with ⟨_, -, herror⟩ | ⟨response, w₂, l₃, l₄, hsend, h₂, rfl⟩
    · obtain ⟨-, rfl⟩ := Traced.ask_cases herror
      exact ⟨_, rfl⟩
    · obtain ⟨-, rfl⟩ := Traced.ask_cases hsend
      obtain ⟨-, -, rfl⟩ := Traced.lift_cases h₂
      exact ⟨_, rfl⟩
  obtain ⟨answer, rfl⟩ := hsent
  exact .commanded htrace hraw

end Traces

/-! ## Where an event may stand -/

section Allowed

variable {crypto : CtapCrypto} {permission : UInt8} {rpId : String} {message : List UInt8}
  {command : Option (List UInt8 × Int) → List UInt8} {l rest : List HostEvent}
  {protocol : PinUvAuthProtocol} {pin : List UInt8}

/-- What may be logged between `before` and `after`. -/
inductive Allowed (crypto : CtapCrypto) (permission : UInt8) (rpId : String)
    (message : List UInt8) (command : Option (List UInt8 × Int) → List UInt8) :
    List HostEvent → HostEvent → List HostEvent → Prop where
  | getInfo {answer : Except WscdError (List UInt8)} {after : List HostEvent} :
      Allowed crypto permission rpId message command [] (.sentCommand [ctap2GetInfo] answer) after
  | prompt {response : List UInt8} {info : AuthenticatorPinInfo}
      {answer : Except WscdError Secret} {after : List HostEvent} :
      Informs crypto response info →
      (∀ raw, answer = .ok raw → LocallyRefused crypto.nfc (promptFor info) raw → after = []) →
      Allowed crypto permission rpId message command
        [.sentCommand [ctap2GetInfo] (.ok response)]
        (.requestedPinFor "fido2" (promptFor info) answer) after
  | secret {secret : SecretKey} {before after : List HostEvent} :
      Allowed crypto permission rpId message command before (.generatedSecret secret) after
  | agreement {secret : SecretKey} {protocol : PinUvAuthProtocol}
      {answer : Except WscdError (List UInt8)} {before after : List HostEvent} :
      Allowed crypto permission rpId message command (before ++ [.generatedSecret secret])
        (.sentCommand (keyAgreementCommand crypto protocol) answer) after
  | iv {iv : List UInt8} {before after : List HostEvent} :
      Allowed crypto permission rpId message command before (.drewBytes iv) after
  | setPin {response agreement sharedX iv : List UInt8} {info : AuthenticatorPinInfo}
      {raw : Secret} {pin : String} {secret : SecretKey} {peer : PublicKey}
      {answer : Except WscdError (List UInt8)} {after : List HostEvent} :
      Informs crypto response info → info.pinState = .notSet →
      validateNewPin crypto raw info.minPinLength = .ok pin →
      parseKeyAgreement crypto agreement = .ok peer →
      ecdhSharedX crypto secret peer = .ok sharedX →
      ((¬ ∃ body, answer.bind splitClientPinStatus = .ok body) → after = []) →
      Allowed crypto permission rpId message command
        [.sentCommand [ctap2GetInfo] (.ok response),
          .requestedPinFor "fido2" (.setNewPin info.minPinLength) (.ok raw),
          .generatedSecret secret,
          .sentCommand (keyAgreementCommand crypto info.protocol) (.ok agreement), .drewBytes iv]
        (.sentCommand
          (setPinCommand crypto info.protocol (secret.publicKey crypto.p256)
            (setPinFields crypto info.protocol sharedX (utf8 pin) iv).1
            (setPinFields crypto info.protocol sharedX (utf8 pin) iv).2) answer) after
  | token {kind : PinRequestKind} {raw : Secret} {protocol : PinUvAuthProtocol}
      {agreement sharedX iv : List UInt8} {secret : SecretKey} {peer : PublicKey}
      {answer : Except WscdError (List UInt8)} {before after : List HostEvent} :
      .requestedPinFor "fido2" kind (.ok raw) ∈ before →
      parseKeyAgreement crypto agreement = .ok peer →
      ecdhSharedX crypto secret peer = .ok sharedX →
      (∀ c a, .sentCommand c a ∈ after → ∃ pinUvAuth, c = command pinUvAuth) →
      Allowed crypto permission rpId message command
        (before ++ ([.generatedSecret secret,
          .sentCommand (keyAgreementCommand crypto protocol) (.ok agreement)] ++
          ivEvents protocol iv))
        (.sentCommand
          (tokenCommand crypto protocol (secret.publicKey crypto.p256)
            (encrypt crypto protocol (deriveAesKey crypto protocol sharedX)
              (pinHash crypto (normalizePin crypto.nfc raw)) iv) permission (some rpId))
          answer) after
  | command {session : PinUvAuthSession} {raw : Secret}
      {answer : Except WscdError (List UInt8)} {before : List HostEvent} :
      PinTokenFor crypto "fido2" permission (some rpId) session raw before →
      Allowed crypto permission rpId message command before
        (.sentCommand
          (command (some (session.authenticate crypto.kdf message, session.protocol.asInt)))
          answer) []

/-- An exchange that was gone through up to the token request. -/
theorem everywhere_exchange {before : List HostEvent} {kind : PinRequestKind} {raw : Secret}
    {agreement sharedX iv : List UInt8} {secret : SecretKey} {peer : PublicKey}
    {answer : Except WscdError (List UInt8)}
    (hprompt : .requestedPinFor "fido2" kind (.ok raw) ∈ before)
    (hagreement : parseKeyAgreement crypto agreement = .ok peer)
    (hshared : ecdhSharedX crypto secret peer = .ok sharedX)
    (hrest : ∀ c a, .sentCommand c a ∈ rest → ∃ pinUvAuth, c = command pinUvAuth) :
    Traced.Everywhere
      (fun b e a => Allowed crypto permission rpId message command (before ++ b) e (a ++ rest))
      ([.generatedSecret secret,
          .sentCommand (keyAgreementCommand crypto protocol) (.ok agreement)] ++
        ivEvents protocol iv ++
        [.sentCommand
          (tokenCommand crypto protocol (secret.publicKey crypto.p256)
            (encrypt crypto protocol (deriveAesKey crypto protocol sharedX)
              (pinHash crypto (normalizePin crypto.nfc raw)) iv) permission (some rpId))
          answer]) := by
  rw [Traced.everywhere_append, Traced.everywhere_append]
  refine ⟨⟨?_, ?_⟩, ?_⟩
  · rw [Traced.everywhere_cons, Traced.everywhere_cons]
    exact ⟨.secret, .agreement, Traced.everywhere_nil⟩
  · cases protocol with
    | one => exact Traced.everywhere_nil
    | two =>
      rw [ivEvents, Traced.everywhere_cons]
      exact ⟨.iv, Traced.everywhere_nil⟩
  · rw [Traced.everywhere_cons]
    refine ⟨?_, Traced.everywhere_nil⟩
    rw [List.append_nil, List.nil_append]
    exact .token hprompt hagreement hshared hrest

theorem TokenTrace.everywhere {kind : PinRequestKind} {raw : Secret}
    {r : Except WscdError PinUvAuthSession}
    (h : TokenTrace crypto protocol (normalizePin crypto.nfc raw) permission (some rpId) r l)
    (before : List HostEvent) (hprompt : .requestedPinFor "fido2" kind (.ok raw) ∈ before)
    (hrest : ∀ c a, .sentCommand c a ∈ rest → ∃ pinUvAuth, c = command pinUvAuth) :
    Traced.Everywhere
      (fun b e a => Allowed crypto permission rpId message command (before ++ b) e (a ++ rest))
      l := by
  cases h with
  | unagreed =>
    rw [Traced.everywhere_cons, Traced.everywhere_cons]
    exact ⟨.secret, .agreement, Traced.everywhere_nil⟩
  | ungranted hagreement hshared => exact everywhere_exchange hprompt hagreement hshared hrest
  | granted hsession =>
    obtain ⟨secret, agreement, answer, peer, sharedX, iv, tokenEnc, rfl, hagreement, hshared, -⟩ :=
      hsession
    exact everywhere_exchange hprompt hagreement hshared hrest

/-- Normalising keeps a NUL. -/
theorem zero_mem_normalizePin {nfc : String → String} {raw : List UInt8}
    (hnfc : ∀ s : String, Char.ofNat 0 ∈ s.toList → Char.ofNat 0 ∈ (nfc s).toList)
    (h : 0 ∈ raw) : 0 ∈ normalizePin nfc raw := by
  unfold normalizePin
  split
  · rename_i s hs
    rw [← utf8_of_fromUtf8 hs, zero_mem_utf8] at h
    exact (zero_mem_utf8 _).mpr (hnfc s h)
  · exact h

/-- A PIN that is set is none that would be refused. -/
theorem not_locallyRefused_of_validateNewPin {raw : List UInt8} {minLength : Nat} {pin : String}
    (hnfc : ∀ s : String, Char.ofNat 0 ∈ s.toList → Char.ofNat 0 ∈ (crypto.nfc s).toList)
    (h : validateNewPin crypto raw minLength = .ok pin) :
    ¬ LocallyRefused crypto.nfc (.setNewPin minLength) raw := by
  have hnormal := validateNewPin_ok h
  obtain ⟨pinText, hutf8, rfl, hchars, hlong, hshort⟩ := validateNewPin_accepts h
  have hnul : 0 ∉ normalizePin crypto.nfc raw := by rwa [← hnormal, zero_mem_utf8]
  rintro (hraw | hraw | hlength)
  · exact hnul (zero_mem_normalizePin hnfc hraw)
  · exact hnul hraw
  · rw [hutf8] at hlength
    exact hlength.elim (not_lt.mpr hlong) (not_lt.mpr hshort)

theorem allowed_newPrompt {response : List UInt8} {info : AuthenticatorPinInfo} {raw : Secret}
    {pin : String} {after : List HostEvent}
    (hnfc : ∀ s : String, Char.ofNat 0 ∈ s.toList → Char.ofNat 0 ∈ (crypto.nfc s).toList)
    (hinforms : Informs crypto response info) (hstate : info.pinState = .notSet)
    (hpin : validateNewPin crypto raw info.minPinLength = .ok pin) :
    Allowed crypto permission rpId message command [.sentCommand [ctap2GetInfo] (.ok response)]
      (.requestedPinFor "fido2" (.setNewPin info.minPinLength) (.ok raw)) after := by
  have hkind : promptFor info = .setNewPin info.minPinLength := by rw [promptFor, hstate]
  rw [← hkind]
  refine .prompt hinforms ?_
  rintro _ ⟨⟩ hrefused
  rw [hkind] at hrefused
  exact absurd hrefused (not_locallyRefused_of_validateNewPin hnfc hpin)

theorem SetPinTrace.everywhere {response : List UInt8} {info : AuthenticatorPinInfo}
    {raw : Secret} {pin : String} {r : Except WscdError Unit}
    (h : SetPinTrace crypto info.protocol (utf8 pin) r l) (hinforms : Informs crypto response info)
    (hstate : info.pinState = .notSet)
    (hpin : validateNewPin crypto raw info.minPinLength = .ok pin)
    (hrest : ∀ e, r = .error e → rest = []) :
    Traced.Everywhere
      (fun b e a => Allowed crypto permission rpId message command
        ([.sentCommand [ctap2GetInfo] (.ok response),
          .requestedPinFor "fido2" (.setNewPin info.minPinLength) (.ok raw)] ++ b) e (a ++ rest))
      l := by
  cases h with
  | unagreed =>
    rw [Traced.everywhere_cons, Traced.everywhere_cons]
    exact ⟨.secret, .agreement, Traced.everywhere_nil⟩
  | sent hagreement hshared hsuccess =>
    rw [Traced.everywhere_cons, Traced.everywhere_cons, Traced.everywhere_cons,
      Traced.everywhere_cons]
    refine ⟨.secret, .agreement, .iv, ?_, Traced.everywhere_nil⟩
    refine .setPin hinforms hstate hpin hagreement hshared fun hfailed => ?_
    cases r with
    | ok _ => exact absurd (hsuccess rfl) hfailed
    | error e => exact hrest e rfl

theorem AcquireTrace.everywhere {r : Except WscdError PinUvAuthSession}
    (h : AcquireTrace crypto "fido2" permission (some rpId) r l)
    (hnfc : ∀ s : String, Char.ofNat 0 ∈ s.toList → Char.ofNat 0 ∈ (crypto.nfc s).toList)
    (hrest : ∀ c a, .sentCommand c a ∈ rest → ∃ pinUvAuth, c = command pinUvAuth)
    (herror : ∀ e, r = .error e → rest = []) :
    Traced.Everywhere
      (fun b e a => Allowed crypto permission rpId message command b e (a ++ rest)) l := by
  cases h with
  | uninformed =>
    rw [Traced.everywhere_cons]
    exact ⟨.getInfo, Traced.everywhere_nil⟩
  | prompted hinforms =>
    rw [Traced.everywhere_cons, Traced.everywhere_cons]
    exact ⟨.getInfo, .prompt hinforms fun _ _ _ => herror _ rfl, Traced.everywhere_nil⟩
  | @entered response info raw _ l hinforms hkind hnul htoken =>
    rw [Traced.everywhere_cons, Traced.everywhere_cons]
    have hprompt : HostEvent.requestedPinFor "fido2" .enterPin (.ok raw) ∈
        [.sentCommand [ctap2GetInfo] (.ok response),
          .requestedPinFor "fido2" .enterPin (.ok raw)] :=
      List.mem_cons_of_mem _ List.mem_cons_self
    refine ⟨.getInfo, ?_, htoken.everywhere _ hprompt hrest⟩
    rw [← hkind]
    refine .prompt hinforms ?_
    rintro _ ⟨⟩ hrefused
    rw [hkind] at hrefused
    rcases hrefused with hraw | hraw | hfalse
    · exact absurd (zero_mem_normalizePin hnfc hraw) hnul
    · exact absurd hraw hnul
    · exact hfalse.elim
  | @unset response info raw pin _ l hinforms hstate hpin hset =>
    rw [Traced.everywhere_cons, Traced.everywhere_cons]
    refine ⟨.getInfo, ?_, hset.everywhere hinforms hstate hpin fun _ _ => herror _ rfl⟩
    exact allowed_newPrompt hnfc hinforms hstate hpin
  | @chosen response info raw pin _ l₁ l₂ hinforms hstate hpin hset htoken =>
    rw [Traced.everywhere_cons, Traced.everywhere_cons, Traced.everywhere_append]
    have hprompt : HostEvent.requestedPinFor "fido2" (.setNewPin info.minPinLength) (.ok raw) ∈
        [.sentCommand [ctap2GetInfo] (.ok response),
          .requestedPinFor "fido2" (.setNewPin info.minPinLength) (.ok raw)] ++ l₁ :=
      List.mem_append_left _ (List.mem_cons_of_mem _ List.mem_cons_self)
    rw [validateNewPin_ok hpin] at htoken
    refine ⟨.getInfo, allowed_newPrompt hnfc hinforms hstate hpin, ?_,
      htoken.everywhere _ hprompt hrest⟩
    simp only [List.append_assoc]
    exact hset.everywhere hinforms hstate hpin nofun

/-- On a transport that does not verify the user, every event of a ceremony is where it may be. -/
theorem CeremonyTrace.everywhere (h : CeremonyTrace crypto permission rpId message command l)
    (hnfc : ∀ s : String, Char.ofNat 0 ∈ s.toList → Char.ofNat 0 ∈ (crypto.nfc s).toList) :
    Traced.Everywhere (Allowed crypto permission rpId message command) l := by
  cases h with
  | unverified hacquire =>
    have hallowed : Traced.Everywhere
        (fun b e a => Allowed crypto permission rpId message command b e (a ++ [])) l :=
      hacquire.everywhere hnfc nofun fun _ _ => rfl
    simpa only [List.append_nil] using hallowed
  | commanded hacquire hpin =>
    rw [Traced.everywhere_append, Traced.everywhere_cons]
    refine ⟨hacquire.everywhere hnfc ?_ nofun, ?_, Traced.everywhere_nil⟩
    · intro c a hca
      rw [List.mem_singleton] at hca
      cases hca
      exact ⟨_, rfl⟩
    · rw [List.append_nil]
      exact .command hpin

end Allowed

/-! ## What is sent, as an authenticator reads it -/

/-- The subcommand of a ClientPin command. -/
def subcommandOf (cbor : CborCodec) (command : List UInt8) : Option Int :=
  match readParams cbor ctap2ClientPin "ClientPin" command with
  | .ok params => (getValueByInt params 2).bind asInteger
  | .error _ => none

/-- What the log `l` of a ceremony sends: `command` is its command, by the authentication it
carries, over `message`. -/
structure SendsSafely (crypto : CtapCrypto) (permission : UInt8) (rpId : String)
    (message : List UInt8) (command : Option (List UInt8 × Int) → List UInt8)
    (l : List HostEvent) : Prop where
  /-- It starts with a `getInfo`, the only one. -/
  getInfo : ∃ answer rest, l = .sentCommand [ctap2GetInfo] answer :: rest ∧
    ∀ c a, .sentCommand c a ∈ rest → c.head? ≠ some ctap2GetInfo
  /-- The user is asked right after it, for what it calls for, and once. -/
  prompt : ∀ before e after, l = before ++ e :: after → e.isPinRequest = true →
    (∃ response info answer, before = [.sentCommand [ctap2GetInfo] (.ok response)] ∧
      Informs crypto response info ∧ e = .requestedPinFor "fido2" (promptFor info) answer) ∧
      ∀ e' ∈ after, e'.isPinRequest = false
  /-- A PIN that is refused is not sent, nor is anything else. -/
  refused : ∀ kind raw, .requestedPinFor "fido2" kind (.ok raw) ∈ l →
    LocallyRefused crypto.nfc kind raw →
    ∃ answer, l = [.sentCommand [ctap2GetInfo] answer, .requestedPinFor "fido2" kind (.ok raw)]
  /-- No other subcommand is used. -/
  clientPin : ∀ c answer, .sentCommand c answer ∈ l → c.head? = some ctap2ClientPin →
    subcommandOf crypto.cbor c ∈ [some subcmdGetKeyAgreement, some subcmdSetPin,
      some subcmdGetPinUvAuthTokenUsingPinWithPermissions]
  /-- A PIN is set only where the authenticator has said it has none, it is the one that was
  validated, and unless it is taken nothing follows. -/
  setPin : ∀ before c answer after, l = before ++ .sentCommand c answer :: after →
    subcommandOf crypto.cbor c = some subcmdSetPin →
    (∃ (response agreement sharedX iv : List UInt8) (info : AuthenticatorPinInfo) (raw : Secret)
      (pin : String) (secret : SecretKey) (peer : PublicKey),
      before = [.sentCommand [ctap2GetInfo] (.ok response),
        .requestedPinFor "fido2" (.setNewPin info.minPinLength) (.ok raw),
        .generatedSecret secret,
        .sentCommand (keyAgreementCommand crypto info.protocol) (.ok agreement), .drewBytes iv] ∧
      Informs crypto response info ∧ info.pinState = .notSet ∧
      validateNewPin crypto raw info.minPinLength = .ok pin ∧
      parseKeyAgreement crypto agreement = .ok peer ∧ ecdhSharedX crypto secret peer = .ok sharedX ∧
      c = setPinCommand crypto info.protocol (secret.publicKey crypto.p256)
        (setPinFields crypto info.protocol sharedX (utf8 pin) iv).1
        (setPinFields crypto info.protocol sharedX (utf8 pin) iv).2) ∧
    ((∀ body, answer ≠ .ok (0x00 :: body)) → after = []) ∧
    ∀ c' a', .sentCommand c' a' ∈ after → subcommandOf crypto.cbor c' ≠ some subcmdSetPin
  /-- A token is requested for the ceremony, with the hash of the user's PIN under a key agreed
  on for it. Only the ceremony's command follows. -/
  token : ∀ before c answer after, l = before ++ .sentCommand c answer :: after →
    subcommandOf crypto.cbor c = some subcmdGetPinUvAuthTokenUsingPinWithPermissions →
    (∃ (earlier : List HostEvent) (kind : PinRequestKind) (raw : Secret)
      (protocol : PinUvAuthProtocol) (agreement sharedX iv : List UInt8) (secret : SecretKey)
      (peer : PublicKey),
      before = earlier ++ ([.generatedSecret secret,
        .sentCommand (keyAgreementCommand crypto protocol) (.ok agreement)] ++
          ivEvents protocol iv) ∧
      .requestedPinFor "fido2" kind (.ok raw) ∈ earlier ∧
      parseKeyAgreement crypto agreement = .ok peer ∧ ecdhSharedX crypto secret peer = .ok sharedX ∧
      c = tokenCommand crypto protocol (secret.publicKey crypto.p256)
        (encrypt crypto protocol (deriveAesKey crypto protocol sharedX)
          (pinHash crypto (normalizePin crypto.nfc raw)) iv) permission (some rpId)) ∧
    ∀ c' a', .sentCommand c' a' ∈ after → ∃ pinUvAuth, c' = command pinUvAuth
  /-- Anything else is the ceremony's command, which comes last, authenticated with the token
  of the exchange before it. -/
  command : ∀ before c answer after, l = before ++ .sentCommand c answer :: after →
    c.head? ≠ some ctap2GetInfo → c.head? ≠ some ctap2ClientPin →
    after = [] ∧ ∃ session raw,
      PinTokenFor crypto "fido2" permission (some rpId) session raw before ∧
      c = command (some (session.authenticate crypto.kdf message, session.protocol.asInt))

section Safety

variable {crypto : CtapCrypto} {permission : UInt8} {rpId : String} {message : List UInt8}
  {command : Option (List UInt8 × Int) → List UInt8} {before after l : List HostEvent}
  {c : List UInt8} {answer : Except WscdError (List UInt8)}

theorem head?_encodeCommand_ne {cbor : CborCodec} {code other : UInt8} (hne : code ≠ other)
    (params : Cbor) : (encodeCommand cbor code params).head? ≠ some other := by
  simpa [encodeCommand] using hne

theorem subcommandOf_clientPin {cbor : CborCodec} (hcbor : cbor.Lawful)
    {params : List (Cbor × Cbor)} (hparams : (Cbor.map params).Writable) :
    subcommandOf cbor (encodeCommand cbor ctap2ClientPin (.map params)) =
      (getValueByInt params 2).bind asInteger := by
  rw [subcommandOf, readParams_encodeCommand hcbor _ _ hparams]

theorem subcommandOf_other {cbor : CborCodec} (hc : c.head? ≠ some ctap2ClientPin) :
    subcommandOf cbor c = none := by
  rw [subcommandOf, readParams, if_pos hc]

theorem subcommandOf_keyAgreement (hcbor : crypto.cbor.Lawful) (protocol : PinUvAuthProtocol) :
    subcommandOf crypto.cbor (keyAgreementCommand crypto protocol) = some subcmdGetKeyAgreement :=
  (subcommandOf_clientPin hcbor (writable_subcommandParams protocol (by decide))).trans
    (by simp [subcommandParams, asInteger])

theorem subcommandOf_setPin (hcbor : crypto.cbor.Lawful) (protocol : PinUvAuthProtocol)
    (platform : PublicKey) (newPinEnc param : List UInt8) :
    subcommandOf crypto.cbor (setPinCommand crypto protocol platform newPinEnc param) =
      some subcmdSetPin :=
  (subcommandOf_clientPin hcbor
    (writable_setPinParams protocol platform newPinEnc param)).trans
    (by simp [subcommandParams, asInteger])

theorem subcommandOf_token (hcbor : crypto.cbor.Lawful) (protocol : PinUvAuthProtocol)
    (platform : PublicKey) (pinHashEnc : List UInt8) (permissions : UInt8)
    (rpId : Option String) :
    subcommandOf crypto.cbor
        (tokenCommand crypto protocol platform pinHashEnc permissions rpId) =
      some subcmdGetPinUvAuthTokenUsingPinWithPermissions :=
  (subcommandOf_clientPin hcbor
    (writable_tokenParams protocol platform pinHashEnc permissions rpId)).trans
    (by simp [subcommandParams, asInteger])

/-- A status other than success is an error. -/
theorem splitClientPinStatus_ok {response body : List UInt8}
    (h : splitClientPinStatus response = .ok body) : response = 0x00 :: body := by
  unfold splitClientPinStatus at h
  split at h
  · cases h
  · cases h
  · cases h
  · cases h
  · cases h
  · unfold splitStatus at h
    split at h
    · cases h
    · split at h
      · cases h
      · rename_i hstatus
        cases h
        rw [not_not.mp hstatus]

theorem CeremonyTrace.getInfo_first (h : CeremonyTrace crypto permission rpId message command l) :
    ∃ answer rest, l = .sentCommand [ctap2GetInfo] answer :: rest := by
  cases h with
  | unverified hacquire => cases hacquire <;> exact ⟨_, _, rfl⟩
  | commanded hacquire _ => cases hacquire <;> exact ⟨_, _, rfl⟩

theorem Allowed.before_prompt {e : HostEvent}
    (h : Allowed crypto permission rpId message command before e after)
    (he : e.isPinRequest = true) :
    ∃ response info answer, before = [.sentCommand [ctap2GetInfo] (.ok response)] ∧
      Informs crypto response info ∧ e = .requestedPinFor "fido2" (promptFor info) answer := by
  cases h with
  | prompt hinforms _ => exact ⟨_, _, _, rfl, hinforms, rfl⟩
  | _ => cases he

theorem Allowed.after_refused {kind : PinRequestKind} {raw : Secret}
    (h : Allowed crypto permission rpId message command before
      (.requestedPinFor "fido2" kind (.ok raw)) after)
    (hrefused : LocallyRefused crypto.nfc kind raw) : after = [] := by
  cases h with
  | prompt _ hafter => exact hafter raw rfl hrefused

section Sent

variable (h : Allowed crypto permission rpId message command before (.sentCommand c answer) after)
  (hcommand : ∀ p, (command p).head? ≠ some ctap2GetInfo ∧ (command p).head? ≠ some ctap2ClientPin)

include h hcommand

theorem Allowed.before_getInfo (hc : c.head? = some ctap2GetInfo) : before = [] := by
  cases h with
  | getInfo => rfl
  | command _ => exact absurd hc (hcommand _).1
  | _ => exact absurd hc (head?_encodeCommand_ne (by decide) _)

theorem Allowed.subcommandOf_mem (hcbor : crypto.cbor.Lawful)
    (hc : c.head? = some ctap2ClientPin) :
    subcommandOf crypto.cbor c ∈ [some subcmdGetKeyAgreement, some subcmdSetPin,
      some subcmdGetPinUvAuthTokenUsingPinWithPermissions] := by
  cases h with
  | getInfo => exact absurd hc (by decide)
  | agreement => simp [subcommandOf_keyAgreement hcbor]
  | setPin _ _ _ _ _ _ => simp [subcommandOf_setPin hcbor]
  | token _ _ _ _ => simp [subcommandOf_token hcbor]
  | command _ => exact absurd hc (hcommand _).2

/-- What stands before a setPIN, and when something stands after it. -/
theorem Allowed.around_setPin (hcbor : crypto.cbor.Lawful)
    (hc : subcommandOf crypto.cbor c = some subcmdSetPin) :
    (∃ (response agreement sharedX iv : List UInt8) (info : AuthenticatorPinInfo) (raw : Secret)
      (pin : String) (secret : SecretKey) (peer : PublicKey),
      before = [.sentCommand [ctap2GetInfo] (.ok response),
        .requestedPinFor "fido2" (.setNewPin info.minPinLength) (.ok raw),
        .generatedSecret secret,
        .sentCommand (keyAgreementCommand crypto info.protocol) (.ok agreement), .drewBytes iv] ∧
      Informs crypto response info ∧ info.pinState = .notSet ∧
      validateNewPin crypto raw info.minPinLength = .ok pin ∧
      parseKeyAgreement crypto agreement = .ok peer ∧ ecdhSharedX crypto secret peer = .ok sharedX ∧
      c = setPinCommand crypto info.protocol (secret.publicKey crypto.p256)
        (setPinFields crypto info.protocol sharedX (utf8 pin) iv).1
        (setPinFields crypto info.protocol sharedX (utf8 pin) iv).2) ∧
    ((∀ body, answer ≠ .ok (0x00 :: body)) → after = []) := by
  cases h with
  | getInfo =>
    rw [subcommandOf_other (by decide)] at hc
    cases hc
  | agreement =>
    rw [subcommandOf_keyAgreement hcbor] at hc
    cases hc
  | setPin hinforms hstate hpin hagreement hshared hsuccess =>
    refine ⟨⟨_, _, _, _, _, _, _, _, _, rfl, hinforms, hstate, hpin, hagreement, hshared, rfl⟩,
      fun hfailed => hsuccess ?_⟩
    rintro ⟨body, hbody⟩
    cases answer with
    | error e => cases hbody
    | ok response => exact hfailed body (congrArg Except.ok (splitClientPinStatus_ok hbody))
  | token _ _ _ _ =>
    rw [subcommandOf_token hcbor] at hc
    cases hc
  | command _ =>
    rw [subcommandOf_other (hcommand _).2] at hc
    cases hc

/-- What stands before a token request, and what may stand after it. -/
theorem Allowed.around_token (hcbor : crypto.cbor.Lawful)
    (hc : subcommandOf crypto.cbor c = some subcmdGetPinUvAuthTokenUsingPinWithPermissions) :
    (∃ (earlier : List HostEvent) (kind : PinRequestKind) (raw : Secret)
      (protocol : PinUvAuthProtocol) (agreement sharedX iv : List UInt8) (secret : SecretKey)
      (peer : PublicKey),
      before = earlier ++ ([.generatedSecret secret,
        .sentCommand (keyAgreementCommand crypto protocol) (.ok agreement)] ++
          ivEvents protocol iv) ∧
      .requestedPinFor "fido2" kind (.ok raw) ∈ earlier ∧
      parseKeyAgreement crypto agreement = .ok peer ∧ ecdhSharedX crypto secret peer = .ok sharedX ∧
      c = tokenCommand crypto protocol (secret.publicKey crypto.p256)
        (encrypt crypto protocol (deriveAesKey crypto protocol sharedX)
          (pinHash crypto (normalizePin crypto.nfc raw)) iv) permission (some rpId)) ∧
    ∀ c' a', .sentCommand c' a' ∈ after → ∃ pinUvAuth, c' = command pinUvAuth := by
  cases h with
  | getInfo =>
    rw [subcommandOf_other (by decide)] at hc
    cases hc
  | agreement =>
    rw [subcommandOf_keyAgreement hcbor] at hc
    cases hc
  | setPin _ _ _ _ _ _ =>
    rw [subcommandOf_setPin hcbor] at hc
    cases hc
  | token hprompt hagreement hshared hafter =>
    exact ⟨⟨_, _, _, _, _, _, _, _, _, rfl, hprompt, hagreement, hshared, rfl⟩, hafter⟩
  | command _ =>
    rw [subcommandOf_other (hcommand _).2] at hc
    cases hc

omit hcommand in
theorem Allowed.around_command (hinfo : c.head? ≠ some ctap2GetInfo)
    (hpin : c.head? ≠ some ctap2ClientPin) :
    after = [] ∧ ∃ session raw,
      PinTokenFor crypto "fido2" permission (some rpId) session raw before ∧
      c = command (some (session.authenticate crypto.kdf message, session.protocol.asInt)) := by
  cases h with
  | getInfo => exact absurd rfl hinfo
  | command hsession => exact ⟨rfl, _, _, hsession, rfl⟩
  | _ => exact absurd rfl hpin

end Sent

theorem CeremonyTrace.sendsSafely (h : CeremonyTrace crypto permission rpId message command l)
    (hcbor : crypto.cbor.Lawful)
    (hnfc : ∀ s : String, Char.ofNat 0 ∈ s.toList → Char.ofNat 0 ∈ (crypto.nfc s).toList)
    (hcommand : ∀ p,
      (command p).head? ≠ some ctap2GetInfo ∧ (command p).head? ≠ some ctap2ClientPin) :
    SendsSafely crypto permission rpId message command l where
  getInfo := by
    obtain ⟨answer, rest, rfl⟩ := h.getInfo_first
    refine ⟨answer, rest, rfl, fun c a hca hc => ?_⟩
    obtain ⟨before, after, rfl⟩ := List.append_of_mem hca
    have hfirst := (h.everywhere hnfc (_ :: before) _ after rfl).before_getInfo hcommand hc
    cases hfirst
  prompt before e after hl he := by
    have hbefore := (h.everywhere hnfc before e after hl).before_prompt he
    refine ⟨hbefore, fun e' he' => ?_⟩
    obtain ⟨between, after', rfl⟩ := List.append_of_mem he'
    cases hprompt : e'.isPinRequest with
    | false => rfl
    | true =>
      -- there is one event before each of the two
      obtain ⟨_, _, _, hbefore', -⟩ := (h.everywhere hnfc (before ++ e :: between) e' after'
        (by rw [hl, List.append_assoc, List.cons_append])).before_prompt hprompt
      obtain ⟨_, _, _, hbefore, -⟩ := hbefore
      have hlength := congrArg List.length hbefore'
      rw [hbefore] at hlength
      simp at hlength
  refused kind raw hmem hrefused := by
    obtain ⟨before, after, hl⟩ := List.append_of_mem hmem
    have hallowed := h.everywhere hnfc before _ after hl
    obtain ⟨response, _, _, hbefore, -⟩ := hallowed.before_prompt rfl
    rw [hbefore, hallowed.after_refused hrefused] at hl
    exact ⟨_, hl⟩
  clientPin c answer hmem hc := by
    obtain ⟨before, after, hl⟩ := List.append_of_mem hmem
    exact (h.everywhere hnfc before _ after hl).subcommandOf_mem hcommand hcbor hc
  setPin before c answer after hl hc := by
    obtain ⟨hbefore, hafter⟩ :=
      (h.everywhere hnfc before _ after hl).around_setPin hcommand hcbor hc
    refine ⟨hbefore, hafter, fun c' a' hmem hc' => ?_⟩
    obtain ⟨between, after', rfl⟩ := List.append_of_mem hmem
    -- there are five events before each of the two
    obtain ⟨⟨_, _, _, _, _, _, _, _, _, hbefore', -⟩, -⟩ :=
      (h.everywhere hnfc (before ++ .sentCommand c answer :: between) _ after'
        (by rw [hl, List.append_assoc, List.cons_append])).around_setPin hcommand hcbor hc'
    obtain ⟨_, _, _, _, _, _, _, _, _, hbefore, -⟩ := hbefore
    have hlength := congrArg List.length hbefore'
    rw [hbefore] at hlength
    simp at hlength
  token before c answer after hl hc :=
    (h.everywhere hnfc before _ after hl).around_token hcommand hcbor hc
  command before c answer after hl hinfo hpin :=
    (h.everywhere hnfc before _ after hl).around_command hinfo hpin

end Safety

/-- Whatever the authenticator answers, whatever the user does. That the normal form of a text
keeps its NULs is all that is asked of the normalisation. The ClientPin commands named in the traces
are said last, entry by entry. -/
theorem ceremonies_send_safely (crypto : CtapCrypto) (hcbor : crypto.cbor.Lawful)
    (hnfc : ∀ s : String, Char.ofNat 0 ∈ s.toList → Char.ofNat 0 ∈ (crypto.nfc s).toList)
    (transport : Ctap2Transport W) (rng : Rng W) (auth : AuthCallback W) (w w' : W)
    (hverifies : transport.performsUserVerification w = false) (rpId : String)
    (l : List HostEvent) :
    (∀ userId clientDataHash generateKey r,
      makeCredential crypto transport rng auth rpId userId clientDataHash generateKey w =
        (r, w', l) →
      SendsSafely crypto permissionMakeCredential rpId clientDataHash
        (buildMakeCredentialRequest crypto.cbor rpId userId clientDataHash generateKey) l) ∧
    (∀ challenge credentialId sign r,
      getAssertion crypto transport rng auth rpId challenge credentialId sign w = (r, w', l) →
      SendsSafely crypto permissionGetAssertion rpId challenge
        (buildGetAssertionRequest crypto.cbor rpId challenge credentialId sign) l) ∧
    ∀ (protocol : PinUvAuthProtocol) (platform : PublicKey),
      let version : Cbor := .integer (match protocol with | .one => 1 | .two => 2)
      let coseKey : Cbor := .map [(.integer 1, .integer 2), (.integer 3, .integer (-25)),
        (.integer (-1), .integer 1), (.integer (-2), .bytes platform.x),
        (.integer (-3), .bytes platform.y)]
      keyAgreementCommand crypto protocol = 0x06 :: crypto.cbor.intoWriter
        (.map [(.integer 1, version), (.integer 2, .integer 2)]) ∧
      (∀ newPinEnc pinUvAuthParam, setPinCommand crypto protocol platform newPinEnc pinUvAuthParam =
        0x06 :: crypto.cbor.intoWriter (.map [(.integer 1, version), (.integer 2, .integer 3),
          (.integer 3, coseKey), (.integer 4, .bytes pinUvAuthParam),
          (.integer 5, .bytes newPinEnc)])) ∧
      ∀ pinHashEnc,
        tokenCommand crypto protocol platform pinHashEnc permissionMakeCredential (some rpId) =
          0x06 :: crypto.cbor.intoWriter (.map [(.integer 1, version), (.integer 2, .integer 9),
            (.integer 3, coseKey), (.integer 6, .bytes pinHashEnc), (.integer 9, .integer 1),
            (.integer 10, .text rpId)]) ∧
        tokenCommand crypto protocol platform pinHashEnc permissionGetAssertion (some rpId) =
          0x06 :: crypto.cbor.intoWriter (.map [(.integer 1, version), (.integer 2, .integer 9),
            (.integer 3, coseKey), (.integer 6, .bytes pinHashEnc), (.integer 9, .integer 2),
            (.integer 10, .text rpId)]) := by
  refine ⟨?_, ?_, fun protocol platform => ?_⟩
  · intro userId clientDataHash generateKey r h
    exact (ceremony_cases hverifies h).sendsSafely hcbor hnfc fun _ =>
      ⟨head?_encodeCommand_ne (by decide) _, head?_encodeCommand_ne (by decide) _⟩
  · intro challenge credentialId sign r h
    exact (ceremony_cases hverifies h).sendsSafely hcbor hnfc fun _ =>
      ⟨head?_encodeCommand_ne (by decide) _, head?_encodeCommand_ne (by decide) _⟩
  · cases protocol <;> exact ⟨rfl, fun _ _ => rfl, fun _ => ⟨rfl, rfl⟩⟩

/-! ## A PIN with a NUL -/

namespace TraceDemo

/-- The information of an authenticator that has no PIN. -/
def info : List UInt8 :=
  cborWire.intoWriter (.map [(.integer 4, .map [(.text "clientPin", .bool false)])])

def transport : Ctap2Transport Unit := ⟨fun _ w => (.ok (0x00 :: info), w), fun _ => false⟩

def rng : Rng Unit :=
  ⟨fun n w => (List.replicate n 0, w), fun w => (⟨1, Arkg.scalar_one_ne_zero⟩, w),
    Rng.length_zeros⟩

def auth : AuthCallback Unit :=
  ⟨fun _ w => (.error .authCancelled, w), fun _ _ w => (.ok [49, 50, 51, 0], w),
    fun _ _ _ _ w => (.error .authCancelled, w)⟩

end TraceDemo

open TraceDemo in
theorem ceremonies_send_safely_refused :
    SendsSafely scalarCrypto permissionMakeCredential "rp" [2]
      (buildMakeCredentialRequest cborWire "rp" [1] [2] ⟨[]⟩)
      [.sentCommand [ctap2GetInfo] (.ok (0x00 :: info)),
        .requestedPinFor "fido2" (.setNewPin 4) (.ok [49, 50, 51, 0])] :=
  (ceremonies_send_safely scalarCrypto cborWire_lawful (fun _ h => h) transport rng auth () ()
    rfl "rp" _).1 [1] [2] ⟨[]⟩ (.error (.pin .invalidEncoding)) rfl

end Wscd.PreviewSign
