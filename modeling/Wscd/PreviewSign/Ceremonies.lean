import Wscd.PreviewSign.Requests
import Wscd.PreviewSign.Responses

/-!
# The two previewSign ceremonies

A command to the authenticator, with proof of user verification in front where the transport
does not verify the user itself.

Results:
1. `ceremonyPinUvAuth_ok`: either the transport verifies users and nothing was asked, or one
   PIN was turned into the token that authenticates the command.
2. `makeCredential_ok`, `getAssertion_ok`: the command a successful ceremony has sent, and its
   answer.
3. `makeCredential_of_verifying`, `getAssertion_of_verifying`: on a transport that verifies users
   a ceremony is one command.
-/

namespace Wscd.PreviewSign

open Lib ClientPin

variable {W : Type}

section Definitions

variable (crypto : CtapCrypto) (transport : Ctap2Transport W) (rng : Rng W)
  (auth : AuthCallback W)

/-- The authentication of a command over `message`; none on a transport that verifies users. -/
def ceremonyPinUvAuth (permission : UInt8) (rpId : String) (message : List UInt8) :
    HostM W (Option (List UInt8 × Int)) := do
  if ← Traced.get transport.performsUserVerification then return none
  else
    let session ← acquirePinUvAuthToken crypto transport rng auth "fido2" permission (some rpId)
    return some (session.authenticate crypto.kdf message, session.protocol.asInt)

/-- A `generateKey` ceremony. -/
def makeCredential (rpId : String) (userId clientDataHash : List UInt8)
    (generateKey : GenerateKeyInput) : HostM W MakeCredentialResult := do
  let pinUvAuth ←
    ceremonyPinUvAuth crypto transport rng auth permissionMakeCredential rpId clientDataHash
  let response ← HostM.sendCommand transport
    (buildMakeCredentialRequest crypto.cbor rpId userId clientDataHash generateKey pinUvAuth)
  Traced.lift (parseMakeCredentialResponse crypto.cbor response)

/-- A `signByCredential` ceremony. -/
def getAssertion (rpId : String) (challenge credentialId : List UInt8) (sign : SignInput) :
    HostM W SignResult := do
  let pinUvAuth ←
    ceremonyPinUvAuth crypto transport rng auth permissionGetAssertion rpId challenge
  let response ← HostM.sendCommand transport
    (buildGetAssertionRequest crypto.cbor rpId challenge credentialId sign pinUvAuth)
  Traced.lift (parseGetAssertionResponse crypto.cbor response)

end Definitions

variable {crypto : CtapCrypto} {transport : Ctap2Transport W} {rng : Rng W}
  {auth : AuthCallback W} {w w' : W} {l : List HostEvent}

/-- How a command came by its authentication: from one PIN, or not at all. -/
inductive Verified (crypto : CtapCrypto) (permission : UInt8) (rpId : String)
    (message : List UInt8) : Option (List UInt8 × Int) → List HostEvent → Prop where
  | byTransport : Verified crypto permission rpId message none []
  | byPin {session : PinUvAuthSession} {raw : Secret} {l : List HostEvent} :
      PinTokenFor crypto "fido2" permission (some rpId) session raw l →
      Verified crypto permission rpId message
        (some (session.authenticate crypto.kdf message, session.protocol.asInt)) l

/-- The protocol of a session is a number a command can carry. -/
theorem isI64_ofSession (session : PinUvAuthSession) (param : List UInt8) :
    ∀ p ∈ some (param, session.protocol.asInt), Cbor.IsI64 p.2 := by
  rintro _ ⟨⟩
  exact isI64_asInt session.protocol

theorem Verified.isI64 {permission : UInt8} {rpId : String} {message : List UInt8}
    {pinUvAuth : Option (List UInt8 × Int)}
    (h : Verified crypto permission rpId message pinUvAuth l) :
    ∀ p ∈ pinUvAuth, Cbor.IsI64 p.2 := by
  cases h with
  | byTransport => nofun
  | @byPin session _ _ _ => exact isI64_ofSession session _

theorem ceremonyPinUvAuth_ok {permission : UInt8} {rpId : String} {message : List UInt8}
    {pinUvAuth : Option (List UInt8 × Int)}
    (h : ceremonyPinUvAuth crypto transport rng auth permission rpId message w =
      (.ok pinUvAuth, w', l)) :
    Verified crypto permission rpId message pinUvAuth l ∧
      (transport.performsUserVerification w = true ↔ pinUvAuth = none) := by
  unfold ceremonyPinUvAuth at h
  obtain ⟨verifies, w₁, l₁, l₂, hget, h₁, rfl⟩ := Traced.bind_ok_iff.mp h
  obtain ⟨rfl, rfl, rfl⟩ := Traced.get_ok_iff.mp hget
  split at h₁
  · rename_i hverifies
    obtain ⟨rfl, rfl, rfl⟩ := Traced.pure_ok_iff.mp h₁
    exact ⟨.byTransport, by simp [hverifies]⟩
  · rename_i hverifies
    obtain ⟨session, w₂, l₃, l₄, hacquire, h₂, rfl⟩ := Traced.bind_ok_iff.mp h₁
    obtain ⟨rfl, rfl, rfl⟩ := Traced.pure_ok_iff.mp h₂
    obtain ⟨raw, hraw⟩ := acquirePinUvAuthToken_ok hacquire
    rw [List.nil_append, List.append_nil]
    exact ⟨.byPin hraw, by simp [hverifies]⟩

theorem makeCredential_ok {rpId : String} {userId clientDataHash : List UInt8}
    {generateKey : GenerateKeyInput} {r : MakeCredentialResult}
    (h : makeCredential crypto transport rng auth rpId userId clientDataHash generateKey w =
      (.ok r, w', l)) :
    ∃ pinUvAuth exchange response,
      l = exchange ++ [.sentCommand (buildMakeCredentialRequest crypto.cbor rpId userId
        clientDataHash generateKey pinUvAuth) (.ok response)] ∧
      Verified crypto permissionMakeCredential rpId clientDataHash pinUvAuth exchange ∧
      parseMakeCredentialResponse crypto.cbor response = .ok r := by
  unfold makeCredential at h
  obtain ⟨pinUvAuth, w₁, l₁, l₂, hauth, h₁, rfl⟩ := Traced.bind_ok_iff.mp h
  obtain ⟨response, w₂, l₃, l₄, hsend, h₂, rfl⟩ := Traced.bind_ok_iff.mp h₁
  obtain ⟨-, rfl⟩ := Traced.ask_ok_iff.mp hsend
  obtain ⟨hparse, -, rfl⟩ := Traced.lift_ok_iff.mp h₂
  exact ⟨pinUvAuth, l₁, response, by rw [List.append_nil], (ceremonyPinUvAuth_ok hauth).1, hparse⟩

theorem getAssertion_ok {rpId : String} {challenge credentialId : List UInt8} {sign : SignInput}
    {r : SignResult}
    (h : getAssertion crypto transport rng auth rpId challenge credentialId sign w =
      (.ok r, w', l)) :
    ∃ pinUvAuth exchange response,
      l = exchange ++ [.sentCommand
        (buildGetAssertionRequest crypto.cbor rpId challenge credentialId sign pinUvAuth)
        (.ok response)] ∧
      Verified crypto permissionGetAssertion rpId challenge pinUvAuth exchange ∧
      (transport.performsUserVerification w = true ↔ pinUvAuth = none) ∧
      parseGetAssertionResponse crypto.cbor response = .ok r := by
  unfold getAssertion at h
  obtain ⟨pinUvAuth, w₁, l₁, l₂, hauth, h₁, rfl⟩ := Traced.bind_ok_iff.mp h
  obtain ⟨response, w₂, l₃, l₄, hsend, h₂, rfl⟩ := Traced.bind_ok_iff.mp h₁
  obtain ⟨-, rfl⟩ := Traced.ask_ok_iff.mp hsend
  obtain ⟨hparse, -, rfl⟩ := Traced.lift_ok_iff.mp h₂
  obtain ⟨hverified, hverifies⟩ := ceremonyPinUvAuth_ok hauth
  exact ⟨pinUvAuth, l₁, response, by rw [List.append_nil], hverified, hverifies, hparse⟩

/-! ## On a transport that verifies users -/

section Verifying

variable {crypto : CtapCrypto} {transport : Ctap2Transport W} {rng : Rng W}
  {auth : AuthCallback W} {w : W}

theorem ceremonyPinUvAuth_of_verifying (h : transport.performsUserVerification w = true)
    (permission : UInt8) (rpId : String) (message : List UInt8) :
    ceremonyPinUvAuth crypto transport rng auth permission rpId message w = (.ok none, w, []) := by
  have hget : (Traced.get transport.performsUserVerification : HostM W Bool) w =
      (.ok true, w, []) := by
    rw [← h]
    rfl
  exact Traced.bind_of_ok hget rfl

/-- A command and what is made of its answer. -/
theorem sendCommand_bind_lift {α : Type} (command : List UInt8)
    (parse : List UInt8 → Except WscdError α) :
    (HostM.sendCommand transport command >>= fun response => Traced.lift (parse response)) w =
      ((transport.ctap2SendCommand command w).1.bind parse,
        (transport.ctap2SendCommand command w).2,
        [.sentCommand command (transport.ctap2SendCommand command w).1]) := by
  have hsend : HostM.sendCommand transport command w =
      ((transport.ctap2SendCommand command w).1, (transport.ctap2SendCommand command w).2,
        [.sentCommand command (transport.ctap2SendCommand command w).1]) := rfl
  rcases hanswer : transport.ctap2SendCommand command w with ⟨e | response, w'⟩
  · rw [hanswer] at hsend
    exact Traced.bind_of_error hsend
  · rw [hanswer] at hsend
    exact Traced.bind_of_ok hsend rfl

theorem makeCredential_of_verifying (h : transport.performsUserVerification w = true)
    (rpId : String) (userId clientDataHash : List UInt8) (generateKey : GenerateKeyInput) :
    let command :=
      buildMakeCredentialRequest crypto.cbor rpId userId clientDataHash generateKey none
    makeCredential crypto transport rng auth rpId userId clientDataHash generateKey w =
      ((transport.ctap2SendCommand command w).1.bind (parseMakeCredentialResponse crypto.cbor),
        (transport.ctap2SendCommand command w).2,
        [.sentCommand command (transport.ctap2SendCommand command w).1]) := by
  intro command
  unfold makeCredential
  exact Traced.bind_of_ok (ceremonyPinUvAuth_of_verifying h _ _ _)
    (sendCommand_bind_lift command (parseMakeCredentialResponse crypto.cbor))

theorem getAssertion_of_verifying (h : transport.performsUserVerification w = true)
    (rpId : String) (challenge credentialId : List UInt8) (sign : SignInput) :
    let command := buildGetAssertionRequest crypto.cbor rpId challenge credentialId sign none
    getAssertion crypto transport rng auth rpId challenge credentialId sign w =
      ((transport.ctap2SendCommand command w).1.bind (parseGetAssertionResponse crypto.cbor),
        (transport.ctap2SendCommand command w).2,
        [.sentCommand command (transport.ctap2SendCommand command w).1]) := by
  intro command
  unfold getAssertion
  exact Traced.bind_of_ok (ceremonyPinUvAuth_of_verifying h _ _ _)
    (sendCommand_bind_lift command (parseGetAssertionResponse crypto.cbor))

end Verifying

end Wscd.PreviewSign
