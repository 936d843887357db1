import Wscd.Plugins.Fido2
import Wscd.PreviewSign.Ceremonies

/-!
# Signing with the fido2 plugin

A signature is a `signByCredential` ceremony with the authenticator. The stored key's own
algorithm says how: P-256 data is hashed and the answer comes DER-encoded, a BBS key binding
message is signed as it is.

Results:
1. `signInner_ok`: what a successful signature has sent, and how its answer was decoded.
-/

namespace Wscd

open Lib PreviewSign ClientPin

structure Fido2SignCrypto extends CtapCrypto where
  /-- `ecdsa::Signature::from_der`, as `r || s` -/
  signatureFromDer : List UInt8 → Except String (List UInt8)

/-- What surrounds a call of the plugin: the plugin as its lock shows it at the moment, the
transport, the random numbers and the progress callback. -/
structure Fido2Host (W : Type) where
  plugin : W → Fido2SignPlugin
  transport : Ctap2Transport W
  rng : Rng W
  progress : ProgressCallback W

variable {W : Type}

def Fido2Host.beside {T : Type} (host : Fido2Host W) : Fido2Host (W × T) where
  plugin w := host.plugin w.1
  transport := host.transport.beside
  rng := host.rng.beside
  progress := host.progress.beside

namespace Fido2SignPlugin

open Fido2

/-- The relying party of the plugin's credentials. -/
def rawSignRpId : String := "siros.wscd.preview-sign"

variable (crypto : Fido2SignCrypto)

def derSignatureToRaw (der : List UInt8) : Except WscdError (List UInt8) :=
  match crypto.signatureFromDer der with
  | .ok raw => .ok raw
  | .error e => .error (.crypto s!"invalid DER signature from authenticator: {e}")

def validateBls12381SchnorrSignature (sig : List UInt8) : Except WscdError (List UInt8) :=
  if sig.length ≠ bls12381SchnorrSignatureLen then
    .error (.crypto (s!"BLS12-381 Schnorr signature is {sig.length} octets, " ++
      s!"expected {bls12381SchnorrSignatureLen}"))
  else .ok sig

/-- The message handed to the authenticator. -/
def toBeSigned (algorithm : Algorithm) (data : List UInt8) : Except WscdError (List UInt8) :=
  if algorithm.signsPrehashedInput then
    if data.length ≠ bls12381KeybindTbsLen then
      .error (.crypto (s!"key binding message is {data.length} octets, expected exactly " ++
        s!"{bls12381KeybindTbsLen}; the authenticator's own ceiling is " ++
        s!"{previewSignMaxTbsLen} octets, but anything that is not the challenge produces a " ++
        "signature that fails verification later with no diagnostic"))
    else .ok data
  else .ok (crypto.kdf.sha256 data)

/-- The signature in the answer of the authenticator. -/
def decodeSignature (algorithm : Algorithm) (signature : List UInt8) :
    Except WscdError (List UInt8) :=
  if algorithm.signsPrehashedInput then validateBls12381SchnorrSignature signature
  else derSignatureToRaw crypto signature

/-- The request for a signature by a stored key. The authenticator needs the ARKG key handle
and context to derive the private key; a key that is not derived takes none. -/
def signInput (key : StoredFidoKey) (tbs : List UInt8) : SignInput where
  keyHandle := key.keyHandle
  tbs := tbs
  additionalArgs := key.arkgKhAndCtx.map fun (kh, ctx) =>
    Arkg.encodeArkgSignArgs crypto.cbor arkgP256Esp256 kh ctx

/-- The signature, whether the assertion carried the user verified flag, and the factor the
transport derived. -/
def signInner (host : Fido2Host W) (auth : AuthCallback W) (kid : KeyId) (data : List UInt8) :
    HostM W (Signature × Bool × Option AuthFactor) := do
  HostM.onProgress host.progress (.started "sign")
  let self ← Traced.get host.plugin
  let key ← Traced.lift (self.findKey kid)
  HostM.onProgress host.progress .waitingForUser
  let challenge ← HostM.randomBytes host.rng 32
  let tbs ← Traced.lift (toBeSigned crypto (keyAlgorithm key) data)
  let result ← getAssertion crypto.toCtapCrypto host.transport host.rng auth rawSignRpId challenge
    key.credentialId (signInput crypto key tbs)
  HostM.onProgress host.progress .complete
  let signature ← Traced.lift (decodeSignature crypto (keyAlgorithm key) result.signature)
  return (⟨signature⟩, result.userVerified, result.verifiedFactor)

def sign (host : Fido2Host W) (auth : AuthCallback W) (kid : KeyId) (data : List UInt8) :
    HostM W Signature := do
  let (signature, _, _) ← signInner crypto host auth kid data
  return signature

/-- A verification factor is claimed only for an assertion that confirms user verification. -/
def signWithFactors (host : Fido2Host W) (auth : AuthCallback W) (kid : KeyId)
    (data : List UInt8) (options : SignOptions) : HostM W SignOutcome := do
  Traced.lift options.validate
  let verifies ← Traced.get host.transport.performsUserVerification
  if options.requireFreshUserAuthentication && verifies then
    Traced.lift (.error (.unsupported id
      ("require_fresh_user_authentication on a transport that performs " ++
        "user verification itself")))
  else
    let ((signature, userVerified, verifiedFactor), pins) ← Traced.withLocal []
      (signInner crypto host.beside (recordingAuth crypto.nfc auth) kid data)
    let verifies ← Traced.get host.transport.performsUserVerification
    let factors :=
      if userVerified then
        deriveFactors "key_in_local_external_wscd" pins.getLast? verifies verifiedFactor options
          ("no PIN was requested for this sign and the transport did not perform " ++
            "user verification")
      else
        deriveFactors "key_in_local_external_wscd" none false none options
          "the assertion did not carry the user-verified flag"
    return ⟨signature, factors⟩

variable {crypto} {host : Fido2Host W} {auth : AuthCallback W} {kid : KeyId} {data : List UInt8}
  {w w' : W} {l : List HostEvent}

/-- The log of a signature: the challenge, what verified the user, and the assertion `r`. -/
def Asserted (crypto : Fido2SignCrypto) (key : StoredFidoKey) (tbs : List UInt8)
    (pinUvAuth : Option (List UInt8 × Int)) (r : SignResult) (l : List HostEvent) : Prop :=
  ∃ challenge exchange response,
    l = .drewBytes challenge :: (exchange ++ [.sentCommand
      (buildGetAssertionRequest crypto.cbor rawSignRpId challenge key.credentialId
        (signInput crypto key tbs) pinUvAuth) (.ok response)]) ∧
    Verified crypto.toCtapCrypto permissionGetAssertion rawSignRpId challenge pinUvAuth exchange ∧
    parseGetAssertionResponse crypto.cbor response = .ok r

theorem signInner_ok {signature : Signature} {userVerified : Bool}
    {verifiedFactor : Option AuthFactor}
    (h : signInner crypto host auth kid data w =
      (.ok (signature, userVerified, verifiedFactor), w', l)) :
    ∃ key tbs pinUvAuth r,
      (host.plugin (host.progress.onProgress (.started "sign") w)).findKey kid = .ok key ∧
      toBeSigned crypto (keyAlgorithm key) data = .ok tbs ∧
      Asserted crypto key tbs pinUvAuth r l ∧
      decodeSignature crypto (keyAlgorithm key) r.signature = .ok signature.bytes ∧
      userVerified = r.userVerified ∧ verifiedFactor = r.verifiedFactor := by
  unfold signInner at h
  obtain ⟨_, w₁, l₁, l₂, hstarted, h₁, rfl⟩ := Traced.bind_ok_iff.mp h
  obtain ⟨self, w₂, l₃, l₄, hself, h₂, rfl⟩ := Traced.bind_ok_iff.mp h₁
  obtain ⟨key, w₃, l₅, l₆, hkeyRun, h₃, rfl⟩ := Traced.bind_ok_iff.mp h₂
  obtain ⟨_, w₄, l₇, l₈, hwaiting, h₄, rfl⟩ := Traced.bind_ok_iff.mp h₃
  obtain ⟨challenge, w₅, l₉, l₁₀, hchallenge, h₅, rfl⟩ := Traced.bind_ok_iff.mp h₄
  obtain ⟨tbs, w₆, l₁₁, l₁₂, htbsRun, h₆, rfl⟩ := Traced.bind_ok_iff.mp h₅
  obtain ⟨r, w₇, l₁₃, l₁₄, hassertion, h₇, rfl⟩ := Traced.bind_ok_iff.mp h₆
  obtain ⟨_, w₈, l₁₅, l₁₆, hcomplete, h₈, rfl⟩ := Traced.bind_ok_iff.mp h₇
  obtain ⟨bytes, w₉, l₁₇, l₁₈, hdecodeRun, h₉, rfl⟩ := Traced.bind_ok_iff.mp h₈
  obtain ⟨rfl, rfl⟩ := Traced.modify_ok_iff.mp hstarted
  obtain ⟨rfl, rfl, rfl⟩ := Traced.get_ok_iff.mp hself
  obtain ⟨hkey, -, rfl⟩ := Traced.lift_ok_iff.mp hkeyRun
  obtain ⟨-, rfl⟩ := Traced.modify_ok_iff.mp hwaiting
  obtain ⟨-, rfl⟩ := Traced.draw_ok_iff.mp hchallenge
  obtain ⟨htbs, -, rfl⟩ := Traced.lift_ok_iff.mp htbsRun
  obtain ⟨-, rfl⟩ := Traced.modify_ok_iff.mp hcomplete
  obtain ⟨hdecode, -, rfl⟩ := Traced.lift_ok_iff.mp hdecodeRun
  obtain ⟨hresult, -, rfl⟩ := Traced.pure_ok_iff.mp h₉
  cases hresult
  obtain ⟨pinUvAuth, exchange, response, rfl, hverified, -, hparse⟩ := getAssertion_ok hassertion
  exact ⟨key, tbs, pinUvAuth, r, hkey, htbs, ⟨challenge, exchange, response, by simp, hverified,
    hparse⟩, hdecode, rfl, rfl⟩

end Fido2SignPlugin

end Wscd
