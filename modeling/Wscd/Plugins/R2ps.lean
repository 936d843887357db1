import Wscd.Factors
import Wscd.Uvm

/-!
# Signing with the R2PS plugin

Keys live on a remote HSM, behind a client of the R2PS protocol that all calls share. The
client is third-party code and stays a parameter: what a call of it does to the state of the
outside, and, where it runs a WebAuthn ceremony, what it asks of the ceremony
(`CeremonyCall`). In OPAQUE mode a PIN authenticates the client's session; in WebAuthn mode a
ceremony authenticates each signature.
-/

namespace Wscd

open Lib Uvm PreviewSign

structure R2psConfig where
  authMode : String
  rpId : String
  allowedCredentialIds : List String
  deriving DecidableEq, Repr

/-- What the host returns for a registration; the plugin passes it on unread. -/
structure RegistrationResult where
  json : List UInt8
  deriving DecidableEq, Repr

/-- What the host returns for an assertion; the plugin reads the authenticator data only. -/
structure AssertionResult where
  authenticatorData : String
  json : List UInt8
  deriving DecidableEq, Repr

/-- Third-party decoders and texts. -/
structure R2psWire where
  cbor : CborCodec
  /-- `Base64UrlUnpadded::decode_vec` -/
  decodeVec : String → Except String (List UInt8)
  parseRegistration : List UInt8 → Except String RegistrationResult
  parseAssertion : List UInt8 → Except String AssertionResult
  displayError : R2psError → String

/-- A call of the client that runs a ceremony: network exchanges, questions to the ceremony,
and a result. -/
inductive CeremonyCall (W α : Type) where
  | done (result : W → Except R2psError α × W)
  | exchange (send : W → List UInt8 × W) (next : List UInt8 → CeremonyCall W α)
  | createCredential (challenge rpId userId : String)
      (next : Except R2psError RegistrationResult → CeremonyCall W α)
  | getAssertion (challenge rpId : String) (allowCredentials : List String)
      (next : Except R2psError AssertionResult → CeremonyCall W α)

/-- The session of the client, as OPAQUE mode uses it. -/
structure R2psSession (W : Type) where
  isAuthenticated : W → Bool
  authenticate : Secret → W → Except R2psError Unit × W
  rawSign : List UInt8 → List UInt8 → W → Except R2psError (List UInt8) × W

def R2psSession.beside {W T : Type} (session : R2psSession W) : R2psSession (W × T) where
  isAuthenticated w := session.isAuthenticated w.1
  authenticate pin w := ((session.authenticate pin w.1).1, (session.authenticate pin w.1).2, w.2)
  rawSign kid data w := ((session.rawSign kid data w.1).1, (session.rawSign kid data w.1).2, w.2)

/-- The client every call of the plugin shares. -/
structure R2psClient (W : Type) extends R2psSession W where
  signWithSad : String → List String → String → List UInt8 → CeremonyCall W (List UInt8)

/-! ## Assertions of a ceremony -/

/-- Whether the assertions of a ceremony agree on a factor. -/
inductive FactorAgreement where
  | unseen
  | agreed (f : AuthFactor)
  | disagreed
  deriving DecidableEq, Repr

/-- The adapter's record of a ceremony. -/
structure CeremonyRecord where
  assertions : Nat
  uvAssertions : Nat
  verifiedFactor : FactorAgreement
  deriving DecidableEq, Repr

variable (wire : R2psWire)

/-- The user verified flag; data too short for flags is not user-verified. -/
def authenticatorDataUvFlag (authenticatorDataB64 : String) : Bool :=
  match wire.decodeVec authenticatorDataB64 with
  | .ok d => decide (32 < d.length) && decide (authDataFlags d &&& authDataFlagUv ≠ 0)
  | .error _ => false

def classifyAuthenticatorDataUvm (authenticatorDataB64 : String) : Option AuthFactor :=
  match wire.decodeVec authenticatorDataB64 with
  | .ok d => (parseUvmExtension wire.cbor d).bind classifyUvmForTs12
  | .error _ => none

namespace CeremonyRecord

def new : CeremonyRecord := ⟨0, 0, .unseen⟩

def recordAssertion (record : CeremonyRecord) (authenticatorDataB64 : String) : CeremonyRecord where
  assertions := record.assertions + 1
  uvAssertions :=
    if authenticatorDataUvFlag wire authenticatorDataB64 then record.uvAssertions + 1
    else record.uvAssertions
  verifiedFactor :=
    match record.verifiedFactor, classifyAuthenticatorDataUvm wire authenticatorDataB64 with
    | .unseen, some f => .agreed f
    | .agreed prev, some f => if prev = f then .agreed f else .disagreed
    | _, _ => .disagreed

def allAssertionsUserVerified (record : CeremonyRecord) : Bool :=
  decide (0 < record.assertions) && decide (record.uvAssertions = record.assertions)

def agreedVerifiedFactor (record : CeremonyRecord) : Option AuthFactor :=
  if record.allAssertionsUserVerified then
    match record.verifiedFactor with
    | .agreed f => some f
    | _ => none
  else none

end CeremonyRecord

/-! ## The adapter between client and host -/

section Adapter

variable {W α : Type} (auth : AuthCallback W)

def decodeChallenge (challenge : String) : Except R2psError (List UInt8) :=
  match wire.decodeVec challenge with
  | .ok bytes => .ok bytes
  | .error e => .error (.base64 e)

def decodeCredentialId (c : String) : Except R2psError (List UInt8) :=
  match wire.decodeVec c with
  | .ok bytes => .ok bytes
  | .error e => .error (.base64 s!"invalid credential ID '{c}': {e}")

/-- One request to the host on behalf of the ceremony. -/
def askHost (challenge : List UInt8) (rpId : String) (allowed : List (List UInt8)) :
    HostM (W × CeremonyRecord) (Except R2psError (List UInt8)) := do
  let answer ← Traced.attempt
    (HostM.requestWebauthnAssertion (auth.beside (T := CeremonyRecord)) "r2ps" challenge rpId
      allowed)
  match answer with
  | .ok json => return .ok json
  | .error e => return .error (.protocol s!"auth callback failed: {e}")

/-- A registration is an assertion request without credentials. -/
def createCredential (challenge rpId : String) :
    HostM (W × CeremonyRecord) (Except R2psError RegistrationResult) := do
  match decodeChallenge wire challenge with
  | .error e => return .error e
  | .ok challengeBytes =>
    match ← askHost auth challengeBytes rpId [] with
    | .error e => return .error e
    | .ok json =>
      match wire.parseRegistration json with
      | .error e => return .error (.protocol s!"invalid registration JSON: {e}")
      | .ok result => return .ok result

/-- The record takes note of an assertion the host returned. -/
def recordAssertion (authenticatorData : String) : HostM (W × CeremonyRecord) Unit :=
  Traced.draw (fun w => ((), w.1, w.2.recordAssertion wire authenticatorData))
    fun _ => .recordedAssertion authenticatorData

def getAssertion (challenge rpId : String) (allowCredentials : List String) :
    HostM (W × CeremonyRecord) (Except R2psError AssertionResult) := do
  match decodeChallenge wire challenge with
  | .error e => return .error e
  | .ok challengeBytes =>
    match allowCredentials.mapM (decodeCredentialId wire) with
    | .error e => return .error e
    | .ok allowed =>
      match ← askHost auth challengeBytes rpId allowed with
      | .error e => return .error e
      | .ok json =>
        match wire.parseAssertion json with
        | .error e => return .error (.protocol s!"invalid assertion JSON: {e}")
        | .ok result =>
          recordAssertion wire result.authenticatorData
          return .ok result

/-- A call of the client, with the ceremony answered by the adapter. -/
def CeremonyCall.run : CeremonyCall W α → HostM (W × CeremonyRecord) (Except R2psError α)
  | .done result => Traced.update fun w => ((result w.1).1, (result w.1).2, w.2)
  | .exchange send next => do
    let answer ← Traced.update fun w => ((send w.1).1, (send w.1).2, w.2)
    (next answer).run
  | .createCredential challenge rpId _ next => do
    let answer ← Wscd.createCredential wire auth challenge rpId
    (next answer).run
  | .getAssertion challenge rpId allowCredentials next => do
    let answer ← Wscd.getAssertion wire auth challenge rpId allowCredentials
    (next answer).run

end Adapter

/-! ## Signing -/

/-- What surrounds a call of the plugin: the shared client, the progress callback, and where
the methods of the last signature are kept. -/
structure R2psHost (W : Type) where
  client : R2psClient W
  progress : ProgressCallback W
  setLastAmr : List String → W → W

namespace R2psPlugin

variable {W : Type} (config : R2psConfig) (auth : AuthCallback W)

def id : String := "r2ps"

/-- The PIN this signature needs: none when the session at hand will be used again. It is only
collected; authentication and signature run together afterwards. -/
def collectOpaquePin (isAuthenticated : W → Bool) (fresh : Bool) : HostM W (Option Secret) := do
  if config.authMode ≠ "opaque" then
    Traced.lift (.error (.plugin s!"unknown R2PS auth mode: {config.authMode}"))
  else
    let authenticated ← Traced.get isAuthenticated
    if !fresh && authenticated then return none
    else
      let pin ← HostM.requestPin auth "r2ps"
      return some pin

/-- An answer of the client, its error under the name of what failed. -/
def clientResult {α : Type} (what : String) : Except R2psError α → Except WscdError α
  | .ok a => .ok a
  | .error e => .error (.plugin s!"{what} failed: {wire.displayError e}")

/-- The client's session authenticated by a PIN, if there is one. -/
def authenticate (session : R2psSession W) : Option Secret → HostM W Unit
  | none => pure ()
  | some pin => do
    let answer ← Traced.draw (session.authenticate pin) (.authenticated pin)
    Traced.lift (clientResult wire "OPAQUE auth" answer)

def rawSign (session : R2psSession W) (kid : KeyId) (data : List UInt8) : HostM W (List UInt8) := do
  let answer ← Traced.draw (session.rawSign (utf8 kid.asStr) data)
    (.rawSigned (utf8 kid.asStr) data)
  Traced.lift (clientResult wire "R2PS sign" answer)

/-- A signature in OPAQUE mode: the PIN is asked for, then authentication and signature run in
one critical section. -/
def signOpaque (session : R2psSession W) (progress : ProgressCallback W)
    (setLastAmr : List String → W → W) (kid : KeyId) (data : List UInt8) (fresh : Bool) :
    HostM W (List UInt8) := do
  let pin ← collectOpaquePin config auth session.isAuthenticated fresh
  HostM.onProgress progress (.networkRoundTrip 1 1)
  authenticate wire session pin
  let signature ← rawSign wire session kid data
  Traced.modify (setLastAmr ["pwd"])
  return signature

variable (host : R2psHost W)

/-- A signature in WebAuthn mode, with the record of its ceremony. -/
def signWithSad (kid : KeyId) (data : List UInt8) : HostM W (List UInt8 × CeremonyRecord) := do
  let (answer, record) ← Traced.withLocal CeremonyRecord.new
    ((host.client.signWithSad config.rpId config.allowedCredentialIds kid.asStr data).run wire auth)
  let signature ← Traced.lift (clientResult wire "R2PS sign_with_sad" answer)
  return (signature, record)

def signWithFactors (nfc : String → String) (kid : KeyId) (data : List UInt8)
    (options : SignOptions) : HostM W SignOutcome := do
  Traced.lift options.validate
  if options.requireFreshUserAuthentication && config.authMode = "webauthn" then
    Traced.lift (.error (.unsupported "r2ps" "require_fresh_user_authentication in WebAuthn mode"))
  else
    HostM.onProgress host.progress (.started "sign")
    HostM.onProgress host.progress .waitingForUser
    if config.authMode = "webauthn" then
      HostM.onProgress host.progress (.networkRoundTrip 1 1)
      let (signature, record) ← signWithSad wire config auth host kid data
      Traced.modify (host.setLastAmr ["hwk", "pop", "pin"])
      HostM.onProgress host.progress .complete
      return ⟨⟨signature⟩, deriveFactors "key_in_remote_wscd" none record.allAssertionsUserVerified
        record.agreedVerifiedFactor options
        "the WebAuthn assertion did not carry the user-verified flag"⟩
    else
      let (signature, pins) ← Traced.withLocal []
        (signOpaque wire config (recordingAuth nfc auth) host.client.toR2psSession.beside
          host.progress.beside (fun amr w => (host.setLastAmr amr w.1, w.2)) kid data
          options.requireFreshUserAuthentication)
      HostM.onProgress host.progress .complete
      return ⟨⟨signature⟩, deriveFactors "key_in_remote_wscd" pins.getLast? false none options
        ("no PIN was entered for this sign: a cached session was reused " ++
          "(set require_fresh_user_authentication)")⟩

def sign (nfc : String → String) (kid : KeyId) (data : List UInt8) : HostM W Signature := do
  let outcome ← signWithFactors wire config auth host nfc kid data .default
  return outcome.signature

end R2psPlugin

end Wscd
