import Wscd.Callbacks
import Wscd.PreviewSign

/-!
# ClientPin

How a PIN becomes proof of user verification: the exchange that turns it into a
`pinUvAuthToken`, after setting it on an authenticator that has none. AES, the Unicode
normalisation and the rest of the third-party code are parameters (`CtapCrypto`).

Results:
1. `tokenWithPin_ok`: what an exchange that yields a token has sent, for which PIN.
2. `acquirePinUvAuthToken_ok`: the token is for the normalised PIN of the one prompt.
-/

namespace Wscd

open Lib Cbor PreviewSign

structure CtapCrypto where
  cbor : CborCodec
  kdf : Kdf
  p256 : P256
  /-- AES-256-CBC without padding: key, IV, text. -/
  aesCbcEncrypt : List UInt8 → List UInt8 → List UInt8 → List UInt8
  aesCbcDecrypt : List UInt8 → List UInt8 → List UInt8 → Except String (List UInt8)
  /-- `str::nfc().collect()` -/
  nfc : String → String

def SecretKey.publicKey (p256 : P256) (secret : SecretKey) : PublicKey :=
  (p256.mul p256.generator secret.1).get (p256.mul_generator_isSome secret.1 secret.2)

namespace ClientPin

/-! ## Constants -/

def ctap2GetInfo : UInt8 := 0x04

def ctap2ClientPin : UInt8 := 0x06

def subcmdGetKeyAgreement : Int := 0x02

def subcmdSetPin : Int := 0x03

def subcmdGetPinUvAuthTokenUsingPinWithPermissions : Int := 0x09

def permissionMakeCredential : UInt8 := 0x01

def permissionGetAssertion : UInt8 := 0x02

def protocolOneZeroIv : List UInt8 := List.replicate 16 0

def protocolTwoHkdfSalt : List UInt8 := List.replicate 32 0

def defaultMinPinLength : Nat := 4

/-- A PIN is at most 63 octets of UTF-8. -/
def maxPinBytes : Nat := 63

def paddedPinBytes : Nat := 64

inductive PinUvAuthProtocol where
  | one
  | two
  deriving DecidableEq, Repr

def PinUvAuthProtocol.asInt : PinUvAuthProtocol → Int
  | .one => 1
  | .two => 2

/-- A token, ready to authenticate a command. -/
structure PinUvAuthSession where
  protocol : PinUvAuthProtocol
  token : List UInt8
  deriving DecidableEq, Repr

/-- The HMAC an authenticator expects under a protocol: truncated under protocol one. -/
def hmacFor (kdf : Kdf) (protocol : PinUvAuthProtocol) (key message : List UInt8) : List UInt8 :=
  match protocol with
  | .one => (kdf.hmac key message).take 16
  | .two => kdf.hmac key message

/-- `pinUvAuthParam` for a command; the key is the token under both protocols. -/
def PinUvAuthSession.authenticate (kdf : Kdf) (session : PinUvAuthSession)
    (message : List UInt8) : List UInt8 :=
  hmacFor kdf session.protocol session.token message

/-! ## What `getInfo` says about the PIN -/

inductive PinState where
  | set
  | notSet
  | unsupported
  deriving DecidableEq, Repr

structure AuthenticatorPinInfo where
  protocol : PinUvAuthProtocol
  pinState : PinState
  minPinLength : Nat
  deriving DecidableEq, Repr

variable (crypto : CtapCrypto)

/-- The protocol an entry of the protocol list names. -/
def protocolOf (v : Cbor) : Option PinUvAuthProtocol :=
  match v.asInteger with
  | some 1 => some .one
  | some 2 => some .two
  | _ => none

def parsePinInfo (body : List UInt8) : Except WscdError AuthenticatorPinInfo :=
  match crypto.cbor.read body with
  | .error e => .error (.crypto s!"invalid getInfo CBOR: {e}")
  | .ok info =>
    match info.asMap with
    | none => .error (.crypto "getInfo response is not a CBOR map")
    | some entries =>
      let protocol := (((getValueByInt entries 6).bind asArray).bind fun protocols =>
        protocols.findSome? protocolOf).getD .one
      let pinState :=
        match (((getValueByInt entries 4).bind asMap).bind
            fun opts => getValueByText opts "clientPin").bind asBool with
        | some true => .set
        | some false => .notSet
        | none => .unsupported
      let minPinLength :=
        (((getValueByInt entries 0x0d).bind asInteger).bind toU32).getD defaultMinPinLength
      .ok ⟨protocol, pinState, minPinLength⟩

/-- The body of a ClientPin response; a status about the PIN is an error of its own. -/
def splitClientPinStatus (response : List UInt8) : Except WscdError (List UInt8) :=
  match response.head? with
  | some 0x31 => .error (.pin .invalid)
  | some 0x32 => .error (.pin .blocked)
  | some 0x34 => .error (.pin .authBlocked)
  | some 0x35 => .error (.pin .notSet)
  | some 0x37 => .error (.pin .policyViolation)
  | _ => splitStatus response

/-! ## PINs -/

/-- NFC when the PIN is UTF-8, else unchanged. -/
def normalizePin (nfc : String → String) (pin : List UInt8) : List UInt8 :=
  match fromUtf8 pin with
  | some s => utf8 (nfc s)
  | none => pin

/-- A PIN to be set, checked and normalised. -/
def validateNewPin (pin : List UInt8) (minLength : Nat) : Except WscdError String :=
  match fromUtf8 pin with
  | none => .error (.pin .invalidEncoding)
  | some pinText =>
    let normalized := crypto.nfc pinText
    if normalized.toList.contains (Char.ofNat 0) then .error (.pin .invalidEncoding)
    else if maxPinBytes < (utf8 normalized).length then .error (.pin .tooLong)
    else if normalized.toList.length < minLength then .error (.pin (.tooShort minLength))
    else .ok normalized

/-! ## Key agreement -/

/-- The two-entry parameters of a ClientPin subcommand. -/
def subcommandParams (protocol : PinUvAuthProtocol) (subcommand : Int) : List (Cbor × Cbor) :=
  [(.integer 1, .integer protocol.asInt), (.integer 2, .integer subcommand)]

def encodePlatformCoseKey (key : PublicKey) : Cbor :=
  .map [(.integer 1, .integer 2), (.integer 3, .integer (-25)), (.integer (-1), .integer 1),
    (.integer (-2), .bytes key.x), (.integer (-3), .bytes key.y)]

def keyAgreementCommand (protocol : PinUvAuthProtocol) : List UInt8 :=
  encodeCommand crypto.cbor ctap2ClientPin (.map (subcommandParams protocol subcmdGetKeyAgreement))

/-- The authenticator's key in the answer to a key agreement. -/
def parseKeyAgreement (response : List UInt8) : Except WscdError PublicKey :=
  match splitClientPinStatus response with
  | .error e => .error e
  | .ok body =>
    match crypto.cbor.read body with
    | .error e => .error (.crypto s!"invalid getKeyAgreement CBOR: {e}")
    | .ok value =>
      match value.asMap with
      | none => .error (.crypto "getKeyAgreement response is not a CBOR map")
      | some entries =>
        match getValueByInt entries 1 with
        | none => .error (.crypto "getKeyAgreement response missing key agreement key (key 1)")
        | some coseKey => Arkg.decodeCoseEc2PublicKey crypto.p256 coseKey

def ecdhSharedX (secret : SecretKey) (peer : PublicKey) : Except WscdError (List UInt8) :=
  let sharedX := Arkg.diffieHellman crypto.p256 secret.1 peer
  if sharedX.length ≠ 32 then .error (.crypto "ECDH shared secret is not 32 bytes")
  else .ok sharedX

/-- The key HKDF derives; 32 octets is a length HKDF never refuses. -/
def hkdfKey (sharedX : List UInt8) (info : String) : List UInt8 :=
  match crypto.kdf.hkdfExpand protocolTwoHkdfSalt sharedX (Arkg.ascii info) 32 with
  | .ok key => key
  | .error _ => List.replicate 32 0

def deriveAesKey (protocol : PinUvAuthProtocol) (sharedX : List UInt8) : List UInt8 :=
  match protocol with
  | .one => crypto.kdf.sha256 sharedX
  | .two => hkdfKey crypto sharedX "CTAP2 AES key"

def deriveHmacKey (protocol : PinUvAuthProtocol) (sharedX : List UInt8) : List UInt8 :=
  match protocol with
  | .one => crypto.kdf.sha256 sharedX
  | .two => hkdfKey crypto sharedX "CTAP2 HMAC key"

/-- Encryption under a protocol: protocol two sends its IV in front. -/
def encrypt (protocol : PinUvAuthProtocol) (key plaintext iv : List UInt8) : List UInt8 :=
  match protocol with
  | .one => crypto.aesCbcEncrypt key protocolOneZeroIv plaintext
  | .two => iv ++ crypto.aesCbcEncrypt key iv plaintext

def decrypt (protocol : PinUvAuthProtocol) (key ciphertext : List UInt8) :
    Except WscdError (List UInt8) :=
  let aes (iv ct : List UInt8) : Except WscdError (List UInt8) :=
    match crypto.aesCbcDecrypt key iv ct with
    | .ok plaintext => .ok plaintext
    | .error e => .error (.crypto s!"AES-CBC decrypt failed: {e}")
  match protocol with
  | .one => aes protocolOneZeroIv ciphertext
  | .two =>
    if ciphertext.length < 16 then .error (.crypto "protocol 2 ciphertext shorter than one IV")
    else aes (ciphertext.take 16) (ciphertext.drop 16)

/-! ## Setting a PIN, getting a token -/

/-- `(newPinEnc, pinUvAuthParam)` of a setPIN. -/
def setPinFields (protocol : PinUvAuthProtocol) (sharedX pin iv : List UInt8) :
    List UInt8 × List UInt8 :=
  let padded := pin ++ List.replicate (paddedPinBytes - pin.length) 0
  let newPinEnc := encrypt crypto protocol (deriveAesKey crypto protocol sharedX) padded iv
  (newPinEnc, hmacFor crypto.kdf protocol (deriveHmacKey crypto protocol sharedX) newPinEnc)

def setPinCommand (protocol : PinUvAuthProtocol) (platform : PublicKey)
    (newPinEnc pinUvAuthParam : List UInt8) : List UInt8 :=
  encodeCommand crypto.cbor ctap2ClientPin
    (.map (subcommandParams protocol subcmdSetPin ++
      [(.integer 3, encodePlatformCoseKey platform), (.integer 4, .bytes pinUvAuthParam),
        (.integer 5, .bytes newPinEnc)]))

def pinHash (pin : List UInt8) : List UInt8 := (crypto.kdf.sha256 pin).take 16

def tokenCommand (protocol : PinUvAuthProtocol) (platform : PublicKey) (pinHashEnc : List UInt8)
    (permissions : UInt8) (rpId : Option String) : List UInt8 :=
  encodeCommand crypto.cbor ctap2ClientPin
    (.map (subcommandParams protocol subcmdGetPinUvAuthTokenUsingPinWithPermissions ++
      [(.integer 3, encodePlatformCoseKey platform), (.integer 6, .bytes pinHashEnc),
        (.integer 9, .integer permissions.toNat)] ++
      (rpId.map fun rpId => (.integer 0x0a, .text rpId)).toList))

/-- The encrypted token in the answer to a token request. -/
def parsePinToken (response : List UInt8) : Except WscdError (List UInt8) :=
  match splitClientPinStatus response with
  | .error e => .error e
  | .ok body =>
    match crypto.cbor.read body with
    | .error e => .error (.crypto s!"invalid getPinUvAuthToken CBOR: {e}")
    | .ok value =>
      match value.asMap with
      | none => .error (.crypto "getPinUvAuthToken response is not a CBOR map")
      | some entries =>
        match getBytesByInt entries 2 with
        | none => .error (.crypto "getPinUvAuthToken response missing pinUvAuthToken (key 2)")
        | some token => .ok token

/-! ## What is sent can be written -/

theorem isI64_asInt (protocol : PinUvAuthProtocol) : IsI64 protocol.asInt := by
  cases protocol <;> decide

theorem writable_subcommandParams (protocol : PinUvAuthProtocol) {subcommand : Int}
    (hsubcommand : IsI64 subcommand) :
    (Cbor.map (subcommandParams protocol subcommand)).Writable := by
  refine List.forall_mem_cons.mpr ⟨?_, List.forall_mem_singleton.mpr ?_⟩
  · exact ⟨by simp, (isI64_asInt protocol).fitsWithin 255⟩
  · exact ⟨by simp, hsubcommand.fitsWithin 255⟩

theorem writable_setPinParams (protocol : PinUvAuthProtocol) (platform : PublicKey)
    (newPinEnc pinUvAuthParam : List UInt8) :
    (Cbor.map (subcommandParams protocol subcmdSetPin ++
      [(.integer 3, encodePlatformCoseKey platform), (.integer 4, .bytes pinUvAuthParam),
        (.integer 5, .bytes newPinEnc)])).Writable :=
  List.forall_mem_append.mpr ⟨writable_subcommandParams protocol (by decide), by
    simp [encodePlatformCoseKey]⟩

theorem writable_tokenParams (protocol : PinUvAuthProtocol) (platform : PublicKey)
    (pinHashEnc : List UInt8) (permissions : UInt8) (rpId : Option String) :
    (Cbor.map (subcommandParams protocol subcmdGetPinUvAuthTokenUsingPinWithPermissions ++
      [(.integer 3, encodePlatformCoseKey platform), (.integer 6, .bytes pinHashEnc),
        (.integer 9, .integer permissions.toNat)] ++
      (rpId.map fun rpId => (.integer 0x0a, .text rpId)).toList)).Writable := by
  have hpermissions := permissions.toNat_lt
  refine List.forall_mem_append.mpr ⟨List.forall_mem_append.mpr
    ⟨writable_subcommandParams protocol (by decide), ?_⟩, ?_⟩
  · simp [encodePlatformCoseKey]
    omega
  · cases rpId <;> simp

/-! ## The exchange -/

section Exchange

variable {W : Type} (transport : Ctap2Transport W) (rng : Rng W)

def readPinInfo : HostM W AuthenticatorPinInfo := do
  let response ← HostM.sendCommand transport [ctap2GetInfo]
  let body ← Traced.lift (splitStatus response)
  Traced.lift (parsePinInfo crypto body)

def getKeyAgreement (protocol : PinUvAuthProtocol) : HostM W PublicKey := do
  let response ← HostM.sendCommand transport (keyAgreementCommand crypto protocol)
  Traced.lift (parseKeyAgreement crypto response)

/-- The IV of an encryption: drawn under protocol two only. -/
def freshIv : PinUvAuthProtocol → HostM W (List UInt8)
  | .one => pure protocolOneZeroIv
  | .two => HostM.randomBytes rng 16

def setPin (protocol : PinUvAuthProtocol) (pin : List UInt8) : HostM W Unit := do
  let secret ← HostM.generateSecret rng
  let peer ← getKeyAgreement crypto transport protocol
  let sharedX ← Traced.lift (ecdhSharedX crypto secret peer)
  let iv ← HostM.randomBytes rng 16
  let fields := setPinFields crypto protocol sharedX pin iv
  let response ← HostM.sendCommand transport
    (setPinCommand crypto protocol (secret.publicKey crypto.p256) fields.1 fields.2)
  let _ ← Traced.lift (splitClientPinStatus response)

def tokenWithPin (protocol : PinUvAuthProtocol) (pin : List UInt8) (permissions : UInt8)
    (rpId : Option String) : HostM W PinUvAuthSession := do
  let secret ← HostM.generateSecret rng
  let peer ← getKeyAgreement crypto transport protocol
  let sharedX ← Traced.lift (ecdhSharedX crypto secret peer)
  let aesKey := deriveAesKey crypto protocol sharedX
  let iv ← freshIv rng protocol
  let response ← HostM.sendCommand transport
    (tokenCommand crypto protocol (secret.publicKey crypto.p256)
      (encrypt crypto protocol aesKey (pinHash crypto pin) iv) permissions rpId)
  let tokenEnc ← Traced.lift (parsePinToken crypto response)
  let token ← Traced.lift (decrypt crypto protocol aesKey tokenEnc)
  return ⟨protocol, token⟩

/-- The user chooses a PIN, which is set and then used. -/
def tokenWithNewPin (auth : AuthCallback W) (pluginId : String) (info : AuthenticatorPinInfo)
    (permissions : UInt8) (rpId : Option String) : HostM W PinUvAuthSession := do
  let raw ← HostM.requestPinFor auth pluginId (.setNewPin info.minPinLength)
  let pin ← Traced.lift (validateNewPin crypto raw info.minPinLength)
  setPin crypto transport rng info.protocol (utf8 pin)
  tokenWithPin crypto transport rng info.protocol (utf8 pin) permissions rpId

/-- The user enters the PIN. One with a NUL is wrong and costs no retry. -/
def tokenWithEnteredPin (auth : AuthCallback W) (pluginId : String) (info : AuthenticatorPinInfo)
    (permissions : UInt8) (rpId : Option String) : HostM W PinUvAuthSession := do
  let raw ← HostM.requestPinFor auth pluginId .enterPin
  if (normalizePin crypto.nfc raw).contains 0 then Traced.lift (.error (.pin .invalidEncoding))
  else
    tokenWithPin crypto transport rng info.protocol (normalizePin crypto.nfc raw) permissions rpId

/-- A token, after setting the PIN on an authenticator that has none. -/
def acquirePinUvAuthToken (auth : AuthCallback W) (pluginId : String) (permissions : UInt8)
    (rpId : Option String) : HostM W PinUvAuthSession := do
  let info ← readPinInfo crypto transport
  match info.pinState with
  | .notSet => tokenWithNewPin crypto transport rng auth pluginId info permissions rpId
  | .set | .unsupported =>
    tokenWithEnteredPin crypto transport rng auth pluginId info permissions rpId

/-! ## What a successful exchange has done -/

variable {crypto transport rng}
variable {w w' : W} {l : List HostEvent} {protocol : PinUvAuthProtocol} {pin : List UInt8}
  {permissions : UInt8} {rpId : Option String} {session : PinUvAuthSession}

/-- The log draws the IV an encryption uses, if it draws any. -/
def ivEvents : PinUvAuthProtocol → List UInt8 → List HostEvent
  | .one, _ => []
  | .two, iv => [.drewBytes iv]

/-- The log `l` is an exchange that turned `pin` into the token of `session`: a key agreement
with a key generated for it, then the encrypted hash of `pin` for the token. -/
def TokenFor (crypto : CtapCrypto) (protocol : PinUvAuthProtocol) (pin : List UInt8)
    (permissions : UInt8) (rpId : Option String) (session : PinUvAuthSession)
    (l : List HostEvent) : Prop :=
  ∃ (secret : SecretKey) (agreement answer : List UInt8) (peer : PublicKey)
    (sharedX iv tokenEnc : List UInt8),
    l = [.generatedSecret secret,
        .sentCommand (keyAgreementCommand crypto protocol) (.ok agreement)] ++
      ivEvents protocol iv ++
      [.sentCommand
        (tokenCommand crypto protocol (secret.publicKey crypto.p256)
          (encrypt crypto protocol (deriveAesKey crypto protocol sharedX) (pinHash crypto pin) iv)
          permissions rpId) (.ok answer)] ∧
    parseKeyAgreement crypto agreement = .ok peer ∧
    ecdhSharedX crypto secret peer = .ok sharedX ∧
    parsePinToken crypto answer = .ok tokenEnc ∧
    session.protocol = protocol ∧
    decrypt crypto protocol (deriveAesKey crypto protocol sharedX) tokenEnc = .ok session.token

theorem readPinInfo_ok {info : AuthenticatorPinInfo}
    (h : readPinInfo crypto transport w = (.ok info, w', l)) :
    ∃ response body, l = [.sentCommand [ctap2GetInfo] (.ok response)] ∧
      splitStatus response = .ok body ∧ parsePinInfo crypto body = .ok info := by
  unfold readPinInfo at h
  obtain ⟨response, w₁, l₁, l₂, hsend, h₁, rfl⟩ := Traced.bind_ok_iff.mp h
  obtain ⟨body, w₂, l₃, l₄, hsplitRun, h₂, rfl⟩ := Traced.bind_ok_iff.mp h₁
  obtain ⟨-, rfl⟩ := Traced.ask_ok_iff.mp hsend
  obtain ⟨hsplit, -, rfl⟩ := Traced.lift_ok_iff.mp hsplitRun
  obtain ⟨hparse, -, rfl⟩ := Traced.lift_ok_iff.mp h₂
  exact ⟨response, body, rfl, hsplit, hparse⟩

theorem getKeyAgreement_ok {peer : PublicKey}
    (h : getKeyAgreement crypto transport protocol w = (.ok peer, w', l)) :
    ∃ response, l = [.sentCommand (keyAgreementCommand crypto protocol) (.ok response)] ∧
      parseKeyAgreement crypto response = .ok peer := by
  unfold getKeyAgreement at h
  obtain ⟨response, w₁, l₁, l₂, hsend, h₁, rfl⟩ := Traced.bind_ok_iff.mp h
  obtain ⟨-, rfl⟩ := Traced.ask_ok_iff.mp hsend
  obtain ⟨hparse, -, rfl⟩ := Traced.lift_ok_iff.mp h₁
  exact ⟨response, rfl, hparse⟩

theorem freshIv_ok {iv : List UInt8} (h : freshIv rng protocol w = (.ok iv, w', l)) :
    l = ivEvents protocol iv := by
  cases protocol with
  | one =>
    obtain ⟨-, -, rfl⟩ := Traced.pure_ok_iff.mp h
    rfl
  | two =>
    obtain ⟨-, rfl⟩ := Traced.draw_ok_iff.mp h
    rfl

theorem tokenWithPin_ok
    (h : tokenWithPin crypto transport rng protocol pin permissions rpId w =
      (.ok session, w', l)) :
    TokenFor crypto protocol pin permissions rpId session l := by
  unfold tokenWithPin at h
  obtain ⟨secret, w₁, l₁, l₂, hsecret, h₁, rfl⟩ := Traced.bind_ok_iff.mp h
  obtain ⟨peer, w₂, l₃, l₄, hpeer, h₂, rfl⟩ := Traced.bind_ok_iff.mp h₁
  obtain ⟨sharedX, w₃, l₅, l₆, hsharedRun, h₃, rfl⟩ := Traced.bind_ok_iff.mp h₂
  obtain ⟨iv, w₄, l₇, l₈, hiv, h₄, rfl⟩ := Traced.bind_ok_iff.mp h₃
  obtain ⟨answer, w₅, l₉, l₁₀, hsend, h₅, rfl⟩ := Traced.bind_ok_iff.mp h₄
  obtain ⟨tokenEnc, w₆, l₁₁, l₁₂, hparseRun, h₆, rfl⟩ := Traced.bind_ok_iff.mp h₅
  obtain ⟨token, w₇, l₁₃, l₁₄, hdecryptRun, h₇, rfl⟩ := Traced.bind_ok_iff.mp h₆
  obtain ⟨-, rfl⟩ := Traced.draw_ok_iff.mp hsecret
  obtain ⟨agreement, rfl, hagreement⟩ := getKeyAgreement_ok hpeer
  obtain ⟨hshared, -, rfl⟩ := Traced.lift_ok_iff.mp hsharedRun
  obtain rfl := freshIv_ok hiv
  obtain ⟨-, rfl⟩ := Traced.ask_ok_iff.mp hsend
  obtain ⟨hparse, -, rfl⟩ := Traced.lift_ok_iff.mp hparseRun
  obtain ⟨hdecrypt, -, rfl⟩ := Traced.lift_ok_iff.mp hdecryptRun
  obtain ⟨rfl, -, rfl⟩ := Traced.pure_ok_iff.mp h₇
  exact ⟨secret, agreement, answer, peer, sharedX, iv, tokenEnc, by simp, hagreement, hshared,
    hparse, rfl, hdecrypt⟩

theorem TokenFor.protocol_eq (h : TokenFor crypto protocol pin permissions rpId session l) :
    session.protocol = protocol := by
  obtain ⟨secret, agreement, answer, peer, sharedX, iv, tokenEnc, -, -, -, -, hprotocol, -⟩ := h
  exact hprotocol

/-- An exchange asks the user nothing. -/
theorem TokenFor.givenPins (h : TokenFor crypto protocol pin permissions rpId session l) :
    givenPins l = [] := by
  obtain ⟨secret, agreement, answer, peer, sharedX, iv, tokenEnc, rfl, -⟩ := h
  cases protocol <;> rfl

theorem setPin_ok (h : setPin crypto transport rng protocol pin w = (.ok (), w', l)) :
    givenPins l = [] := by
  unfold setPin at h
  obtain ⟨secret, w₁, l₁, l₂, hsecret, h₁, rfl⟩ := Traced.bind_ok_iff.mp h
  obtain ⟨peer, w₂, l₃, l₄, hpeer, h₂, rfl⟩ := Traced.bind_ok_iff.mp h₁
  obtain ⟨sharedX, w₃, l₅, l₆, hshared, h₃, rfl⟩ := Traced.bind_ok_iff.mp h₂
  obtain ⟨iv, w₄, l₇, l₈, hiv, h₄, rfl⟩ := Traced.bind_ok_iff.mp h₃
  obtain ⟨response, w₅, l₉, l₁₀, hsend, h₅, rfl⟩ := Traced.bind_ok_iff.mp h₄
  obtain ⟨body, w₆, l₁₁, l₁₂, hsplit, h₆, rfl⟩ := Traced.bind_ok_iff.mp h₅
  obtain ⟨-, rfl⟩ := Traced.draw_ok_iff.mp hsecret
  obtain ⟨agreement, rfl, -⟩ := getKeyAgreement_ok hpeer
  obtain ⟨-, -, rfl⟩ := Traced.lift_ok_iff.mp hshared
  obtain ⟨-, rfl⟩ := Traced.draw_ok_iff.mp hiv
  obtain ⟨-, rfl⟩ := Traced.ask_ok_iff.mp hsend
  obtain ⟨-, -, rfl⟩ := Traced.lift_ok_iff.mp hsplit
  obtain ⟨-, -, rfl⟩ := Traced.pure_ok_iff.mp h₆
  rfl

/-- A new PIN that is accepted is UTF-8, and its normal form is within the limits. -/
theorem validateNewPin_accepts {raw : List UInt8} {minLength : Nat} {accepted : String}
    (h : validateNewPin crypto raw minLength = .ok accepted) :
    ∃ pinText, fromUtf8 raw = some pinText ∧ crypto.nfc pinText = accepted ∧
      Char.ofNat 0 ∉ accepted.toList ∧ (utf8 accepted).length ≤ maxPinBytes ∧
      minLength ≤ accepted.toList.length := by
  unfold validateNewPin at h
  cases hutf8 : fromUtf8 raw with
  | none =>
    rw [hutf8] at h
    cases h
  | some pinText =>
    rw [hutf8] at h
    dsimp only at h
    split at h
    · cases h
    rename_i hnul
    split at h
    · cases h
    rename_i hlong
    split at h
    · cases h
    rename_i hshort
    cases h
    exact ⟨pinText, rfl, rfl, by simpa using hnul, not_lt.mp hlong, not_lt.mp hshort⟩

/-- A new PIN that is accepted is set in its normal form. -/
theorem validateNewPin_ok {raw : List UInt8} {minLength : Nat} {accepted : String}
    (h : validateNewPin crypto raw minLength = .ok accepted) :
    utf8 accepted = normalizePin crypto.nfc raw := by
  obtain ⟨pinText, hutf8, rfl, -⟩ := validateNewPin_accepts h
  rw [normalizePin, hutf8]

variable {auth : AuthCallback W} {pluginId : String} {info : AuthenticatorPinInfo}

/-- The log `l` asked for one PIN, whose normal form it turned into the token of `session`. -/
def PinTokenFor (crypto : CtapCrypto) (pluginId : String) (permissions : UInt8)
    (rpId : Option String) (session : PinUvAuthSession) (raw : Secret)
    (l : List HostEvent) : Prop :=
  ∃ prompt exchange, l = prompt ++ exchange ∧ givenPins prompt = [(pluginId, raw)] ∧
    TokenFor crypto session.protocol (normalizePin crypto.nfc raw) permissions rpId session exchange

theorem PinTokenFor.cons {raw : Secret} {e : HostEvent} (he : e.givenPin = none)
    (h : PinTokenFor crypto pluginId permissions rpId session raw l) :
    PinTokenFor crypto pluginId permissions rpId session raw (e :: l) := by
  obtain ⟨prompt, exchange, rfl, hprompt, hexchange⟩ := h
  refine ⟨e :: prompt, exchange, rfl, ?_, hexchange⟩
  rw [givenPins, List.filterMap_cons_none he]
  exact hprompt

theorem PinTokenFor.givenPins {raw : Secret}
    (h : PinTokenFor crypto pluginId permissions rpId session raw l) :
    givenPins l = [(pluginId, raw)] := by
  obtain ⟨prompt, exchange, rfl, hprompt, hexchange⟩ := h
  rw [givenPins_append, hprompt, hexchange.givenPins, List.append_nil]

theorem tokenWithNewPin_ok
    (h : tokenWithNewPin crypto transport rng auth pluginId info permissions rpId w =
      (.ok session, w', l)) :
    ∃ raw, PinTokenFor crypto pluginId permissions rpId session raw l := by
  unfold tokenWithNewPin at h
  obtain ⟨raw, w₁, l₁, l₂, hask, h₁, rfl⟩ := Traced.bind_ok_iff.mp h
  obtain ⟨pin, w₂, l₃, l₄, hvalidateRun, h₂, rfl⟩ := Traced.bind_ok_iff.mp h₁
  obtain ⟨_, w₃, l₅, l₆, hset, h₃, rfl⟩ := Traced.bind_ok_iff.mp h₂
  obtain ⟨-, rfl⟩ := Traced.ask_ok_iff.mp hask
  obtain ⟨hvalidate, -, rfl⟩ := Traced.lift_ok_iff.mp hvalidateRun
  have htoken := tokenWithPin_ok h₃
  rw [validateNewPin_ok hvalidate, ← htoken.protocol_eq] at htoken
  refine ⟨raw, .requestedPinFor pluginId _ (.ok raw) :: l₅, l₆, rfl, ?_, htoken⟩
  show (pluginId, raw) :: Wscd.givenPins l₅ = _
  rw [setPin_ok hset]

theorem tokenWithEnteredPin_ok
    (h : tokenWithEnteredPin crypto transport rng auth pluginId info permissions rpId w =
      (.ok session, w', l)) :
    ∃ raw, PinTokenFor crypto pluginId permissions rpId session raw l := by
  unfold tokenWithEnteredPin at h
  obtain ⟨raw, w₁, l₁, l₂, hask, h₁, rfl⟩ := Traced.bind_ok_iff.mp h
  obtain ⟨-, rfl⟩ := Traced.ask_ok_iff.mp hask
  split at h₁
  · obtain ⟨herror, -, -⟩ := Traced.lift_ok_iff.mp h₁
    cases herror
  · have htoken := tokenWithPin_ok h₁
    rw [← htoken.protocol_eq] at htoken
    exact ⟨raw, [.requestedPinFor pluginId _ (.ok raw)], l₂, rfl, rfl, htoken⟩

/-- A token comes from one prompt, whose PIN, normalised, was turned into it. -/
theorem acquirePinUvAuthToken_ok
    (h : acquirePinUvAuthToken crypto transport rng auth pluginId permissions rpId w =
      (.ok session, w', l)) :
    ∃ raw, PinTokenFor crypto pluginId permissions rpId session raw l := by
  unfold acquirePinUvAuthToken at h
  obtain ⟨info, w₁, l₁, l₂, hinfo, h₁, rfl⟩ := Traced.bind_ok_iff.mp h
  obtain ⟨response, body, rfl, -, -⟩ := readPinInfo_ok hinfo
  have hraw : ∃ raw, PinTokenFor crypto pluginId permissions rpId session raw l₂ := by
    cases hstate : info.pinState with
    | notSet =>
      simp only [hstate] at h₁
      exact tokenWithNewPin_ok h₁
    | set =>
      simp only [hstate] at h₁
      exact tokenWithEnteredPin_ok h₁
    | unsupported =>
      simp only [hstate] at h₁
      exact tokenWithEnteredPin_ok h₁
  obtain ⟨raw, hraw⟩ := hraw
  exact ⟨raw, hraw.cons rfl⟩

end Exchange

end ClientPin

end Wscd
