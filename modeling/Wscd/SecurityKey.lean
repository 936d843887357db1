import Wscd.Authenticator
import Wscd.PreviewSign.Ceremonies
import Wscd.UvmFormat

/-!
# Ceremonies with a security key

An authenticator of which the plugin has to obtain user verification by PIN. Around its
ClientPin part a security key says what it has in `getInfo`, remembers what the token it handed
out is good for, and answers a command only if that is authenticated with the token, for its
relying party and with its permission. Nothing here is the wallet's either.

Results:
1. `tokenWithPin_key`, `setPin_key`: the exchanges, with the right PIN and with a wrong one.
2. `acquire_key`: the token comes exactly when the PIN is the key's, or is set as its new one.
3. `ceremonies_with_security_key`: then both commands are authenticated and answered, and else
   neither is sent.
-/

namespace Wscd.Authenticator

open Lib Cbor PreviewSign ClientPin

structure SecurityKey where
  device : Device
  /-- The PIN/UV auth protocols it has, the preferred one first. -/
  protocols : List PinUvAuthProtocol
  /-- What it answers to `getInfo`, with and without a PIN. -/
  info : Bool → List (Cbor × Cbor)
  /-- The permissions and the relying party of its token, once it was handed out. -/
  granted : Option (Int × Option String)
  /-- What it answers to an authenticated command. -/
  answer : List UInt8 → List UInt8
  /-- The commands it received that make or use a credential. -/
  received : List (List UInt8)

/-- The entries of a `getInfo` say, among other things, whether a PIN is set, which protocols there
are, and how long a PIN has to be. -/
structure Announces (isSet : Bool) (protocols : List PinUvAuthProtocol) (minPinLength : Nat)
    (entries : List (Cbor × Cbor)) : Prop where
  writable : (Cbor.map entries).Writable
  clientPin : ∃ options, FirstUnder (.integer 4) (.map options) entries ∧
    FirstUnder (.text "clientPin") (.bool isSet) options
  protocols : FirstUnder (.integer 6)
    (.array (protocols.map fun protocol => .integer protocol.asInt)) entries
  minPinLength : FirstUnder (.integer 0x0d) (.integer minPinLength) entries

/-- What CTAP 2.1 says of what a key has: a protocol, a token of 16 or 32 octets, and a length
that fits its encoding; and its `getInfo` says so. -/
structure SecurityKey.Conforms (key : SecurityKey) : Prop where
  protocols : key.protocols ≠ []
  token : key.device.token.length ≤ 32
  minPinLength : key.device.minPinLength < 2 ^ 32
  info : ∀ isSet, Announces isSet key.protocols key.device.minPinLength (key.info isSet)

section Definitions

variable (crypto : CtapCrypto)

/-- The answer to `getInfo`. -/
def getInfo (key : SecurityKey) : List UInt8 :=
  0x00 :: crypto.cbor.intoWriter (.map (key.info key.device.pin.isSome))

/-- The token was asked for with this permission, for this relying party. -/
def permits (granted : Option (Int × Option String)) (permission : UInt8)
    (rpId : Option String) : Bool :=
  match granted with
  | none => false
  | some (permissions, grantedRpId) =>
    decide (permissions.toNat &&& permission.toNat ≠ 0) && decide (grantedRpId = rpId)

/-- The check of `pinUvAuthParam` in front of a command. -/
def checkPinUvAuth (key : SecurityKey) (permission : UInt8) (rpId : Option String)
    (clientDataHash : List UInt8) (pinUvAuthParam : Option (List UInt8))
    (pinUvAuthProtocol : Option Int) : Except UInt8 Unit :=
  match pinUvAuthParam, pinUvAuthProtocol with
  | none, _ => .error 0x36
  | some _, none => .error 0x14
  | some param, some n =>
    match key.protocols.find? fun protocol => protocol.asInt = n with
    | none => .error 0x02
    | some protocol =>
      if verify crypto protocol key.device.token clientDataHash param &&
          permits key.granted permission rpId then .ok ()
      else .error 0x33

/-- The answer to `authenticatorMakeCredential` or `authenticatorGetAssertion` with these
parameters. -/
def answerCommand (key : SecurityKey) (command : List UInt8) (permission : UInt8)
    (rpId : Option String) (params : List (Cbor × Cbor)) (hashKey paramKey protocolKey : Int) :
    List UInt8 :=
  match getBytesByInt params hashKey with
  | none => [0x14]
  | some clientDataHash =>
    match checkPinUvAuth crypto key permission rpId clientDataHash
      (getBytesByInt params paramKey) ((getValueByInt params protocolKey).bind asInteger) with
    | .error status => [status]
    | .ok () => key.answer command

/-- What a token request that was granted makes the token good for. -/
def grantedBy (command response : List UInt8) (granted : Option (Int × Option String)) :
    Option (Int × Option String) :=
  match readParams crypto.cbor 0x06 "ClientPin" command with
  | .error _ => granted
  | .ok params =>
    if (getValueByInt params 2).bind asInteger = some 9 ∧ response.head? = some 0x00 then
      some (((getValueByInt params 9).bind asInteger).getD 0,
        (getValueByInt params 0x0a).bind asText)
    else granted

/-- A ClientPin command goes to the ClientPin part. -/
def answerClientPin (key : SecurityKey) (command : List UInt8) : List UInt8 × SecurityKey :=
  let out := respond crypto key.device command
  (out.1, { key with
    device := out.2
    granted := grantedBy crypto command out.1 key.granted })

def SecurityKey.receive (key : SecurityKey) (command : List UInt8) : SecurityKey :=
  { key with received := key.received ++ [command] }

def SecurityKey.respond (key : SecurityKey) (command : List UInt8) : List UInt8 × SecurityKey :=
  match command.head? with
  | some 0x01 =>
    match readParams crypto.cbor 0x01 "MakeCredential" command with
    | .error _ => ([0x12], key.receive command)
    | .ok params =>
      let rpId := (((getValueByInt params 2).bind asMap).bind
        fun rp => getValueByText rp "id").bind asText
      (answerCommand crypto key command 0x01 rpId params 1 8 9, key.receive command)
  | some 0x02 =>
    match readParams crypto.cbor 0x02 "GetAssertion" command with
    | .error _ => ([0x12], key.receive command)
    | .ok params =>
      (answerCommand crypto key command 0x02 ((getValueByInt params 1).bind asText) params 2 6 7,
        key.receive command)
  | some 0x04 => (getInfo crypto key, key)
  | some 0x06 => answerClientPin crypto key command
  | _ => ([0x01], key)

def SecurityKey.transport {R : Type} : Ctap2Transport (R × SecurityKey) where
  ctap2SendCommand command w :=
    (.ok (w.2.respond crypto command).1, (w.1, (w.2.respond crypto command).2))
  performsUserVerification _ := false

/-- What the user is asked for. -/
def SecurityKey.purpose (key : SecurityKey) : PinRequestKind :=
  if key.device.pin.isSome then .enterPin else .setNewPin key.device.minPinLength

/-- The PIN a key has once the user gave `raw` to the prompt for it, or why it is refused. -/
def pinVerdict (key : SecurityKey) (raw : Secret) : Except WscdError (List UInt8) :=
  match key.device.pin with
  | none => (validateNewPin crypto raw key.device.minPinLength).map utf8
  | some pin =>
    if (normalizePin crypto.nfc raw).contains 0 then .error (.pin .invalidEncoding)
    else if pinHash crypto (normalizePin crypto.nfc raw) = pinHash crypto pin then .ok pin
    else .error (.pin .invalid)

end Definitions

/-! ## The exchanges -/

/-- The key after a key agreement. -/
def SecurityKey.next (key : SecurityKey) : SecurityKey := { key with device := key.device.next }

/-- The key after its token was handed out. -/
def SecurityKey.grant (key : SecurityKey) (permissions : UInt8) (rpId : Option String) :
    SecurityKey := { key with granted := some (permissions.toNat, rpId) }

def SecurityKey.withPin (key : SecurityKey) (pin : List UInt8) : SecurityKey :=
  { key with device := key.device.withPin pin }

/-- What the exchanges leave alone: all but the PIN, the grant and the key agreement key. -/
structure SecurityKey.Keeps (key key' : SecurityKey) : Prop where
  token : key'.device.token = key.device.token
  protocols : key'.protocols = key.protocols
  answer : key'.answer = key.answer
  received : key'.received = key.received

section Exchanges

variable {crypto : CtapCrypto} {R : Type} {rng : Rng R} {r : R} {key : SecurityKey}
  {protocol : PinUvAuthProtocol}

/-- A ClientPin command other than a token request does not touch the grant. -/
theorem respond_clientPin_key {command response : List UInt8} {device' : Device}
    (h : respond crypto key.device command = (response, device'))
    (hcommand : command.head? = some 0x06)
    (hgranted : grantedBy crypto command response key.granted = key.granted) :
    key.respond crypto command = (response, { key with device := device' }) := by
  unfold SecurityKey.respond
  rw [hcommand]
  show answerClientPin crypto key command = _
  unfold answerClientPin
  rw [h]
  dsimp only
  rw [hgranted]

theorem grantedBy_of_subcommand (hcrypto : crypto.Lawful) {params : List (Cbor × Cbor)}
    (hparams : (Cbor.map params).Writable) (n : Int)
    (hsubcommand : (getValueByInt params 2).bind asInteger = some n) (hne : n ≠ 9)
    (response : List UInt8) (granted : Option (Int × Option String)) :
    grantedBy crypto (encodeCommand crypto.cbor ctap2ClientPin (.map params)) response granted =
      granted := by
  unfold grantedBy
  have hread : readParams crypto.cbor 0x06 "ClientPin"
      (encodeCommand crypto.cbor ctap2ClientPin (.map params)) = .ok params :=
    readParams_encodeCommand hcrypto.cbor 0x06 "ClientPin" hparams
  rw [hread]
  dsimp only
  rw [if_neg]
  rintro ⟨h9, -⟩
  rw [hsubcommand] at h9
  exact hne (Option.some.inj h9)

theorem sendCommand_key {command response : List UInt8} {key' : SecurityKey}
    (h : key.respond crypto command = (response, key')) :
    HostM.sendCommand (SecurityKey.transport (R := R) crypto) command (r, key) =
      (.ok response, (r, key'), [.sentCommand command (.ok response)]) := by
  rw [HostM.sendCommand, Traced.ask_ok_iff, SecurityKey.transport]
  dsimp only
  rw [h]
  exact ⟨rfl, rfl⟩

theorem getKeyAgreement_key (hcrypto : crypto.Lawful) :
    getKeyAgreement crypto (SecurityKey.transport (R := R) crypto) protocol (r, key) =
      (.ok (key.next.device.secret.publicKey crypto.p256), (r, key.next),
        [.sentCommand (keyAgreementCommand crypto protocol)
          (.ok (agree crypto key.next.device))]) := by
  have hsubcommand : (getValueByInt (subcommandParams protocol subcmdGetKeyAgreement) 2).bind
      asInteger = some 2 := by
    simp [subcommandParams, subcmdGetKeyAgreement, asInteger]
  have hparams : (Cbor.map (subcommandParams protocol subcmdGetKeyAgreement)).Writable :=
    writable_subcommandParams protocol (by decide)
  have hdevice : respond crypto key.device (keyAgreementCommand crypto protocol) =
      (agree crypto key.device.next, key.device.next) := by
    rw [keyAgreementCommand, respond_clientPin hcrypto protocol hparams
      (by simp [subcommandParams])]
    rfl
  have hrespond : key.respond crypto (keyAgreementCommand crypto protocol) =
      (agree crypto key.next.device, key.next) :=
    respond_clientPin_key hdevice rfl
      (grantedBy_of_subcommand hcrypto hparams 2 hsubcommand (by decide) _ _)
  unfold getKeyAgreement
  rw [Traced.bind_of_ok (l := []) (sendCommand_key hrespond) (by
    rw [parseKeyAgreement_agree hcrypto]
    rfl)]
  rfl

/-- A key drawn beside a security key. -/
theorem generateSecret_key :
    HostM.generateSecret (rng.beside (T := SecurityKey)) (r, key) =
      (.ok (rng.secretKey r).1, ((rng.secretKey r).2, key),
        [.generatedSecret (rng.secretKey r).1]) := rfl

theorem randomBytes_key (n : Nat) :
    HostM.randomBytes (rng.beside (T := SecurityKey)) n (r, key) =
      (.ok (rng.bytes n r).1, ((rng.bytes n r).2, key), [.drewBytes (rng.bytes n r).1]) := rfl

variable (rng r key protocol) in
theorem freshIv_key :
    ∃ iv r' l, freshIv (rng.beside (T := SecurityKey)) protocol (r, key) =
      (.ok iv, (r', key), l) ∧ iv.length = 16 := by
  cases protocol with
  | one => exact ⟨_, _, _, rfl, List.length_replicate⟩
  | two => exact ⟨_, _, _, randomBytes_key 16, rng.length_bytes 16 r⟩

/-! ### Setting a PIN -/

variable (rng r key protocol) in
theorem setPin_key (hcrypto : crypto.Lawful) {pin : List UInt8} {text : String}
    (hunset : key.device.pin = none) (htext : fromUtf8 pin = some text) (hnul : 0 ∉ pin)
    (hlength : pin.length ≤ 63) (hmin : key.device.minPinLength ≤ text.toList.length) :
    ∃ r' l, setPin crypto (SecurityKey.transport crypto) rng.beside protocol pin (r, key) =
      (.ok (), (r', key.next.withPin pin), l) := by
  have hdevice := respond_setPin key.next.device protocol hcrypto (rng.secretKey r).1 hunset
    htext hnul hlength hmin (rng.length_bytes 16 (rng.secretKey r).2)
  have hrespond := respond_clientPin_key hdevice rfl
    (grantedBy_of_subcommand hcrypto (writable_setPinParams protocol _ _ _) 3
      (by simp [subcommandParams, subcmdSetPin, asInteger]) (by decide) _ _)
  have hstatus : splitClientPinStatus [0x00] = .ok [] := rfl
  exact ⟨_, _, Traced.bind_of_ok generateSecret_key (Traced.bind_of_ok
    (getKeyAgreement_key hcrypto) (Traced.bind_of_ok
      (Traced.lift_ok_iff.mpr ⟨ecdhSharedX_run hcrypto _ _, rfl, rfl⟩)
      (Traced.bind_of_ok (randomBytes_key 16) (Traced.bind_of_ok (sendCommand_key hrespond)
        (Traced.bind_of_ok (Traced.lift_ok_iff.mpr ⟨hstatus, rfl, rfl⟩) rfl)))))⟩

/-! ### Getting a token -/

/-- The answer to a token request with the hash of `pin`. -/
def tokenAnswer (crypto : CtapCrypto) (device : Device) (protocol : PinUvAuthProtocol)
    (z pin : List UInt8) : List UInt8 :=
  match device.pin with
  | none => [0x35]
  | some own =>
    if pinHash crypto pin = pinHash crypto own then
      0x00 :: crypto.cbor.intoWriter (.map [(.integer 2, .bytes
        (encipher crypto protocol (secretOf crypto protocol z) device.tokenIv device.token))])
    else [0x31]

theorem respond_tokenCommand (hcrypto : crypto.Lawful) (device : Device)
    (protocol : PinUvAuthProtocol) (platform : SecretKey) (pin : List UInt8) {iv : List UInt8}
    (permissions : UInt8) (rpId : Option String) (hiv : iv.length = 16) :
    let z := Arkg.diffieHellman crypto.p256 platform.1 (device.secret.publicKey crypto.p256)
    respond crypto device (tokenCommand crypto protocol (platform.publicKey crypto.p256)
      (encrypt crypto protocol (deriveAesKey crypto protocol z) (pinHash crypto pin) iv)
      permissions rpId) = (tokenAnswer crypto device protocol z pin, device) := by
  intro z
  have hhash := receivedPinHash_run device protocol hcrypto platform pin permissions rpId hiv
  dsimp only at hhash
  have hwritable : (Cbor.map (tokenParams protocol (platform.publicKey crypto.p256)
      (encrypt crypto protocol (deriveAesKey crypto protocol z) (pinHash crypto pin) iv)
      permissions rpId)).Writable := writable_tokenParams protocol _ _ permissions rpId
  have hparams : tokenCommand crypto protocol (platform.publicKey crypto.p256)
      (encrypt crypto protocol (deriveAesKey crypto protocol z) (pinHash crypto pin) iv)
      permissions rpId = encodeCommand crypto.cbor ctap2ClientPin (.map (tokenParams protocol
        (platform.publicKey crypto.p256) (encrypt crypto protocol (deriveAesKey crypto protocol z)
          (pinHash crypto pin) iv) permissions rpId)) := rfl
  have hsubcommand : (getValueByInt (tokenParams protocol (platform.publicKey crypto.p256)
      (encrypt crypto protocol (deriveAesKey crypto protocol z) (pinHash crypto pin) iv)
      permissions rpId) 2).bind asInteger = some 9 := by
    simp [tokenParams, subcommandParams, asInteger,
      subcmdGetPinUvAuthTokenUsingPinWithPermissions]
  rw [hparams, respond_clientPin hcrypto protocol hwritable
    (by simp [tokenParams, subcommandParams]), clientPin_token hsubcommand]
  unfold grantToken tokenAnswer
  rw [readPlatformKey_run hcrypto platform (by simp [tokenParams, subcommandParams]), ok_bind,
    sharedSecret_eq hcrypto, ok_bind]
  cases hpin : device.pin with
  | none => rfl
  | some own =>
    have hown : (crypto.kdf.sha256 own).take 16 = pinHash crypto own := rfl
    dsimp only
    rw [hhash, ok_bind, hown]
    by_cases heq : pinHash crypto pin = pinHash crypto own
    · rw [if_pos heq, if_neg (not_not.mpr heq)]
    · rw [if_neg heq, if_pos heq]

/-- A token request that is answered with success is granted. -/
theorem grantedBy_tokenCommand (hcrypto : crypto.Lawful) (protocol : PinUvAuthProtocol)
    (platform : PublicKey) (pinHashEnc : List UInt8) (permissions : UInt8) (rpId : Option String)
    (response : List UInt8) (granted : Option (Int × Option String)) :
    grantedBy crypto (tokenCommand crypto protocol platform pinHashEnc permissions rpId) response
        granted =
      if response.head? = some 0x00 then some ((permissions.toNat : Int), rpId) else granted := by
  have hread : readParams crypto.cbor 0x06 "ClientPin"
      (tokenCommand crypto protocol platform pinHashEnc permissions rpId) =
        .ok (tokenParams protocol platform pinHashEnc permissions rpId) :=
    readParams_encodeCommand hcrypto.cbor 0x06 "ClientPin"
      (writable_tokenParams protocol platform pinHashEnc permissions rpId)
  have hsubcommand : (getValueByInt (tokenParams protocol platform pinHashEnc permissions rpId)
      2).bind asInteger = some 9 := by
    simp [tokenParams, subcommandParams, asInteger,
      subcmdGetPinUvAuthTokenUsingPinWithPermissions]
  have hpermissions : (getValueByInt (tokenParams protocol platform pinHashEnc permissions rpId)
      9).bind asInteger = some (permissions.toNat : Int) := by
    simp [tokenParams, subcommandParams, asInteger]
  have hrpId : (getValueByInt (tokenParams protocol platform pinHashEnc permissions rpId)
      0x0a).bind asText = rpId := by
    cases rpId <;> simp [tokenParams, subcommandParams, asText]
  unfold grantedBy
  rw [hread]
  dsimp only
  rw [hsubcommand, hpermissions, hrpId]
  simp only [true_and, Option.getD_some]

theorem respond_tokenCommand_key (hcrypto : crypto.Lawful) {platform : PublicKey}
    {pinHashEnc response : List UInt8} {permissions : UInt8} {rpId : Option String}
    (h : respond crypto key.device (tokenCommand crypto protocol platform pinHashEnc permissions
      rpId) = (response, key.device)) :
    key.respond crypto (tokenCommand crypto protocol platform pinHashEnc permissions rpId) =
      (response, if response.head? = some 0x00 then key.grant permissions rpId else key) := by
  have hcommand : (tokenCommand crypto protocol platform pinHashEnc permissions rpId).head? =
    some 0x06 := rfl
  unfold SecurityKey.respond
  rw [hcommand]
  show answerClientPin crypto key _ = _
  unfold answerClientPin
  rw [h]
  dsimp only
  rw [grantedBy_tokenCommand hcrypto]
  split <;> rfl

/-- The end of an exchange: what is made of the answer to the token request. -/
theorem sendCommand_token {command answer aesKey : List UInt8} {key' : SecurityKey}
    (h : key.respond crypto command = (answer, key')) :
    (do
      let response ← HostM.sendCommand (SecurityKey.transport crypto) command
      let tokenEnc ← Traced.lift (parsePinToken crypto response)
      let token ← Traced.lift (decrypt crypto protocol aesKey tokenEnc)
      return (⟨protocol, token⟩ : PinUvAuthSession) : HostM (R × SecurityKey) _) (r, key) =
      ((parsePinToken crypto answer).bind fun tokenEnc =>
          (decrypt crypto protocol aesKey tokenEnc).map (PinUvAuthSession.mk protocol),
        (r, key'), [.sentCommand command (.ok answer)]) := by
  refine Traced.bind_of_ok (l := []) (sendCommand_key h) ?_
  cases parsePinToken crypto answer with
  | error e => rfl
  | ok tokenEnc => cases hdecrypt : decrypt crypto protocol aesKey tokenEnc <;>
    simp only [Traced.lift_ok_bind, hdecrypt, Except.bind, Except.map] <;> rfl

variable (rng r key protocol) in
/-- A token request with the hash of `pin`, as the key answers it. -/
theorem tokenWithPin_key (hcrypto : crypto.Lawful) (pin : List UInt8) (permissions : UInt8)
    (rpId : Option String) :
    ∃ z r' l, tokenWithPin crypto (SecurityKey.transport crypto) rng.beside protocol pin
        permissions rpId (r, key) =
      ((parsePinToken crypto (tokenAnswer crypto key.device protocol z pin)).bind fun tokenEnc =>
          (decrypt crypto protocol (deriveAesKey crypto protocol z) tokenEnc).map
            (PinUvAuthSession.mk protocol),
        (r', if (tokenAnswer crypto key.device protocol z pin).head? = some 0x00 then
          key.next.grant permissions rpId else key.next), l) := by
  obtain ⟨iv, r₂, l₂, hfresh, hiv⟩ := freshIv_key rng (rng.secretKey r).2 key.next protocol
  have hdevice := respond_tokenCommand hcrypto key.next.device protocol (rng.secretKey r).1 pin
    permissions rpId hiv
  exact ⟨_, _, _, Traced.bind_of_ok generateSecret_key (Traced.bind_of_ok
    (getKeyAgreement_key hcrypto) (Traced.bind_of_ok
      (Traced.lift_ok_iff.mpr ⟨ecdhSharedX_run hcrypto _ _, rfl, rfl⟩) (Traced.bind_of_ok hfresh
        (sendCommand_token (respond_tokenCommand_key hcrypto hdevice)))))⟩

variable (rng r key protocol) in
/-- With the key's PIN the token comes, and is granted what was asked for. -/
theorem tokenWithPin_right (hcrypto : crypto.Lawful) {own pin : List UInt8}
    (hpin : key.device.pin = some own) (heq : pinHash crypto pin = pinHash crypto own)
    (permissions : UInt8) (rpId : Option String) :
    ∃ r' l, tokenWithPin crypto (SecurityKey.transport crypto) rng.beside protocol pin permissions
        rpId (r, key) =
      (.ok ⟨protocol, key.device.token⟩, (r', key.next.grant permissions rpId), l) := by
  obtain ⟨z, r', l, hrun⟩ := tokenWithPin_key rng r key protocol hcrypto pin permissions rpId
  have hanswer : tokenAnswer crypto key.device protocol z pin = 0x00 :: crypto.cbor.intoWriter
      (.map [(.integer 2, .bytes (encipher crypto protocol (secretOf crypto protocol z)
        key.device.tokenIv key.device.token))]) := by
    unfold tokenAnswer
    rw [hpin]
    exact if_pos heq
  refine ⟨r', l, ?_⟩
  rw [hrun, hanswer, parsePinToken_run hcrypto]
  dsimp only [Except.bind]
  rw [decrypt_encipher hcrypto _ key.device.token_aligned key.device.length_tokenIv]
  rfl

variable (rng r key protocol) in
/-- With another the key says that the PIN is wrong. -/
theorem tokenWithPin_wrong (hcrypto : crypto.Lawful) {own pin : List UInt8}
    (hpin : key.device.pin = some own) (hne : pinHash crypto pin ≠ pinHash crypto own)
    (permissions : UInt8) (rpId : Option String) :
    ∃ r' l, tokenWithPin crypto (SecurityKey.transport crypto) rng.beside protocol pin permissions
        rpId (r, key) = (.error (.pin .invalid), (r', key.next), l) := by
  obtain ⟨z, r', l, hrun⟩ := tokenWithPin_key rng r key protocol hcrypto pin permissions rpId
  have hanswer : tokenAnswer crypto key.device protocol z pin = [0x31] := by
    unfold tokenAnswer
    rw [hpin]
    exact if_neg hne
  refine ⟨r', l, ?_⟩
  rw [hrun, hanswer]
  rfl

/-! ### Acquiring a token -/

theorem parsePinInfo_getInfo (hcrypto : crypto.Lawful) (hkey : key.Conforms) :
    ∃ protocol ∈ key.protocols, parsePinInfo crypto (getInfo crypto key).tail =
      .ok ⟨protocol, if key.device.pin.isSome then .set else .notSet, key.device.minPinLength⟩ := by
  obtain ⟨preferred, rest, hprotocols⟩ := List.exists_cons_of_ne_nil hkey.protocols
  refine ⟨preferred, hprotocols ▸ List.mem_cons_self, ?_⟩
  have hprotocolOf : protocolOf (.integer preferred.asInt) = some preferred := by
    cases preferred <;> rfl
  have hlength : (Cbor.integer key.device.minPinLength).asInteger.bind toU32 =
      some key.device.minPinLength :=
    (Uvm.asInteger_toU32_iff _ _).mpr ⟨rfl, hkey.minPinLength⟩
  obtain ⟨hwritable, ⟨options, hoptions, hclientPin⟩, hadvertised, hmin⟩ :=
    hkey.info key.device.pin.isSome
  rw [← getValueByInt_eq_some_iff] at hoptions hadvertised hmin
  rw [← getValueByText_eq_some_iff] at hclientPin
  unfold parsePinInfo getInfo
  rw [List.tail_cons, hcrypto.cbor.read_intoWriter hwritable]
  simp only [asMap, hoptions, hclientPin, hadvertised, hmin, asArray, asBool, Option.bind_some,
    hprotocols, List.map_cons, List.findSome?_cons, hprotocolOf, Option.getD_some, hlength]
  cases key.device.pin <;> rfl

theorem readPinInfo_key (hcrypto : crypto.Lawful) (hkey : key.Conforms) :
    ∃ protocol ∈ key.protocols,
      readPinInfo crypto (SecurityKey.transport (R := R) crypto) (r, key) =
        (.ok ⟨protocol, if key.device.pin.isSome then .set else .notSet,
          key.device.minPinLength⟩, (r, key),
          [.sentCommand [ctap2GetInfo] (.ok (getInfo crypto key))]) := by
  obtain ⟨protocol, hprotocol, hparse⟩ := parsePinInfo_getInfo hcrypto hkey
  have hrespond : key.respond crypto [ctap2GetInfo] = (getInfo crypto key, key) := rfl
  have hstatus : splitStatus (getInfo crypto key) = .ok (getInfo crypto key).tail := rfl
  refine ⟨protocol, hprotocol, Traced.bind_of_ok (l := []) (sendCommand_key hrespond) ?_⟩
  rw [hstatus]
  exact Traced.lift_ok_iff.mpr ⟨hparse, rfl, rfl⟩

variable {auth : AuthCallback R} {pluginId : String}

variable (rng r key auth pluginId) in
theorem tokenWithNewPin_key (hcrypto : crypto.Lawful) (hunset : key.device.pin = none)
    (info : AuthenticatorPinInfo) (hmin : info.minPinLength = key.device.minPinLength)
    (permissions : UInt8) (rpId : Option String) :
    let answer := auth.requestPinFor pluginId (.setNewPin info.minPinLength) r
    match answer.1.bind (pinVerdict crypto key) with
    | .error e =>
      ∃ l, tokenWithNewPin crypto (SecurityKey.transport crypto) rng.beside auth.beside pluginId
        info permissions rpId (r, key) = (.error e, (answer.2, key), l)
    | .ok pin =>
      ∃ r' l, tokenWithNewPin crypto (SecurityKey.transport crypto) rng.beside auth.beside pluginId
          info permissions rpId (r, key) =
        (.ok ⟨info.protocol, key.device.token⟩,
          (r', ((key.next.withPin pin).next.grant permissions rpId)), l) := by
  intro answer
  have hask : HostM.requestPinFor (auth.beside (T := SecurityKey)) pluginId
      (.setNewPin info.minPinLength) (r, key) = (answer.1, (answer.2, key),
        [.requestedPinFor pluginId (.setNewPin info.minPinLength) answer.1]) := rfl
  unfold tokenWithNewPin
  rcases hanswer : answer.1 with e | raw
  · rw [hanswer] at hask
    exact ⟨_, Traced.bind_of_error hask⟩
  rw [hanswer] at hask
  have hverdict : (Except.ok raw : Except WscdError Secret).bind (pinVerdict crypto key) =
      (validateNewPin crypto raw info.minPinLength).map utf8 := by
    rw [hmin, Except.bind, pinVerdict, hunset]
  rw [hverdict]
  rcases hvalid : validateNewPin crypto raw info.minPinLength with e | pin
  · exact ⟨_, Traced.bind_of_ok hask (Traced.bind_of_error (congrArg (·, _, _) hvalid))⟩
  · obtain ⟨pinText, -, -, hchars, hlong, hshort⟩ := validateNewPin_accepts hvalid
    have hnul : 0 ∉ utf8 pin := by rwa [zero_mem_utf8]
    obtain ⟨r₁, l₁, hset⟩ := setPin_key rng answer.2 key info.protocol hcrypto hunset
      (fromUtf8_utf8 pin) hnul hlong (hmin ▸ hshort)
    obtain ⟨r₂, l₂, htoken⟩ := tokenWithPin_right rng r₁ (key.next.withPin (utf8 pin))
      info.protocol hcrypto rfl rfl permissions rpId
    exact ⟨_, _, Traced.bind_of_ok hask (Traced.bind_of_ok
      (Traced.lift_ok_iff.mpr ⟨hvalid, rfl, rfl⟩) (Traced.bind_of_ok hset htoken))⟩

variable (rng r key auth pluginId) in
theorem tokenWithEnteredPin_key (hcrypto : crypto.Lawful) {own : List UInt8}
    (hpin : key.device.pin = some own) (info : AuthenticatorPinInfo)
    (permissions : UInt8) (rpId : Option String) :
    let answer := auth.requestPinFor pluginId .enterPin r
    match answer.1.bind (pinVerdict crypto key) with
    | .error e =>
      ∃ r' key' l, tokenWithEnteredPin crypto (SecurityKey.transport crypto) rng.beside auth.beside
          pluginId info permissions rpId (r, key) = (.error e, (r', key'), l) ∧
        (key' = key ∨ key' = key.next)
    | .ok pin =>
      pin = own ∧ ∃ r' l, tokenWithEnteredPin crypto (SecurityKey.transport crypto) rng.beside
          auth.beside pluginId info permissions rpId (r, key) =
        (.ok ⟨info.protocol, key.device.token⟩, (r', key.next.grant permissions rpId), l) := by
  intro answer
  have hask : HostM.requestPinFor (auth.beside (T := SecurityKey)) pluginId .enterPin (r, key) =
      (answer.1, (answer.2, key), [.requestedPinFor pluginId .enterPin answer.1]) := rfl
  unfold tokenWithEnteredPin
  rcases hanswer : answer.1 with e | raw
  · rw [hanswer] at hask
    exact ⟨_, _, _, Traced.bind_of_error hask, .inl rfl⟩
  rw [hanswer] at hask
  have hverdict : (Except.ok raw : Except WscdError Secret).bind (pinVerdict crypto key) =
      if (normalizePin crypto.nfc raw).contains 0 then .error (.pin .invalidEncoding)
      else if pinHash crypto (normalizePin crypto.nfc raw) = pinHash crypto own then .ok own
      else .error (.pin .invalid) := by
    rw [Except.bind, pinVerdict, hpin]
  rw [hverdict]
  by_cases hnul : (normalizePin crypto.nfc raw).contains 0
  · rw [if_pos hnul]
    exact ⟨_, _, _, Traced.bind_of_ok hask (by rw [if_pos hnul]; rfl), .inl rfl⟩
  rw [if_neg hnul]
  by_cases heq : pinHash crypto (normalizePin crypto.nfc raw) = pinHash crypto own
  · rw [if_pos heq]
    obtain ⟨r', l, htoken⟩ :=
      tokenWithPin_right rng answer.2 key info.protocol hcrypto hpin heq permissions rpId
    exact ⟨rfl, _, _, Traced.bind_of_ok hask (by rw [if_neg hnul, htoken])⟩
  · rw [if_neg heq]
    obtain ⟨r', l, htoken⟩ :=
      tokenWithPin_wrong rng answer.2 key info.protocol hcrypto hpin heq permissions rpId
    exact ⟨_, _, _, Traced.bind_of_ok hask (by rw [if_neg hnul, htoken]), .inr rfl⟩

variable (rng r key auth pluginId) in
/-- The token comes with the right PIN or a new one that is accepted, and not with another. -/
theorem acquire_key (hcrypto : crypto.Lawful) (hkey : key.Conforms) (permissions : UInt8)
    (rpId : Option String) :
    match (auth.requestPinFor pluginId key.purpose r).1.bind (pinVerdict crypto key) with
    | .error e =>
      ∃ r' key' l, acquirePinUvAuthToken crypto (SecurityKey.transport crypto) rng.beside
          auth.beside pluginId permissions rpId (r, key) = (.error e, (r', key'), l) ∧
        key.Keeps key' ∧ key'.device.pin = key.device.pin
    | .ok pin =>
      ∃ protocol ∈ key.protocols, ∃ r' key' l,
        acquirePinUvAuthToken crypto (SecurityKey.transport crypto) rng.beside auth.beside pluginId
            permissions rpId (r, key) = (.ok ⟨protocol, key.device.token⟩, (r', key'), l) ∧
        key.Keeps key' ∧ key'.device.pin = some pin ∧
        key'.granted = some ((permissions.toNat : Int), rpId) := by
  obtain ⟨protocol, hprotocol, hinfo⟩ := readPinInfo_key (R := R) (r := r) hcrypto hkey
  have hkeeps : key.Keeps key := ⟨rfl, rfl, rfl, rfl⟩
  unfold acquirePinUvAuthToken
  cases hpin : key.device.pin with
  | none =>
    have hpurpose : key.purpose = .setNewPin key.device.minPinLength := by
      rw [SecurityKey.purpose, hpin]
      rfl
    rw [hpin] at hinfo
    have hrun := tokenWithNewPin_key rng r key auth pluginId hcrypto hpin
      ⟨protocol, .notSet, key.device.minPinLength⟩ rfl permissions rpId
    rw [hpurpose]
    dsimp only at hrun
    split at hrun
    · rename_i e _
      obtain ⟨l, hrun⟩ := hrun
      exact ⟨_, _, _, Traced.bind_of_ok hinfo hrun, hkeeps, hpin⟩
    · rename_i pin _
      obtain ⟨r', l, hrun⟩ := hrun
      exact ⟨protocol, hprotocol, _, _, _, Traced.bind_of_ok hinfo hrun, ⟨rfl, rfl, rfl, rfl⟩,
        rfl, rfl⟩
  | some own =>
    have hpurpose : key.purpose = .enterPin := by
      rw [SecurityKey.purpose, hpin]
      rfl
    rw [hpin] at hinfo
    have hrun := tokenWithEnteredPin_key rng r key auth pluginId hcrypto hpin
      ⟨protocol, .set, key.device.minPinLength⟩ permissions rpId
    rw [hpurpose]
    dsimp only at hrun
    split at hrun
    · rename_i e _
      obtain ⟨r', key', l, hrun, hkey'⟩ := hrun
      have hsame : key.Keeps key' ∧ key'.device.pin = some own := by
        rcases hkey' with rfl | rfl
        · exact ⟨hkeeps, hpin⟩
        · exact ⟨⟨rfl, rfl, rfl, rfl⟩, hpin⟩
      exact ⟨_, _, _, Traced.bind_of_ok hinfo hrun, hsame⟩
    · rename_i pin _
      obtain ⟨rfl, r', l, hrun⟩ := hrun
      exact ⟨protocol, hprotocol, _, _, _, Traced.bind_of_ok hinfo hrun, ⟨rfl, rfl, rfl, rfl⟩,
        hpin, rfl⟩

/-! ## The commands -/

/-- The session is one on the key's token, granted for this. -/
structure SecurityKey.Grants (key : SecurityKey) (permission : UInt8) (rpId : String)
    (session : PinUvAuthSession) : Prop where
  protocol : session.protocol ∈ key.protocols
  token : session.token = key.device.token
  length : session.token.length ≤ 32
  granted : key.granted = some ((permission.toNat : Int), some rpId)

variable {session : PinUvAuthSession} {permission : UInt8} {rpId : String}

theorem asInt_injective : Function.Injective PinUvAuthProtocol.asInt := by
  intro p q h
  cases p <;> cases q <;> first | rfl | cases h

theorem find_asInt {protocols : List PinUvAuthProtocol} (h : protocol ∈ protocols) :
    (protocols.find? fun p => p.asInt = protocol.asInt) = some protocol := by
  cases hfind : protocols.find? fun p => decide (p.asInt = protocol.asInt) with
  | none => exact absurd rfl (of_decide_eq_false (Bool.eq_false_iff.mpr
      (List.find?_eq_none.mp hfind protocol h)))
  | some p =>
    have hp := List.find?_some hfind
    rw [asInt_injective (of_decide_eq_true hp)]

/-- What was authenticated in the session is accepted. -/
theorem checkPinUvAuth_session (h : key.Grants permission rpId session)
    (hpermission : permission ≠ 0) (clientDataHash : List UInt8) :
    checkPinUvAuth crypto key permission (some rpId) clientDataHash
      (some (session.authenticate crypto.kdf clientDataHash)) (some session.protocol.asInt) =
        .ok () := by
  have hverify : verify crypto session.protocol key.device.token clientDataHash
      (session.authenticate crypto.kdf clientDataHash) = true := by
    rw [PinUvAuthSession.authenticate, ← h.token]
    cases session.protocol with
    | one => exact beq_self_eq_true _
    | two =>
      unfold verify
      dsimp only
      rw [List.take_of_length_le h.length]
      exact beq_self_eq_true _
  have hpermits : permits key.granted permission (some rpId) = true := by
    have hne : permission.toNat ≠ 0 := fun hzero => hpermission (UInt8.toNat_inj.mp hzero)
    rw [h.granted]
    simp [permits, hne]
  unfold checkPinUvAuth
  dsimp only
  rw [find_asInt h.protocol]
  dsimp only
  rw [hverify, hpermits]
  rfl

theorem respond_makeCredential (hcrypto : crypto.Lawful)
    (h : key.Grants permissionMakeCredential rpId session) (userId clientDataHash : List UInt8)
    {generateKey : GenerateKeyInput} (halgorithms : ∀ a ∈ generateKey.algorithms, IsI64 a) :
    let command := buildMakeCredentialRequest crypto.cbor rpId userId clientDataHash generateKey
      (some (session.authenticate crypto.kdf clientDataHash, session.protocol.asInt))
    key.respond crypto command = (key.answer command, key.receive command) := by
  intro command
  have hread : readParams crypto.cbor 0x01 "MakeCredential" command = .ok _ :=
    readParams_encodeCommand hcrypto.cbor 0x01 "MakeCredential"
      (writable_makeCredentialParams rpId userId clientDataHash halgorithms
        (isI64_ofSession session _))
  have hcheck : checkPinUvAuth crypto key 0x01 (some rpId) clientDataHash _ _ = .ok () :=
    checkPinUvAuth_session h (by decide) clientDataHash
  have hcommand : command.head? = some 0x01 := rfl
  unfold SecurityKey.respond
  rw [hcommand]
  dsimp only
  rw [hread]
  simp only [answerCommand, makeCredentialParams, pinUvAuthEntries, getBytesByInt,
    List.cons_append, List.nil_append, getValueByInt_integer, getValueByText_text, asBytes, asMap,
    asText, asInteger, Option.bind_some, if_true, if_false, Int.reduceEq]
  rw [hcheck]

theorem respond_getAssertion (hcrypto : crypto.Lawful)
    (h : key.Grants permissionGetAssertion rpId session) (challenge credentialId : List UInt8)
    (sign : SignInput) :
    let command := buildGetAssertionRequest crypto.cbor rpId challenge credentialId sign
      (some (session.authenticate crypto.kdf challenge, session.protocol.asInt))
    key.respond crypto command = (key.answer command, key.receive command) := by
  intro command
  have hread : readParams crypto.cbor 0x02 "GetAssertion" command = .ok _ :=
    readParams_encodeCommand hcrypto.cbor 0x02 "GetAssertion"
      (writable_getAssertionParams rpId challenge credentialId sign (isI64_ofSession session _))
  have hcheck : checkPinUvAuth crypto key 0x02 (some rpId) challenge _ _ = .ok () :=
    checkPinUvAuth_session h (by decide) challenge
  have hcommand : command.head? = some 0x02 := rfl
  unfold SecurityKey.respond
  rw [hcommand]
  dsimp only
  rw [hread]
  simp only [answerCommand, getAssertionParams, pinUvAuthEntries, getBytesByInt,
    List.cons_append, List.nil_append, getValueByInt_integer, asBytes, asText, asInteger,
    Option.bind_some, if_true, if_false, Int.reduceEq]
  rw [hcheck]

end Exchanges

/-! ## A ceremony -/

section Ceremonies

variable {crypto : CtapCrypto} {R α : Type} {rng : Rng R} {auth : AuthCallback R} {r : R}
  {key : SecurityKey}

/-- What a ceremony whose command is `build` of its authentication comes to: with the right PIN,
or a new one that is accepted, what is made of the key's answer to the command, and without, an
error, and no command. -/
def CeremonyWith (key : SecurityKey) (verdict : Except WscdError (List UInt8))
    (build : Option (List UInt8 × Int) → List UInt8) (parse : List UInt8 → Except WscdError α)
    (outcome : Except WscdError α × (R × SecurityKey) × List HostEvent) : Prop :=
  let key' := outcome.2.1.2
  match verdict with
  | .error e =>
    outcome.1 = .error e ∧ key'.device.pin = key.device.pin ∧ key'.received = key.received
  | .ok pin => ∃ pinUvAuth, outcome.1 = parse (key.answer (build (some pinUvAuth))) ∧
      key'.device.pin = some pin ∧ key'.received = key.received ++ [build (some pinUvAuth)]

variable (rng auth r) in
/-- Both ceremonies are the same but for the command and the parser. -/
theorem ceremony_key (hcrypto : crypto.Lawful) (hkey : key.Conforms) {permission : UInt8}
    (rpId : String) (message : List UInt8) (build : Option (List UInt8 × Int) → List UInt8)
    (parse : List UInt8 → Except WscdError α)
    (hrespond : ∀ (key' : SecurityKey) (session : PinUvAuthSession),
      key'.Grants permission rpId session →
      let command := build (some (session.authenticate crypto.kdf message, session.protocol.asInt))
      key'.respond crypto command = (key'.answer command, key'.receive command)) :
    let verdict := (auth.requestPinFor "fido2" key.purpose r).1.bind (pinVerdict crypto key)
    CeremonyWith key verdict build parse ((do
      let pinUvAuth ← ceremonyPinUvAuth crypto (SecurityKey.transport crypto) rng.beside auth.beside
        permission rpId message
      let response ← HostM.sendCommand (SecurityKey.transport crypto) (build pinUvAuth)
      Traced.lift (parse response) : HostM (R × SecurityKey) α) (r, key)) := by
  have hacquire := acquire_key rng r key auth "fido2" hcrypto hkey permission (some rpId)
  have hget : (Traced.get (SecurityKey.transport (R := R) crypto).performsUserVerification :
      HostM (R × SecurityKey) Bool) (r, key) = (.ok false, (r, key), []) := rfl
  unfold CeremonyWith
  dsimp only
  rcases hverdict : (auth.requestPinFor "fido2" key.purpose r).1.bind (pinVerdict crypto key)
    with e | pin
  · rw [hverdict] at hacquire
    obtain ⟨r', key', l, hrun, hkeeps, hpin⟩ := hacquire
    have hauth : ceremonyPinUvAuth crypto (SecurityKey.transport crypto) rng.beside auth.beside
        permission rpId message (r, key) = (.error e, (r', key'), _) :=
      Traced.bind_of_ok hget (Traced.bind_of_error hrun)
    rw [Traced.bind_of_error hauth]
    exact ⟨rfl, hpin, hkeeps.received⟩
  · rw [hverdict] at hacquire
    obtain ⟨protocol, hprotocol, r', key', l, hrun, hkeeps, hpin, hgranted⟩ := hacquire
    have hgrants : key'.Grants permission rpId ⟨protocol, key.device.token⟩ :=
      ⟨hkeeps.protocols.symm ▸ hprotocol, hkeeps.token.symm, hkey.token, hgranted⟩
    have hauth : ceremonyPinUvAuth crypto (SecurityKey.transport crypto) rng.beside auth.beside
        permission rpId message (r, key) = (.ok (some _), (r', key'), _) :=
      Traced.bind_of_ok hget (Traced.bind_of_ok hrun rfl)
    have hsend := sendCommand_key (R := R) (r := r') (hrespond key' _ hgrants)
    rw [Traced.bind_of_ok hauth (Traced.bind_of_ok hsend rfl)]
    refine ⟨_, congrArg parse (congrFun hkeeps.answer _), hpin, ?_⟩
    rw [← hkeeps.received]
    rfl

end Ceremonies

/-- With a security key both ceremonies hinge on its PIN. If it is what the user gave, or the key
has none and takes the one the user chose, the command goes to the key with an authentication
that the key accepts, and the result is what its answer says. Else the key has received no
command, its PIN is what it was, and the user is told why. -/
theorem ceremonies_with_security_key (crypto : CtapCrypto) (hcrypto : crypto.Lawful) {R : Type}
    (rng : Rng R) (auth : AuthCallback R) (r : R) (key : SecurityKey) (hkey : key.Conforms)
    (rpId : String) :
    let verdict := (auth.requestPinFor "fido2" key.purpose r).1.bind (pinVerdict crypto key)
    (∀ (userId clientDataHash : List UInt8) (generateKey : GenerateKeyInput),
      (∀ a ∈ generateKey.algorithms, IsI64 a) →
      CeremonyWith key verdict
        (buildMakeCredentialRequest crypto.cbor rpId userId clientDataHash generateKey)
        (parseMakeCredentialResponse crypto.cbor)
        (makeCredential crypto (SecurityKey.transport crypto) rng.beside auth.beside rpId userId
          clientDataHash generateKey (r, key))) ∧
    ∀ (challenge credentialId : List UInt8) (sign : SignInput),
      CeremonyWith key verdict
        (buildGetAssertionRequest crypto.cbor rpId challenge credentialId sign)
        (parseGetAssertionResponse crypto.cbor)
        (PreviewSign.getAssertion crypto (SecurityKey.transport crypto) rng.beside auth.beside rpId
          challenge credentialId sign (r, key)) := by
  constructor
  · intro userId clientDataHash generateKey halgorithms
    exact ceremony_key rng auth r hcrypto hkey rpId clientDataHash _ _ fun key' session h =>
      respond_makeCredential hcrypto h userId clientDataHash halgorithms
  · intro challenge credentialId sign
    exact ceremony_key rng auth r hcrypto hkey rpId challenge _ _ fun key' session h =>
      respond_getAssertion hcrypto h challenge credentialId sign

/-! ## A key without a PIN, and a user who chooses one of four digits -/

namespace PinDemo

def key : SecurityKey where
  device := device
  protocols := [.two, .one]
  info isSet := [(.integer 1, .array [.text "FIDO_2_0", .text "FIDO_2_1"]),
    (.integer 2, .array [.text "previewSign"]), (.integer 3, .bytes (List.replicate 16 0)),
    (.integer 4, .map [(.text "rk", .bool true), (.text "clientPin", .bool isSet),
      (.text "pinUvAuthToken", .bool true)]),
    (.integer 5, .integer 1200), (.integer 6, .array [.integer 2, .integer 1]),
    (.integer 0x0d, .integer 4)]
  granted := none
  answer _ := [0x27]
  received := []

theorem key_conforms : key.Conforms where
  protocols := by simp [key]
  token := by decide
  minPinLength := by simp [key, device]
  info isSet := {
    writable := by simp [Writable, key]
    clientPin := ⟨_, (getValueByInt_eq_some_iff ..).mp rfl, (getValueByText_eq_some_iff ..).mp rfl⟩
    protocols := (getValueByInt_eq_some_iff ..).mp rfl
    minPinLength := (getValueByInt_eq_some_iff ..).mp rfl }

/-- The user who types `1234`. -/
def auth : AuthCallback Unit where
  requestPin _ w := (.ok (utf8 "1234"), w)
  requestPinFor _ _ w := (.ok (utf8 "1234"), w)
  requestWebauthnAssertion _ _ _ _ w := (.error .authCancelled, w)

end PinDemo

theorem ceremonies_with_security_key_digits :
    ∃ key', (PreviewSign.getAssertion scalarCrypto (SecurityKey.transport scalarCrypto)
        PinDemo.rng.beside PinDemo.auth.beside "rp" [1] [2] ⟨[3], [4], none⟩
        ((), PinDemo.key)).2.1.2 = key' ∧
      key'.device.pin = some [49, 50, 51, 52] ∧ key'.received.length = 1 := by
  obtain ⟨pinUvAuth, -, hpin, hreceived⟩ :=
    (ceremonies_with_security_key scalarCrypto scalarCrypto_lawful PinDemo.rng PinDemo.auth ()
      PinDemo.key PinDemo.key_conforms "rp").2 [1] [2] ⟨[3], [4], none⟩
  exact ⟨_, rfl, hpin, congrArg List.length hreceived⟩

end Wscd.Authenticator
