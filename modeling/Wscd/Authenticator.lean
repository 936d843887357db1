import Wscd.CryptoLaws
import Wscd.PreviewSign.Requests
import Mathlib.Data.List.DropRight

/-!
# The authenticator's side of a PIN

What CTAP 2.1 has an authenticator do with a ClientPin command: agree on a key, take a new
PIN, hand out a token against the hash of the PIN it has. Nothing here is the wallet's, so
that the wallet can be compared with it.

Results:
1. `verify_hmacFor`, `decipher_encrypt`, `decrypt_encipher`: the wallet's keys, MACs and
   ciphertexts are the authenticator's.
2. `setPin_run`, `tokenWithPin_run`: the two exchanges, run against an authenticator.
3. `new_pin_is_stored_and_used`: a PIN that is accepted is stored in its normal form, and the
   token is handed out against it.
-/

namespace Wscd.Authenticator

open Lib Cbor PreviewSign ClientPin

/-- An authenticator, as far as ClientPin goes. -/
structure Device where
  /-- The key for each of its key agreements; it may keep one or draw afresh. -/
  keys : Nat → SecretKey
  agreements : Nat
  minPinLength : Nat
  pin : Option (List UInt8)
  token : List UInt8
  /-- The IV it encrypts the token with, under protocol two. -/
  tokenIv : List UInt8
  token_aligned : 16 ∣ token.length
  length_tokenIv : tokenIv.length = 16

def Device.secret (device : Device) : SecretKey := device.keys device.agreements

/-- Another key agreement, under a key that may be a new one. -/
def Device.next (device : Device) : Device := { device with agreements := device.agreements + 1 }

/-- Its PIN is this one now. -/
def Device.withPin (device : Device) (pin : List UInt8) : Device := { device with pin := some pin }

section Definitions

variable (crypto : CtapCrypto)

/-! ## The two PIN/UV auth protocols -/

/-- `ecdh`: the shared secret. Under protocol two it is an HMAC key and an AES key, in one. -/
def sharedSecret (protocol : PinUvAuthProtocol) (secret : SecretKey) (peer : PublicKey) :
    Except UInt8 (List UInt8) :=
  let z := Arkg.diffieHellman crypto.p256 secret.1 peer
  match protocol with
  | .one => .ok (crypto.kdf.sha256 z)
  | .two =>
    match crypto.kdf.hkdfExpand (List.replicate 32 0) z (Arkg.ascii "CTAP2 HMAC key") 32,
      crypto.kdf.hkdfExpand (List.replicate 32 0) z (Arkg.ascii "CTAP2 AES key") 32 with
    | .ok hmacKey, .ok aesKey => .ok (hmacKey ++ aesKey)
    | _, _ => .error 0x7f

def verify (protocol : PinUvAuthProtocol) (key message signature : List UInt8) : Bool :=
  match protocol with
  | .one => signature == (crypto.kdf.hmac key message).take 16
  | .two => signature == crypto.kdf.hmac (key.take 32) message

def encipher (protocol : PinUvAuthProtocol) (key iv plaintext : List UInt8) : List UInt8 :=
  match protocol with
  | .one => crypto.aesCbcEncrypt key (List.replicate 16 0) plaintext
  | .two => iv ++ crypto.aesCbcEncrypt (key.drop 32) iv plaintext

/-- The plaintext, or the status for a ciphertext that has none. -/
def decipher (status : UInt8) (protocol : PinUvAuthProtocol) (key ciphertext : List UInt8) :
    Except UInt8 (List UInt8) :=
  let aes (key iv ct : List UInt8) : Except UInt8 (List UInt8) :=
    match crypto.aesCbcDecrypt key iv ct with
    | .ok plaintext => .ok plaintext
    | .error _ => .error status
  match protocol with
  | .one => aes key (List.replicate 16 0) ciphertext
  | .two =>
    if ciphertext.length < 16 then .error status
    else aes (key.drop 32) (ciphertext.take 16) (ciphertext.drop 16)

/-! ## The subcommands -/

/-- A parameter that has to be there. -/
def required (params : List (Cbor × Cbor)) (key : Int) : Except UInt8 (List UInt8) :=
  match getBytesByInt params key with
  | some octets => .ok octets
  | none => .error 0x14

/-- The platform's key agreement key. -/
def readPlatformKey (params : List (Cbor × Cbor)) : Except UInt8 PublicKey :=
  match (getValueByInt params 3).bind asMap with
  | none => .error 0x14
  | some coseKey => do
    let x ← required coseKey (-2)
    let y ← required coseKey (-3)
    match crypto.p256.fromSec1Bytes (0x04 :: x ++ y) with
    | .ok peer => .ok peer
    | .error _ => .error 0x02

/-- The answer to a key agreement: the authenticator's key, in COSE form. -/
def agree (device : Device) : List UInt8 :=
  let key := device.secret.publicKey crypto.p256
  0x00 :: crypto.cbor.intoWriter (.map [(.integer 1, .map [(.integer 1, .integer 2),
    (.integer 3, .integer (-25)), (.integer (-1), .integer 1), (.integer (-2), .bytes key.x),
    (.integer (-3), .bytes key.y)])])

/-- The PIN in a setPIN, once everything about it checks out. -/
def newPin (device : Device) (protocol : PinUvAuthProtocol) (params : List (Cbor × Cbor)) :
    Except UInt8 (List UInt8) := do
  let peer ← readPlatformKey crypto params
  let pinUvAuthParam ← required params 4
  let newPinEnc ← required params 5
  let key ← sharedSecret crypto protocol device.secret peer
  if verify crypto protocol key newPinEnc pinUvAuthParam = false then .error 0x33
  else
    let padded ← decipher crypto 0x33 protocol key newPinEnc
    if padded.length ≠ 64 then .error 0x02
    else
      let pin := padded.rdropWhile (· = 0)
      match fromUtf8 pin with
      | none => .error 0x37
      | some s =>
        if 63 < pin.length ∨ s.toList.length < device.minPinLength then .error 0x37
        else .ok pin

/-- The PIN hash in a token request. -/
def receivedPinHash (device : Device) (protocol : PinUvAuthProtocol)
    (params : List (Cbor × Cbor)) : Except UInt8 (List UInt8) := do
  let peer ← readPlatformKey crypto params
  let pinHashEnc ← required params 6
  let key ← sharedSecret crypto protocol device.secret peer
  decipher crypto 0x31 protocol key pinHashEnc

/-- The encrypted token, against the right PIN hash. -/
def grantToken (device : Device) (protocol : PinUvAuthProtocol) (params : List (Cbor × Cbor)) :
    Except UInt8 (List UInt8) := do
  let peer ← readPlatformKey crypto params
  let key ← sharedSecret crypto protocol device.secret peer
  match device.pin with
  | none => .error 0x35
  | some pin =>
    let pinHash ← receivedPinHash crypto device protocol params
    if pinHash ≠ (crypto.kdf.sha256 pin).take 16 then .error 0x31
    else .ok (encipher crypto protocol key device.tokenIv device.token)

/-- The answer to a ClientPin command with these parameters. -/
def clientPin (device : Device) (protocol : PinUvAuthProtocol) (params : List (Cbor × Cbor)) :
    List UInt8 × Device :=
  match (getValueByInt params 2).bind asInteger with
  | some 2 => (agree crypto device.next, device.next)
  | some 3 =>
    if device.pin.isSome then ([0x33], device)
    else
      match newPin crypto device protocol params with
      | .ok pin => ([0x00], device.withPin pin)
      | .error status => ([status], device)
  | some 9 =>
    match grantToken crypto device protocol params with
    | .ok token => (0x00 :: crypto.cbor.intoWriter (.map [(.integer 2, .bytes token)]), device)
    | .error status => ([status], device)
  | _ => ([0x3e], device)

/-- The answer to a command. -/
def respond (device : Device) (command : List UInt8) : List UInt8 × Device :=
  match readParams crypto.cbor 0x06 "ClientPin" command with
  | .error _ => ([0x01], device)
  | .ok params =>
    match (getValueByInt params 1).bind asInteger with
    | some 1 => clientPin crypto device .one params
    | some 2 => clientPin crypto device .two params
    | _ => ([0x02], device)

/-- A transport that leads to an authenticator, beside whatever else is outside. -/
def transport {R : Type} : Ctap2Transport (R × Device) where
  ctap2SendCommand command w :=
    (.ok (respond crypto w.2 command).1, (w.1, (respond crypto w.2 command).2))
  performsUserVerification _ := false

end Definitions

/-! ## The two sides agree -/

section Agreement

variable {crypto : CtapCrypto} {protocol : PinUvAuthProtocol}

/-- Stripping the padding leaves what was padded. -/
theorem rdropWhile_padded {octets : List UInt8} (h : 0 ∉ octets) (n : Nat) :
    (octets ++ List.replicate n 0).rdropWhile (· = 0) = octets := by
  induction n with
  | zero =>
    rw [List.replicate_zero, List.append_nil, List.rdropWhile_eq_self_iff]
    intro hne hlast
    exact h (of_decide_eq_true hlast ▸ List.getLast_mem hne)
  | succ n ih =>
    rw [List.replicate_succ', ← List.append_assoc, List.rdropWhile_concat_pos _ _ _ (by simp)]
    exact ih

theorem hkdfKey_spec (hkdf : crypto.kdf.Lawful) (z : List UInt8) (info : String) :
    crypto.kdf.hkdfExpand (List.replicate 32 0) z (Arkg.ascii info) 32 =
        .ok (hkdfKey crypto z info) ∧ (hkdfKey crypto z info).length = 32 := by
  obtain ⟨okm, hokm, hlength⟩ := hkdf.hkdf_ok (List.replicate 32 0) z (Arkg.ascii info)
  have hkey : hkdfKey crypto z info = okm := by rw [hkdfKey, protocolTwoHkdfSalt, hokm]
  rw [hkey]
  exact ⟨hokm, hlength⟩

/-- The shared secret for the wallet's `z`, which the wallet never writes down in one. -/
def secretOf (crypto : CtapCrypto) (protocol : PinUvAuthProtocol) (z : List UInt8) : List UInt8 :=
  match protocol with
  | .one => deriveAesKey crypto .one z
  | .two => deriveHmacKey crypto .two z ++ deriveAesKey crypto .two z

theorem sharedSecret_eq (hcrypto : crypto.Lawful) (device platform : SecretKey) :
    sharedSecret crypto protocol device (platform.publicKey crypto.p256) =
      .ok (secretOf crypto protocol
        (Arkg.diffieHellman crypto.p256 platform.1 (device.publicKey crypto.p256))) := by
  rw [← hcrypto.p256.diffieHellman_comm]
  cases protocol with
  | one => rfl
  | two =>
    unfold sharedSecret
    dsimp only
    rw [(hkdfKey_spec hcrypto.kdf _ "CTAP2 HMAC key").1,
      (hkdfKey_spec hcrypto.kdf _ "CTAP2 AES key").1]
    rfl

theorem verify_hmacFor (hcrypto : crypto.Lawful) (z message : List UInt8) :
    verify crypto protocol (secretOf crypto protocol z) message
      (hmacFor crypto.kdf protocol (deriveHmacKey crypto protocol z) message) = true := by
  cases protocol with
  | one => exact beq_self_eq_true _
  | two =>
    have hkey : (secretOf crypto .two z).take 32 = deriveHmacKey crypto .two z :=
      List.take_left' (hkdfKey_spec hcrypto.kdf z "CTAP2 HMAC key").2
    unfold verify
    dsimp only
    rw [hkey]
    exact beq_self_eq_true _

theorem length_deriveAesKey (hcrypto : crypto.Lawful) (z : List UInt8) :
    (deriveAesKey crypto protocol z).length = 32 := by
  cases protocol with
  | one => exact hcrypto.kdf.length_sha256 z
  | two => exact (hkdfKey_spec hcrypto.kdf z "CTAP2 AES key").2

/-- The AES key is the second half of the shared secret. -/
theorem drop_secretOf_two (hcrypto : crypto.Lawful) (z : List UInt8) :
    (secretOf crypto .two z).drop 32 = deriveAesKey crypto .two z :=
  List.drop_left' (hkdfKey_spec hcrypto.kdf z "CTAP2 HMAC key").2

/-- The authenticator reads what the wallet encrypts. -/
theorem decipher_encrypt (hcrypto : crypto.Lawful) (status : UInt8) (z : List UInt8)
    {m iv : List UInt8} (hm : 16 ∣ m.length) (hiv : iv.length = 16) :
    decipher crypto status protocol (secretOf crypto protocol z)
      (encrypt crypto protocol (deriveAesKey crypto protocol z) m iv) = .ok m := by
  cases protocol with
  | one =>
    have haes := hcrypto.aesCbc (deriveAesKey crypto .one z) (List.replicate 16 0) m
      (length_deriveAesKey hcrypto z) List.length_replicate hm
    simp only [decipher, encrypt, protocolOneZeroIv, secretOf, haes]
  | two =>
    have haes := hcrypto.aesCbc (deriveAesKey crypto .two z) iv m
      (length_deriveAesKey hcrypto z) hiv hm
    unfold decipher encrypt
    dsimp only
    rw [if_neg (by rw [List.length_append, hiv]; omega), drop_secretOf_two hcrypto,
      List.take_left' hiv, List.drop_left' hiv, haes]

/-- The wallet reads what the authenticator encrypts. -/
theorem decrypt_encipher (hcrypto : crypto.Lawful) (z : List UInt8) {m iv : List UInt8}
    (hm : 16 ∣ m.length) (hiv : iv.length = 16) :
    decrypt crypto protocol (deriveAesKey crypto protocol z)
      (encipher crypto protocol (secretOf crypto protocol z) iv m) = .ok m := by
  cases protocol with
  | one =>
    have haes := hcrypto.aesCbc (deriveAesKey crypto .one z) (List.replicate 16 0) m
      (length_deriveAesKey hcrypto z) List.length_replicate hm
    simp only [decrypt, encipher, protocolOneZeroIv, secretOf, haes]
  | two =>
    have haes := hcrypto.aesCbc (deriveAesKey crypto .two z) iv m
      (length_deriveAesKey hcrypto z) hiv hm
    unfold decrypt encipher
    dsimp only
    rw [if_neg (by rw [List.length_append, hiv]; omega), drop_secretOf_two hcrypto,
      List.take_left' hiv, List.drop_left' hiv, haes]

end Agreement

/-! ## The exchanges -/

/-- The parameters of a token request. -/
def tokenParams (protocol : PinUvAuthProtocol) (platform : PublicKey) (pinHashEnc : List UInt8)
    (permissions : UInt8) (rpId : Option String) : List (Cbor × Cbor) :=
  subcommandParams protocol subcmdGetPinUvAuthTokenUsingPinWithPermissions ++
    [(.integer 3, encodePlatformCoseKey platform), (.integer 6, .bytes pinHashEnc),
      (.integer 9, .integer permissions.toNat)] ++
    (rpId.map fun rpId => (.integer 0x0a, .text rpId)).toList

section Exchanges

variable {crypto : CtapCrypto} {R : Type} {rng : Rng R} {r : R} {device : Device}
  {protocol : PinUvAuthProtocol}

theorem respond_clientPin (hcrypto : crypto.Lawful) (protocol : PinUvAuthProtocol)
    {params : List (Cbor × Cbor)} (hparams : (Cbor.map params).Writable)
    (hprotocol : getValueByInt params 1 = some (.integer protocol.asInt)) :
    respond crypto device (encodeCommand crypto.cbor ctap2ClientPin (.map params)) =
      clientPin crypto device protocol params := by
  unfold respond
  have hread : readParams crypto.cbor 0x06 "ClientPin"
      (encodeCommand crypto.cbor ctap2ClientPin (.map params)) = .ok params :=
    readParams_encodeCommand hcrypto.cbor 0x06 "ClientPin" hparams
  rw [hread]
  dsimp only
  rw [hprotocol]
  cases protocol <;> rfl

theorem clientPin_setPin {params : List (Cbor × Cbor)}
    (h : (getValueByInt params 2).bind asInteger = some 3) :
    clientPin crypto device protocol params =
      if device.pin.isSome then ([0x33], device)
      else
        match newPin crypto device protocol params with
        | .ok pin => ([0x00], device.withPin pin)
        | .error status => ([status], device) := by
  rw [clientPin, h]
  rfl

theorem clientPin_token {params : List (Cbor × Cbor)}
    (h : (getValueByInt params 2).bind asInteger = some 9) :
    clientPin crypto device protocol params =
      match grantToken crypto device protocol params with
      | .ok token =>
        (0x00 :: crypto.cbor.intoWriter (.map [(.integer 2, .bytes token)]), device)
      | .error status => ([status], device) := by
  rw [clientPin, h]
  rfl

theorem parseKeyAgreement_agree (hcrypto : crypto.Lawful) :
    parseKeyAgreement crypto (agree crypto device) = .ok (device.secret.publicKey crypto.p256) := by
  have hstatus : splitClientPinStatus (agree crypto device) = .ok (agree crypto device).tail := rfl
  unfold parseKeyAgreement
  rw [hstatus]
  dsimp only
  rw [agree, List.tail_cons, hcrypto.cbor.read_intoWriter (by simp [Writable])]
  simp only [asMap, getValueByInt_integer, if_true]
  exact hcrypto.p256.decode_coseKey device.secret
    [(.integer 1, .integer 2), (.integer 3, .integer (-25)), (.integer (-1), .integer 1)] rfl rfl

theorem getKeyAgreement_run (hcrypto : crypto.Lawful) :
    getKeyAgreement crypto (transport (R := R) crypto) protocol (r, device) =
      (.ok (device.next.secret.publicKey crypto.p256), (r, device.next),
        [.sentCommand (keyAgreementCommand crypto protocol) (.ok (agree crypto device.next))]) := by
  have hrespond : respond crypto device (keyAgreementCommand crypto protocol) =
      (agree crypto device.next, device.next) := by
    rw [keyAgreementCommand, respond_clientPin hcrypto protocol
      (writable_subcommandParams protocol (by decide)) (by simp [subcommandParams])]
    rfl
  have hsend : HostM.sendCommand (transport (R := R) crypto)
      (keyAgreementCommand crypto protocol) (r, device) =
      (.ok (agree crypto device.next), (r, device.next),
        [.sentCommand (keyAgreementCommand crypto protocol) (.ok (agree crypto device.next))]) := by
    rw [HostM.sendCommand, Traced.ask_ok_iff, transport]
    dsimp only
    rw [hrespond]
    exact ⟨rfl, rfl⟩
  unfold getKeyAgreement
  rw [Traced.bind_of_ok (l := []) hsend (by
    rw [parseKeyAgreement_agree hcrypto]
    rfl)]
  rfl

theorem ecdhSharedX_run (hcrypto : crypto.Lawful) (platform device : SecretKey) :
    ecdhSharedX crypto platform (device.publicKey crypto.p256) =
      .ok (Arkg.diffieHellman crypto.p256 platform.1 (device.publicKey crypto.p256)) := by
  unfold ecdhSharedX
  dsimp only
  rw [if_neg (by rw [hcrypto.p256.length_diffieHellman]; simp)]

theorem readPlatformKey_run (hcrypto : crypto.Lawful) (platform : SecretKey)
    {params : List (Cbor × Cbor)}
    (hparams : getValueByInt params 3 =
      some (encodePlatformCoseKey (platform.publicKey crypto.p256))) :
    readPlatformKey crypto params = .ok (platform.publicKey crypto.p256) := by
  have hpoint := hcrypto.p256.fromSec1Bytes_point platform.1 (platform.publicKey crypto.p256)
    (SecretKey.some_publicKey crypto.p256 platform).symm
  unfold readPlatformKey
  rw [hparams, encodePlatformCoseKey]
  simp only [asMap, Option.bind_some, required, getBytesByInt, getValueByInt_integer, reduceIte,
    asBytes, ok_bind, Int.reduceEq, Int.reduceNeg]
  rw [hpoint]

theorem required_bytes {params : List (Cbor × Cbor)} {key : Int} (octets : List UInt8)
    (h : getValueByInt params key = some (.bytes octets)) : required params key = .ok octets := by
  rw [required, getBytesByInt, h]
  rfl

variable (device protocol) in
/-- A setPIN is taken: its PIN is the one that was padded. -/
theorem newPin_run (hcrypto : crypto.Lawful) (platform : SecretKey) {pin iv : List UInt8}
    {text : String} (htext : fromUtf8 pin = some text) (hnul : 0 ∉ pin)
    (hlength : pin.length ≤ 63) (hmin : device.minPinLength ≤ text.toList.length)
    (hiv : iv.length = 16) :
    let z := Arkg.diffieHellman crypto.p256 platform.1 (device.secret.publicKey crypto.p256)
    newPin crypto device protocol (subcommandParams protocol subcmdSetPin ++
      [(.integer 3, encodePlatformCoseKey (platform.publicKey crypto.p256)),
        (.integer 4, .bytes (setPinFields crypto protocol z pin iv).2),
        (.integer 5, .bytes (setPinFields crypto protocol z pin iv).1)]) = .ok pin := by
  intro z
  have hpadded : (pin ++ List.replicate (paddedPinBytes - pin.length) 0).length = 64 := by
    rw [List.length_append, List.length_replicate, paddedPinBytes]
    omega
  unfold newPin
  rw [readPlatformKey_run hcrypto platform (by simp [subcommandParams]), ok_bind,
    required_bytes (setPinFields crypto protocol z pin iv).2 (by simp [subcommandParams]), ok_bind,
    required_bytes (setPinFields crypto protocol z pin iv).1 (by simp [subcommandParams]), ok_bind,
    sharedSecret_eq hcrypto, ok_bind]
  unfold setPinFields
  rw [verify_hmacFor hcrypto, if_neg (by simp),
    decipher_encrypt hcrypto 0x33 _ (by rw [hpadded]; decide) hiv, ok_bind,
    if_neg (by simp [hpadded]), rdropWhile_padded hnul]
  dsimp only
  rw [htext]
  dsimp only
  rw [if_neg (by omega)]

variable (device protocol) in
/-- A token request carries the hash of its PIN. -/
theorem receivedPinHash_run (hcrypto : crypto.Lawful) (platform : SecretKey)
    (pin : List UInt8) {iv : List UInt8} (permissions : UInt8) (rpId : Option String)
    (hiv : iv.length = 16) :
    let z := Arkg.diffieHellman crypto.p256 platform.1 (device.secret.publicKey crypto.p256)
    receivedPinHash crypto device protocol
      (tokenParams protocol (platform.publicKey crypto.p256)
        (encrypt crypto protocol (deriveAesKey crypto protocol z) (pinHash crypto pin) iv)
        permissions rpId) = .ok (pinHash crypto pin) := by
  intro z
  have hhash : 16 ∣ (pinHash crypto pin).length := by
    rw [pinHash, List.length_take, hcrypto.kdf.length_sha256]
    decide
  unfold receivedPinHash
  rw [readPlatformKey_run hcrypto platform (by simp [tokenParams, subcommandParams]), ok_bind,
    required_bytes
      (encrypt crypto protocol (deriveAesKey crypto protocol z) (pinHash crypto pin) iv)
      (by simp [tokenParams, subcommandParams]), ok_bind,
    sharedSecret_eq hcrypto, ok_bind, decipher_encrypt hcrypto 0x31 _ hhash hiv]

theorem sendCommand_run {command response : List UInt8} {device' : Device}
    (h : respond crypto device command = (response, device')) :
    HostM.sendCommand (transport (R := R) crypto) command (r, device) =
      (.ok response, (r, device'), [.sentCommand command (.ok response)]) := by
  rw [HostM.sendCommand, Traced.ask_ok_iff, transport]
  dsimp only
  rw [h]
  exact ⟨rfl, rfl⟩

theorem lift_run {α : Type} {result : Except WscdError α} {a : α} (h : result = .ok a)
    (w : R × Device) : (Traced.lift result : HostM (R × Device) α) w = (.ok a, w, []) :=
  Traced.lift_ok_iff.mpr ⟨h, rfl, rfl⟩

/-- A key drawn beside an authenticator. -/
theorem generateSecret_run :
    HostM.generateSecret (rng.beside (T := Device)) (r, device) =
      (.ok (rng.secretKey r).1, ((rng.secretKey r).2, device),
        [.generatedSecret (rng.secretKey r).1]) := rfl

theorem randomBytes_run (n : Nat) :
    HostM.randomBytes (rng.beside (T := Device)) n (r, device) =
      (.ok (rng.bytes n r).1, ((rng.bytes n r).2, device), [.drewBytes (rng.bytes n r).1]) := rfl

variable (device protocol) in
theorem respond_setPin (hcrypto : crypto.Lawful) (platform : SecretKey) {pin iv : List UInt8}
    {text : String} (hunset : device.pin = none) (htext : fromUtf8 pin = some text)
    (hnul : 0 ∉ pin) (hlength : pin.length ≤ 63)
    (hmin : device.minPinLength ≤ text.toList.length) (hiv : iv.length = 16) :
    let z := Arkg.diffieHellman crypto.p256 platform.1 (device.secret.publicKey crypto.p256)
    respond crypto device (setPinCommand crypto protocol (platform.publicKey crypto.p256)
      (setPinFields crypto protocol z pin iv).1 (setPinFields crypto protocol z pin iv).2) =
      ([0x00], device.withPin pin) := by
  intro z
  have hpin := newPin_run device protocol hcrypto platform htext hnul hlength hmin hiv
  have hsubcommand : (getValueByInt (subcommandParams protocol subcmdSetPin ++
      [(.integer 3, encodePlatformCoseKey (platform.publicKey crypto.p256)),
        (.integer 4, .bytes (setPinFields crypto protocol z pin iv).2),
        (.integer 5, .bytes (setPinFields crypto protocol z pin iv).1)]) 2).bind asInteger =
      some 3 := by
    simp [subcommandParams, subcmdSetPin, asInteger]
  rw [setPinCommand, respond_clientPin hcrypto protocol
    (writable_setPinParams protocol _ _ _) (by simp [subcommandParams]),
    clientPin_setPin hsubcommand, hunset, hpin]
  rfl

variable (rng r device protocol) in
/-- An authenticator without a PIN takes the one it is sent. -/
theorem setPin_run (hcrypto : crypto.Lawful) {pin : List UInt8} {text : String}
    (hunset : device.pin = none) (htext : fromUtf8 pin = some text) (hnul : 0 ∉ pin)
    (hlength : pin.length ≤ 63) (hmin : device.minPinLength ≤ text.toList.length) :
    ∃ r' l, setPin crypto (transport crypto) rng.beside protocol pin (r, device) =
      (.ok (), (r', device.next.withPin pin), l) := by
  have hrespond := respond_setPin device.next protocol hcrypto (rng.secretKey r).1 hunset
    htext hnul hlength hmin (rng.length_bytes 16 (rng.secretKey r).2)
  have hstatus : splitClientPinStatus [0x00] = .ok [] := rfl
  exact ⟨_, _, Traced.bind_of_ok generateSecret_run (Traced.bind_of_ok
    (getKeyAgreement_run hcrypto) (Traced.bind_of_ok (lift_run (ecdhSharedX_run hcrypto _ _) _)
      (Traced.bind_of_ok (randomBytes_run 16) (Traced.bind_of_ok (sendCommand_run hrespond)
        (Traced.bind_of_ok (lift_run hstatus _) rfl)))))⟩

variable (device protocol) in
theorem respond_token (hcrypto : crypto.Lawful) (platform : SecretKey) {pin iv : List UInt8}
    (permissions : UInt8) (rpId : Option String) (hpin : device.pin = some pin)
    (hiv : iv.length = 16) :
    let z := Arkg.diffieHellman crypto.p256 platform.1 (device.secret.publicKey crypto.p256)
    respond crypto device (tokenCommand crypto protocol (platform.publicKey crypto.p256)
      (encrypt crypto protocol (deriveAesKey crypto protocol z) (pinHash crypto pin) iv)
      permissions rpId) =
      (0x00 :: crypto.cbor.intoWriter (.map [(.integer 2, .bytes
        (encipher crypto protocol (secretOf crypto protocol z) device.tokenIv device.token))]),
        device) := by
  intro z
  have hhash := receivedPinHash_run device protocol hcrypto platform pin permissions rpId hiv
  have hparams : (Cbor.map (tokenParams protocol (platform.publicKey crypto.p256)
      (encrypt crypto protocol (deriveAesKey crypto protocol z) (pinHash crypto pin) iv)
      permissions rpId)).Writable := writable_tokenParams protocol _ _ permissions rpId
  rw [show tokenCommand crypto protocol (platform.publicKey crypto.p256)
      (encrypt crypto protocol (deriveAesKey crypto protocol z) (pinHash crypto pin) iv)
      permissions rpId = encodeCommand crypto.cbor ctap2ClientPin (.map (tokenParams protocol
        (platform.publicKey crypto.p256) (encrypt crypto protocol (deriveAesKey crypto protocol z)
          (pinHash crypto pin) iv) permissions rpId)) from rfl,
    respond_clientPin hcrypto protocol hparams (by simp [tokenParams, subcommandParams])]
  have hsubcommand : (getValueByInt (tokenParams protocol (platform.publicKey crypto.p256)
      (encrypt crypto protocol (deriveAesKey crypto protocol z) (pinHash crypto pin) iv)
      permissions rpId) 2).bind asInteger = some 9 := by
    simp [tokenParams, subcommandParams, asInteger,
      subcmdGetPinUvAuthTokenUsingPinWithPermissions]
  have hgrant : grantToken crypto device protocol (tokenParams protocol
        (platform.publicKey crypto.p256) (encrypt crypto protocol (deriveAesKey crypto protocol z)
          (pinHash crypto pin) iv) permissions rpId) =
      .ok (encipher crypto protocol (secretOf crypto protocol z) device.tokenIv device.token) := by
    unfold grantToken
    rw [readPlatformKey_run hcrypto platform (by simp [tokenParams, subcommandParams]), ok_bind,
      sharedSecret_eq hcrypto, ok_bind, hpin]
    dsimp only
    rw [hhash, ok_bind, if_neg (by simp [pinHash])]
  rw [clientPin_token hsubcommand, hgrant]

variable (rng r device protocol) in
theorem freshIv_run :
    ∃ iv r' l, freshIv (rng.beside (T := Device)) protocol (r, device) =
      (.ok iv, (r', device), l) ∧ iv.length = 16 := by
  cases protocol with
  | one => exact ⟨_, _, _, rfl, List.length_replicate⟩
  | two => exact ⟨_, _, _, randomBytes_run 16, rng.length_bytes 16 r⟩

theorem parsePinToken_run (hcrypto : crypto.Lawful) (token : List UInt8) :
    parsePinToken crypto
      (0x00 :: crypto.cbor.intoWriter (.map [(.integer 2, .bytes token)])) = .ok token := by
  have hstatus : splitClientPinStatus
      (0x00 :: crypto.cbor.intoWriter (.map [(.integer 2, .bytes token)])) =
      .ok (crypto.cbor.intoWriter (.map [(.integer 2, .bytes token)])) := rfl
  unfold parsePinToken
  rw [hstatus]
  dsimp only
  rw [hcrypto.cbor.read_intoWriter (by simp [Writable])]
  simp [asMap, getBytesByInt, asBytes]

variable (rng r device protocol) in
/-- An authenticator with a PIN hands its token out to who has the PIN. -/
theorem tokenWithPin_run (hcrypto : crypto.Lawful) {pin : List UInt8}
    (permissions : UInt8) (rpId : Option String) (hpin : device.pin = some pin) :
    ∃ r' l params answer,
      tokenWithPin crypto (transport crypto) rng.beside protocol pin permissions rpId
          (r, device) =
        (.ok ⟨protocol, device.token⟩, (r', device.next), l ++ [.sentCommand
          (encodeCommand crypto.cbor ctap2ClientPin (.map params)) (.ok answer)]) ∧
      receivedPinHash crypto device.next protocol params = .ok (pinHash crypto pin) := by
  obtain ⟨iv, r₂, l₂, hfresh, hiv⟩ := freshIv_run rng (rng.secretKey r).2 device.next protocol
  have hrespond := respond_token device.next protocol hcrypto (rng.secretKey r).1 permissions rpId
    hpin hiv
  have hhash := receivedPinHash_run device.next protocol hcrypto (rng.secretKey r).1 pin
    permissions rpId hiv
  have hrun : tokenWithPin crypto (transport crypto) rng.beside protocol pin permissions rpId
      (r, device) = _ :=
    Traced.bind_of_ok generateSecret_run (Traced.bind_of_ok (getKeyAgreement_run hcrypto)
      (Traced.bind_of_ok (lift_run (ecdhSharedX_run hcrypto _ _) _) (Traced.bind_of_ok hfresh
        (Traced.bind_of_ok (sendCommand_run hrespond)
          (Traced.bind_of_ok (lift_run (parsePinToken_run hcrypto _) _)
            (Traced.bind_of_ok (lift_run (decrypt_encipher hcrypto _ device.token_aligned
              device.length_tokenIv) _) rfl))))))
  rw [List.nil_append, List.nil_append, List.nil_append, List.append_nil, ← List.append_assoc,
    ← List.append_assoc] at hrun
  exact ⟨_, _, _, _, hrun, hhash⟩

end Exchanges

/-- A PIN that is accepted is stored in its normal form, whichever keys are agreed on and
whatever IV is drawn. With that PIN the token is handed out, and it arrives. -/
theorem new_pin_is_stored_and_used (crypto : CtapCrypto) (hcrypto : crypto.Lawful) {R : Type}
    (rng : Rng R) (r : R) (device : Device) (hunset : device.pin = none)
    (protocol : PinUvAuthProtocol) (raw : Secret) (pin : String)
    (hpin : validateNewPin crypto raw device.minPinLength = .ok pin) (permissions : UInt8)
    (rpId : Option String) :
    (utf8 pin).length ≤ paddedPinBytes ∧
    ∃ r₁ l₁ device₁,
      setPin crypto (transport crypto) rng.beside protocol (utf8 pin) (r, device) =
        (.ok (), (r₁, device₁), l₁) ∧
      device₁.pin = some (normalizePin crypto.nfc raw) ∧
      ∃ r₂ l₂ params answer device₂,
        tokenWithPin crypto (transport crypto) rng.beside protocol (utf8 pin) permissions rpId
            (r₁, device₁) =
          (.ok ⟨protocol, device.token⟩, (r₂, device₂), l₂ ++ [.sentCommand
            (encodeCommand crypto.cbor ctap2ClientPin (.map params)) (.ok answer)]) ∧
        receivedPinHash crypto device₂ protocol params =
          .ok ((crypto.kdf.sha256 (normalizePin crypto.nfc raw)).take 16) := by
  obtain ⟨pinText, -, -, hchars, hlong, hshort⟩ := validateNewPin_accepts hpin
  have hnormal := validateNewPin_ok hpin
  have hnul : 0 ∉ utf8 pin := by rwa [zero_mem_utf8]
  refine ⟨hlong.trans (by decide), ?_⟩
  obtain ⟨r₁, l₁, hset⟩ := setPin_run rng r device protocol hcrypto hunset (fromUtf8_utf8 pin)
    hnul hlong hshort
  refine ⟨r₁, l₁, _, hset, congrArg some hnormal, ?_⟩
  obtain ⟨r₂, l₂, params, answer, htoken, hhash⟩ := tokenWithPin_run rng r₁
    (device.next.withPin (utf8 pin)) protocol hcrypto permissions rpId rfl
  rw [pinHash, hnormal] at hhash
  exact ⟨r₂, l₂, params, answer, _, htoken, hhash⟩

/-! ## A PIN of four digits -/

namespace PinDemo

/-- Keys that are drawn one after the other. -/
def rng : Rng Unit :=
  ⟨fun n w => (List.replicate n 7, w), fun w => (⟨5, by decide⟩, w), fun _ _ =>
    List.length_replicate⟩

def device : Device where
  keys n := if n = 1 then ⟨2, by decide⟩ else ⟨3, by decide⟩
  agreements := 0
  minPinLength := 4
  pin := none
  token := List.replicate 32 9
  tokenIv := List.replicate 16 8
  token_aligned := by decide
  length_tokenIv := by decide

end PinDemo

theorem new_pin_is_stored_and_used_digits :
    ∃ r₁ l₁ device₁,
      setPin scalarCrypto (transport scalarCrypto) PinDemo.rng.beside .two (utf8 "1234")
        ((), PinDemo.device) = (.ok (), (r₁, device₁), l₁) ∧
      device₁.pin = some [49, 50, 51, 52] := by
  obtain ⟨-, r₁, l₁, device₁, hset, hstored, -⟩ := new_pin_is_stored_and_used scalarCrypto
    scalarCrypto_lawful PinDemo.rng () PinDemo.device rfl .two [49, 50, 51, 52] "1234" rfl 0x01
    (some "rp")
  exact ⟨r₁, l₁, device₁, hset, hstored⟩

end Wscd.Authenticator
