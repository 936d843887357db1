import Wscd.CeremonyTraces
import Wscd.PreviewSign.Registration
import Wscd.UvmFormat

/-!
# The browser transport

In a browser the plugin's CTAP2 commands do not reach an authenticator. The transport takes
them apart, makes the WebAuthn call they stand for and encodes what comes back as the answer
of an authenticator, so that the plugin parses it like any other. The browser is a parameter:
what it answers, and which JavaScript values it throws, is up to it.

Results:
1. `registration_through_browser`: over this transport a registration is one call of the browser
   with the plugin's own inputs, and its result is the browser's.
2. `signature_through_browser`: so is a signature, and its factors are those of the authenticator
   data the browser returned.
-/

namespace Wscd

open Lib PreviewSign

/-! ## JavaScript values -/

namespace Browser

/-- A JavaScript value as far as the transport looks at one. -/
inductive JsValue where
  | undefined
  | null
  /-- As the `i64` it casts to. -/
  | number (n : Int)
  | string (s : String)
  /-- An `ArrayBuffer` or a view of one. -/
  | bytes (octets : List UInt8)
  | array (items : List JsValue)
  | object (properties : List (String × JsValue))

namespace JsValue

def asString : JsValue → Option String
  | .string s => some s
  | _ => none

def asNumber : JsValue → Option Int
  | .number n => some n
  | _ => none

end JsValue

/-- `*alg as i32` -/
def toI32 (n : Int) : Int := n.bmod (2 ^ 32)

theorem toI32_of_fits {n : Int} (h : -2 ^ 31 ≤ n ∧ n < 2 ^ 31) : toI32 n = n :=
  Int.bmod_eq_of_le (by omega) (by omega)

/-- The options of `navigator.credentials.create()` that the transport sets. -/
structure CreationOptions where
  rpId : String
  rpName : String
  userId : List UInt8
  userName : String
  userDisplayName : String
  pubKeyCredParams : List Int
  challenge : List UInt8
  extensions : JsValue

/-- The options of `navigator.credentials.get()` that the transport sets. -/
structure RequestOptions where
  rpId : String
  challenge : List UInt8
  allowCredentials : List (List UInt8)
  extensions : JsValue
  uvm : Bool

/-- A `PublicKeyCredential`. -/
structure Credential where
  rawId : List UInt8
  clientExtensionResults : JsValue
  /-- The authenticator data, of an `AuthenticatorAssertionResponse`. -/
  authenticatorData : Option (List UInt8)

end Browser

open Browser

/-- The browser: its window, with the page's host name, and its two WebAuthn calls, which
throw, or return a credential or something else. -/
structure Browser (W : Type) where
  hostname : W → Option (Except JsValue String)
  create : CreationOptions → W → Except JsValue (Option Credential) × W
  get : RequestOptions → W → Except JsValue (Option Credential) × W
  debug : JsValue → String
  /-- What `Reflect.get` throws at a value that is no object. -/
  typeError : JsValue
  uint8Array : JsValue → List UInt8
  uint8Array_bytes : ∀ octets, uint8Array (.bytes octets) = octets

namespace Browser

variable {W : Type}

section Definitions

variable (browser : Browser W)

/-! ## Reading -/

/-- `Reflect::get` -/
def reflectGet (obj : JsValue) (key : String) : Except JsValue JsValue :=
  match obj with
  | .object properties =>
    .ok (((properties.find? fun p => p.1 = key).map Prod.snd).getD .undefined)
  | .bytes _ | .array _ => .ok .undefined
  | _ => .error browser.typeError

/-- The property, where there is one and it is a string. -/
def stringProperty (obj : JsValue) (key : String) : Option String :=
  (browser.reflectGet obj key).toOption.bind JsValue.asString

/-- A thrown value as an error; a `NotAllowedError` is how WebAuthn says that the user
declined. -/
def jsErr (context : String) (err : JsValue) : WscdError :=
  let msg := (err.asString.or (browser.stringProperty err "message")).getD (browser.debug err)
  if browser.stringProperty err "name" = some "NotAllowedError" then .authCancelled
  else .callback s!"{context}: {msg}"

def reflectGetBytes (obj : JsValue) (key : String) : Except WscdError (List UInt8) :=
  match browser.reflectGet obj key with
  | .error e => .error (browser.jsErr s!"read previewSign.{key}" e)
  | .ok .undefined | .ok .null =>
    .error (.callback s!"previewSign result missing field {key}")
  | .ok value => .ok (browser.uint8Array value)

/-- `previewSign.generatedKey` in the extension results of a registration. -/
def readGeneratedKey (extensionResults : JsValue) : Except WscdError PreviewSign.GeneratedKey := do
  let previewSignResult ← match browser.reflectGet extensionResults "previewSign" with
    | .error e => .error (browser.jsErr "read previewSign extension result" e)
    | .ok .undefined =>
      .error (.callback ("authenticator did not return a previewSign result — " ++
        "it may not support the sign extension"))
    | .ok value => .ok value
  let generatedKey ← match browser.reflectGet previewSignResult "generatedKey" with
    | .error e => .error (browser.jsErr "read previewSign.generatedKey" e)
    | .ok .undefined =>
      .error (.callback ("authenticator did not generate a signing key " ++
        "(previewSign.generatedKey missing)"))
    | .ok value => .ok value
  let keyHandle ← browser.reflectGetBytes generatedKey "keyHandle"
  let publicKeyCose ← browser.reflectGetBytes generatedKey "publicKey"
  let attestationObject ← browser.reflectGetBytes generatedKey "attestationObject"
  match (browser.reflectGet generatedKey "algorithm").toOption.bind JsValue.asNumber with
  | none => .error (.callback "previewSign.generatedKey missing algorithm")
  | some algorithm => .ok ⟨keyHandle, publicKeyCose, algorithm, attestationObject⟩

/-! ## Asking -/

/-- `{ previewSign: { generateKey: { algorithms } } }` -/
def generateKeyExtension (algorithms : List Int) : JsValue :=
  .object [("previewSign", .object [("generateKey", .object
    [("algorithms", .array (algorithms.map fun alg => .number (toI32 alg)))])])]

/-- `{ previewSign: { signByCredential: { [credentialId]: { keyHandle, tbs, .. } } } }` -/
def signByCredentialExtension (base64Url : List UInt8 → String) (credentialId : List UInt8)
    (sign : SignInput) : JsValue :=
  let signInput := JsValue.object
    ([("keyHandle", .bytes sign.keyHandle), ("tbs", .bytes sign.tbs)] ++
      (sign.additionalArgs.map fun args => ("additionalArgs", JsValue.bytes args)).toList)
  .object [("previewSign", .object [("signByCredential",
    .object [(base64Url credentialId, signInput)])])]

/-- The host name stands in for the plugin's relying party, which a browser would refuse. -/
def creationOptions (rpId : String) (userId clientDataHash : List UInt8)
    (generateKey : GenerateKeyInput) : CreationOptions where
  rpId := rpId
  rpName := rpId
  userId := userId
  userName := "siros-wallet-instance"
  userDisplayName := "SIROS Wallet"
  pubKeyCredParams := generateKey.algorithms.map toI32
  challenge := clientDataHash
  extensions := generateKeyExtension generateKey.algorithms

def requestOptions (base64Url : List UInt8 → String) (rpId : String)
    (challenge credentialId : List UInt8) (sign : SignInput) : RequestOptions where
  rpId := rpId
  challenge := challenge
  allowCredentials := [credentialId]
  extensions := signByCredentialExtension base64Url credentialId sign
  uvm := true

/-- The host name of the page; without a window there is nothing to ask. -/
def pageHostname (w : W) : Except WscdError String :=
  match browser.hostname w with
  | none => .error (.callback "no window (not running in a browser)")
  | some (.error e) => .error (browser.jsErr "read location.hostname" e)
  | some (.ok rpId) => .ok rpId

/-- What a registration makes of the credential. -/
def readRegistration (credential : Except JsValue (Option Credential)) :
    Except WscdError MakeCredentialResult :=
  match credential with
  | .error e => .error (browser.jsErr "navigator.credentials.create" e)
  | .ok none => .error (.callback "create() did not return a PublicKeyCredential")
  | .ok (some credential) =>
    (browser.readGeneratedKey credential.clientExtensionResults).map fun generatedKey =>
      ⟨credential.rawId, generatedKey⟩

def makeCredentialViaBrowser (userId clientDataHash : List UInt8)
    (generateKey : GenerateKeyInput) (w : W) : Except WscdError MakeCredentialResult × W :=
  match browser.pageHostname w with
  | .error e => (.error e, w)
  | .ok rpId =>
    let asked := browser.create (creationOptions rpId userId clientDataHash generateKey) w
    (browser.readRegistration asked.1, asked.2)

/-- The assertion in signed authenticator data: its signature, the user verified flag and the
factor that `uvm` names. -/
def readAssertionData (cbor : CborCodec) (authData : List UInt8) : Except WscdError SignResult := do
  let signature ← extractPreviewsignSignature cbor authData
  let userVerified := match authData[32]? with
    | some flags => decide (flags &&& authDataFlagUv ≠ 0)
    | none => false
  let verifiedFactor := (Uvm.parseUvmExtension cbor authData).bind Uvm.classifyUvmForTs12
  return ⟨signature, userVerified, verifiedFactor⟩

/-- What an assertion makes of the credential. -/
def readAssertion (cbor : CborCodec) (credential : Except JsValue (Option Credential)) :
    Except WscdError SignResult :=
  match credential with
  | .error e => .error (browser.jsErr "navigator.credentials.get" e)
  | .ok none => .error (.callback "get() did not return a PublicKeyCredential")
  | .ok (some credential) =>
    match credential.authenticatorData with
    | none => .error (.callback "credential.response is not an AuthenticatorAssertionResponse")
    | some authData => readAssertionData cbor authData

def getAssertionViaBrowser (cbor : CborCodec) (base64Url : List UInt8 → String)
    (challenge credentialId : List UInt8) (sign : SignInput) (w : W) :
    Except WscdError SignResult × W :=
  match browser.pageHostname w with
  | .error e => (.error e, w)
  | .ok rpId =>
    let asked := browser.get (requestOptions base64Url rpId challenge credentialId sign) w
    (browser.readAssertion cbor asked.1, asked.2)

/-- `{other:?}` of the first octet of a command. -/
def debugFirst : Option UInt8 → String
  | some b => s!"Some({b.toNat})"
  | none => "None"

def ctap2SendCommand (cbor : CborCodec) (base64Url : List UInt8 → String)
    (command : List UInt8) (w : W) : Except WscdError (List UInt8) × W :=
  match command.head? with
  | some 0x01 =>
    match parseMakeCredentialRequest cbor command with
    | .error e => (.error e, w)
    | .ok req =>
      let out := browser.makeCredentialViaBrowser req.userId req.clientDataHash req.generateKey w
      (out.1.map (encodeMakeCredentialResponse cbor), out.2)
  | some 0x02 =>
    match parseGetAssertionRequest cbor command with
    | .error e => (.error e, w)
    | .ok req =>
      let out :=
        browser.getAssertionViaBrowser cbor base64Url req.challenge req.credentialId req.sign w
      (out.1.map (encodeGetAssertionResponse cbor), out.2)
  | other => (.error (.callback s!"unsupported CTAP2 command: {debugFirst other}"), w)

/-- `WasmFido2Transport`: the browser prompts the user and talks ClientPin by itself. -/
def transport (cbor : CborCodec) (base64Url : List UInt8 → String) : Ctap2Transport W where
  ctap2SendCommand := browser.ctap2SendCommand cbor base64Url
  performsUserVerification _ := true

end Definitions

/-! ## A ceremony in the browser -/

section Ceremonies

variable {browser : Browser W} {cbor : CborCodec} (base64Url : List UInt8 → String)

/-- The transport reads the plugin's registration request back, and makes it. -/
theorem ctap2SendCommand_makeCredential (hcbor : cbor.Lawful) (rpId : String)
    (userId clientDataHash : List UInt8) {algorithms : List Int}
    (halgorithms : ∀ a ∈ algorithms, Cbor.IsI64 a) (w : W) :
    browser.ctap2SendCommand cbor base64Url
        (buildMakeCredentialRequest cbor rpId userId clientDataHash ⟨algorithms⟩ none) w =
      ((browser.makeCredentialViaBrowser userId clientDataHash ⟨algorithms⟩ w).1.map
          (encodeMakeCredentialResponse cbor),
        (browser.makeCredentialViaBrowser userId clientDataHash ⟨algorithms⟩ w).2) := by
  have hhead : (buildMakeCredentialRequest cbor rpId userId clientDataHash ⟨algorithms⟩
    none).head? = some 0x01 := rfl
  unfold ctap2SendCommand
  rw [hhead]
  dsimp only
  rw [parse_buildMakeCredentialRequest hcbor rpId userId clientDataHash halgorithms (by simp)]
  rfl

theorem ctap2SendCommand_getAssertion (hcbor : cbor.Lawful) (rpId : String)
    (challenge credentialId : List UInt8) (sign : SignInput) (w : W) :
    browser.ctap2SendCommand cbor base64Url
        (buildGetAssertionRequest cbor rpId challenge credentialId sign none) w =
      ((browser.getAssertionViaBrowser cbor base64Url challenge credentialId sign w).1.map
          (encodeGetAssertionResponse cbor),
        (browser.getAssertionViaBrowser cbor base64Url challenge credentialId sign w).2) := by
  have hhead : (buildGetAssertionRequest cbor rpId challenge credentialId sign none).head? =
    some 0x02 := rfl
  unfold ctap2SendCommand
  rw [hhead]
  dsimp only
  rw [parse_buildGetAssertionRequest hcbor rpId challenge credentialId sign (by simp)]
  rfl

/-! ### Registration -/

/-- What the plugin makes of a registration in the browser. -/
def registered (cbor : CborCodec) (r : Except WscdError MakeCredentialResult) :
    Except WscdError MakeCredentialResult :=
  r.bind fun result => parseMakeCredentialResponse cbor (encodeMakeCredentialResponse cbor result)

theorem makeCredential_eq (browser : Browser W) (crypto : CtapCrypto)
    (hcbor : crypto.cbor.Lawful) (rng : Rng W) (auth : AuthCallback W) (rpId : String)
    (userId clientDataHash : List UInt8) {algorithms : List Int}
    (halgorithms : ∀ a ∈ algorithms, Cbor.IsI64 a) (w : W) :
    let command :=
      buildMakeCredentialRequest crypto.cbor rpId userId clientDataHash ⟨algorithms⟩ none
    let out := browser.makeCredentialViaBrowser userId clientDataHash ⟨algorithms⟩ w
    makeCredential crypto (browser.transport crypto.cbor base64Url) rng auth rpId userId
        clientDataHash ⟨algorithms⟩ w =
      (registered crypto.cbor out.1, out.2,
        [.sentCommand command (out.1.map (encodeMakeCredentialResponse crypto.cbor))]) := by
  intro command out
  have hsend : (browser.transport crypto.cbor base64Url).ctap2SendCommand command w =
      (out.1.map (encodeMakeCredentialResponse crypto.cbor), out.2) :=
    ctap2SendCommand_makeCredential base64Url hcbor rpId userId clientDataHash halgorithms w
  rw [makeCredential_of_verifying rfl, hsend]
  rcases out with ⟨e | r, w'⟩ <;> rfl

/-- What is handed over comes through, or its attestation object is WebAuthn's. -/
theorem registered_iff (hcbor : cbor.Lawful) {r : MakeCredentialResult} (h : HandedOver cbor r) :
    (∃ r', registered cbor (.ok r) = .ok r' ∧ r'.credentialId = r.credentialId ∧
      r'.generatedKey.keyHandle = r.generatedKey.keyHandle ∧
      r'.generatedKey.publicKeyCose = r.generatedKey.publicKeyCose ∧
      r'.generatedKey.algorithm = r.generatedKey.algorithm ∧
      (CarriesChain cbor r'.generatedKey.attestationObject ↔
        CarriesChain cbor r.generatedKey.attestationObject)) ↔
      r.generatedKey.attestationObject = [] ∨
        ∃ authData, Ctap2Keyed cbor r.generatedKey.attestationObject authData := by
  constructor
  · rintro ⟨r', hparse, -⟩
    by_contra hneither
    obtain ⟨hne, hctap2⟩ := not_or.mp hneither
    obtain ⟨authData, flags, extensions, hkeyed | hkeyed, -⟩ := h.attestationObject.resolve_left hne
    · exact hctap2 ⟨authData, hkeyed⟩
    · have hrefused : registered cbor (.ok r) = _ := textKeyed_object_is_refused hcbor h hne hkeyed
      rw [hrefused] at hparse
      cases hparse
  · intro hobject
    have hback : ParsesBack cbor r := by
      rcases eq_or_ne r.generatedKey.attestationObject [] with hempty | hne
      · exact parsesBack_of_empty hcbor h hempty
      · obtain ⟨authData', hctap2⟩ := hobject.resolve_left hne
        obtain ⟨authData, flags, extensions, hkeyed | hkeyed, hattests⟩ :=
          h.attestationObject.resolve_left hne
        · exact parsesBack_of_ctap2Keyed hcbor h hne hkeyed hattests
        · exact absurd hkeyed hctap2.not_webAuthnKeyed
    obtain ⟨r', hparse, hid, hhandle, hkey, halgorithm, -, hchain⟩ := hback
    refine ⟨r', hparse, hid, hhandle, hkey, halgorithm, ?_⟩
    rw [← attestationObjectHasDedicatedHardwareChain_iff,
      ← attestationObjectHasDedicatedHardwareChain_iff, hchain]

theorem makeCredentialViaBrowser_of_page {rpId : String} {w : W}
    (hpage : browser.hostname w = some (.ok rpId)) (userId clientDataHash : List UInt8)
    (generateKey : GenerateKeyInput) :
    browser.makeCredentialViaBrowser userId clientDataHash generateKey w =
      (browser.readRegistration
        (browser.create (creationOptions rpId userId clientDataHash generateKey) w).1,
        (browser.create (creationOptions rpId userId clientDataHash generateKey) w).2) := by
  unfold makeCredentialViaBrowser pageHostname
  rw [hpage]

/-- The registration a credential carries. -/
structure Registers (browser : Browser W) (credential : Credential) (r : MakeCredentialResult) :
    Prop where
  credentialId : r.credentialId = credential.rawId
  generatedKey :
    browser.readGeneratedKey credential.clientExtensionResults = .ok r.generatedKey

theorem Registers.readRegistration {credential : Credential} {r : MakeCredentialResult}
    (h : Registers browser credential r) :
    browser.readRegistration (.ok (some credential)) = .ok r := by
  obtain ⟨credentialId, generatedKey⟩ := r
  obtain ⟨rfl, hkey⟩ := h
  simp only [Browser.readRegistration, hkey, Except.map]

/-- A registration on a page with a readable host name is one call of `create()` with the plugin's
user id and challenge, and its algorithms cast to 32 bits, which changes none that fits them. What
the call throws is the error, and the credential it returns is the plugin's result exactly when
the attestation object is missing or has the integer keys of CTAP2. -/
theorem registration_through_browser (browser : Browser W) (crypto : CtapCrypto)
    (hcbor : crypto.cbor.Lawful) (base64Url : List UInt8 → String) (rng : Rng W)
    (auth : AuthCallback W) (rpId pageRpId : String) (userId clientDataHash : List UInt8)
    (algorithms : List Int) (halgorithms : ∀ a ∈ algorithms, Cbor.IsI64 a) (w : W)
    (hpage : browser.hostname w = some (.ok pageRpId)) :
    let command :=
      buildMakeCredentialRequest crypto.cbor rpId userId clientDataHash ⟨algorithms⟩ none
    let asked := browser.create
      { rpId := pageRpId
        rpName := pageRpId
        userId := userId
        userName := "siros-wallet-instance"
        userDisplayName := "SIROS Wallet"
        pubKeyCredParams := algorithms.map toI32
        challenge := clientDataHash
        extensions := generateKeyExtension algorithms } w
    (∀ a ∈ algorithms, -2 ^ 31 ≤ a ∧ a < 2 ^ 31 → toI32 a = a) ∧
    ∃ outcome answer,
      makeCredential crypto (browser.transport crypto.cbor base64Url) rng auth rpId userId
          clientDataHash ⟨algorithms⟩ w =
        (outcome, asked.2, [.sentCommand command answer]) ∧
      (∀ err, asked.1 = .error err →
        outcome = .error (browser.jsErr "navigator.credentials.create" err)) ∧
      (∀ credential e, asked.1 = .ok (some credential) →
        browser.readGeneratedKey credential.clientExtensionResults = .error e →
        outcome = .error e) ∧
      ∀ credential r, asked.1 = .ok (some credential) → Registers browser credential r →
        HandedOver crypto.cbor r →
        ((∃ r', outcome = .ok r' ∧ r'.credentialId = r.credentialId ∧
            r'.generatedKey.keyHandle = r.generatedKey.keyHandle ∧
            r'.generatedKey.publicKeyCose = r.generatedKey.publicKeyCose ∧
            r'.generatedKey.algorithm = r.generatedKey.algorithm ∧
            (CarriesChain crypto.cbor r'.generatedKey.attestationObject ↔
              CarriesChain crypto.cbor r.generatedKey.attestationObject)) ↔
          r.generatedKey.attestationObject = [] ∨
            ∃ authData, Ctap2Keyed crypto.cbor r.generatedKey.attestationObject authData) := by
  intro command asked
  have hrun := makeCredential_eq base64Url browser crypto hcbor rng auth rpId userId clientDataHash
    halgorithms w
  dsimp only at hrun
  rw [makeCredentialViaBrowser_of_page hpage] at hrun
  refine ⟨fun a _ => toI32_of_fits, _, _, hrun, fun err herr => ?_,
    fun credential e hcredential he => ?_, fun credential r hcredential hr hover => ?_⟩
  · show registered crypto.cbor (browser.readRegistration asked.1) = _
    rw [herr]
    rfl
  · show registered crypto.cbor (browser.readRegistration asked.1) = _
    rw [hcredential]
    simp only [readRegistration, he, Except.map, registered, Except.bind]
  · show (∃ r', registered crypto.cbor (browser.readRegistration asked.1) = _ ∧ _) ↔ _
    rw [hcredential, hr.readRegistration]
    exact registered_iff hcbor hover

/-! ### Assertion -/

/-- The extension outputs of an assertion hold the signature. -/
def CarriesSignature (cbor : CborCodec) (authData signature : List UInt8) : Prop :=
  ∃ entries previewSign before after, cbor.read (authData.drop 37) = .ok (.map entries) ∧
    Cbor.FirstUnder (.text "previewSign") (.map previewSign) entries ∧
    previewSign = before ++ (.integer 6, .bytes signature) :: after ∧
    ∀ b, (.integer 6, .bytes b) ∉ before

/-- The authenticator data has one `uvm` entry, and it names the factor. -/
def NamesFactor (cbor : CborCodec) (authData : List UInt8) (f : AuthFactor) : Prop :=
  Uvm.ExtensionsFollow authData ∧ ∃ e : Uvm.UvmEntry, e.Fits ∧ Uvm.CarriesUvm cbor authData [e] ∧
    Uvm.methodFactor e.userVerificationMethod = some f

theorem carriesSignature_of_extract {authData signature : List UInt8}
    (h : extractPreviewsignSignature cbor authData = .ok signature) :
    CarriesSignature cbor authData signature := by
  unfold extractPreviewsignSignature at h
  split at h
  · cases h
  split at h
  · cases h
  split at h
  · cases h
  obtain ⟨extensions, hread, h₁⟩ := exists_of_bind_ok h
  obtain ⟨entries, hentries, h₂⟩ := exists_of_bind_ok h₁
  obtain ⟨output, houtput, h₃⟩ := exists_of_bind_ok h₂
  obtain ⟨previewSign, hpreviewSign, h₄⟩ := exists_of_bind_ok h₃
  obtain rfl := Cbor.asMap_eq_some_iff.mp (need_ok hentries)
  obtain rfl := Cbor.asMap_eq_some_iff.mp (need_ok hpreviewSign)
  obtain ⟨before, after, hsplit, hbefore⟩ :=
    (Cbor.findBytesByInt_eq_some_iff ..).mp (need_ok h₄)
  exact ⟨entries, previewSign, before, after, readAs_ok hread,
    (Cbor.getValueByText_eq_some_iff ..).mp (need_ok houtput), hsplit, hbefore⟩

theorem classify_parseUvmExtension_iff (authData : List UInt8) (f : AuthFactor) :
    (Uvm.parseUvmExtension cbor authData).bind Uvm.classifyUvmForTs12 = some f ↔
      NamesFactor cbor authData f := by
  rw [Option.bind_eq_some_iff]
  simp only [Uvm.classifyUvmForTs12_iff, Uvm.parseUvmExtension_iff, NamesFactor]
  constructor
  · rintro ⟨_, ⟨-, hfits, hfollow, hcarries⟩, e, rfl, hnames⟩
    exact ⟨hfollow, e, hfits e (List.mem_singleton_self e), hcarries, hnames⟩
  · rintro ⟨hfollow, e, hfits, hcarries, hnames⟩
    exact ⟨[e], ⟨by simp, by simpa using hfits, hfollow, hcarries⟩, e, rfl, hnames⟩

/-- What is read from the authenticator data is there. -/
theorem readAssertionData_ok {authData : List UInt8} {r : SignResult}
    (h : readAssertionData cbor authData = .ok r) :
    CarriesSignature cbor authData r.signature ∧
      (r.userVerified = true ↔ ∃ flags, authData[32]? = some flags ∧ flags &&& 0x04 ≠ 0) ∧
      ∀ f, r.verifiedFactor = some f ↔ NamesFactor cbor authData f := by
  unfold readAssertionData at h
  obtain ⟨signature, hsignature, h⟩ := exists_of_bind_ok h
  cases h
  refine ⟨carriesSignature_of_extract hsignature, ?_, classify_parseUvmExtension_iff authData⟩
  dsimp only
  cases authData[32]? with
  | none => simp
  | some flags =>
    constructor
    · intro h
      exact ⟨flags, rfl, of_decide_eq_true h⟩
    · rintro ⟨_, ⟨⟩, h⟩
      exact decide_eq_true h

theorem readAssertionData_verifies {authData : List UInt8} {r : SignResult}
    (h : readAssertionData cbor authData = .ok r) {f : AuthFactor}
    (hf : r.verifiedFactor = some f) : Verifies f := by
  unfold readAssertionData at h
  obtain ⟨signature, -, h⟩ := exists_of_bind_ok h
  cases h
  obtain ⟨entries, -, hclassify⟩ := Option.bind_eq_some_iff.mp hf
  exact Uvm.classifyUvmForTs12_verifies hclassify

theorem getAssertionViaBrowser_verifies {challenge credentialId : List UInt8} {sign : SignInput}
    {w : W} {r : SignResult}
    (h : (browser.getAssertionViaBrowser cbor base64Url challenge credentialId sign w).1 = .ok r)
    {f : AuthFactor} (hf : r.verifiedFactor = some f) : Verifies f := by
  unfold getAssertionViaBrowser at h
  split at h
  · cases h
  · dsimp only at h
    unfold readAssertion at h
    split at h
    · cases h
    · cases h
    · split at h
      · cases h
      · exact readAssertionData_verifies h hf

end Ceremonies

/-! ### Signing -/

section Signing

open Fido2SignPlugin

variable {crypto : Fido2SignCrypto} {host : Fido2Host W} {auth : AuthCallback W} {kid : KeyId}
  {data : List UInt8} {w w' : W} {l : List HostEvent}

/-- A signature on a transport that verifies users: the challenge is drawn and one command
sent. -/
theorem signInner_of_verifying
    (hverifies : ∀ w, host.transport.performsUserVerification w = true) {signature : Signature}
    {userVerified : Bool} {verifiedFactor : Option AuthFactor}
    (h : signInner crypto host auth kid data w =
      (.ok (signature, userVerified, verifiedFactor), w', l)) :
    let started := host.progress.onProgress (.started "sign") w
    let drawn := host.rng.bytes 32 (host.progress.onProgress .waitingForUser started)
    ∃ key tbs w₂ response r,
      (host.plugin started).findKey kid = .ok key ∧
      toBeSigned crypto (keyAlgorithm key) data = .ok tbs ∧
      host.transport.ctap2SendCommand (buildGetAssertionRequest crypto.cbor rawSignRpId drawn.1
        key.credentialId (signInput crypto key tbs) none) drawn.2 = (.ok response, w₂) ∧
      w' = host.progress.onProgress .complete w₂ ∧
      l = [.drewBytes drawn.1, .sentCommand (buildGetAssertionRequest crypto.cbor rawSignRpId
        drawn.1 key.credentialId (signInput crypto key tbs) none) (.ok response)] ∧
      parseGetAssertionResponse crypto.cbor response = .ok r ∧
      decodeSignature crypto (keyAlgorithm key) r.signature = .ok signature.bytes ∧
      userVerified = r.userVerified ∧ verifiedFactor = r.verifiedFactor := by
  intro started drawn
  unfold signInner at h
  obtain ⟨_, w₁, l₁, l₂, hstarted, h₁, rfl⟩ := Traced.bind_ok_iff.mp h
  obtain ⟨self, w₂, l₃, l₄, hself, h₂, rfl⟩ := Traced.bind_ok_iff.mp h₁
  obtain ⟨key, w₃, l₅, l₆, hkeyRun, h₃, rfl⟩ := Traced.bind_ok_iff.mp h₂
  obtain ⟨_, w₄, l₇, l₈, hwaiting, h₄, rfl⟩ := Traced.bind_ok_iff.mp h₃
  obtain ⟨challenge, w₅, l₉, l₁₀, hchallenge, h₅, rfl⟩ := Traced.bind_ok_iff.mp h₄
  obtain ⟨tbs, w₆, l₁₁, l₁₂, htbsRun, h₆, rfl⟩ := Traced.bind_ok_iff.mp h₅
  obtain ⟨r, w₇, l₁₃, l₁₄, hassertion, h₇, rfl⟩ := Traced.bind_ok_iff.mp h₆
  obtain ⟨_, w₈, l₁₅, l₁₆, hcomplete, h₈, rfl⟩ := Traced.bind_ok_iff.mp h₇
  obtain ⟨bytes, w₉, l₁₇, l₁₈, hdecodeRun, h₉, rfl⟩ := Traced.bind_ok_iff.mp h₈
  obtain ⟨rfl, rfl⟩ := Traced.modify_ok_iff.mp hstarted
  obtain ⟨rfl, rfl, rfl⟩ := Traced.get_ok_iff.mp hself
  obtain ⟨hkey, rfl, rfl⟩ := Traced.lift_ok_iff.mp hkeyRun
  obtain ⟨rfl, rfl⟩ := Traced.modify_ok_iff.mp hwaiting
  obtain ⟨hdrawn, rfl⟩ := Traced.draw_ok_iff.mp hchallenge
  obtain ⟨htbs, rfl, rfl⟩ := Traced.lift_ok_iff.mp htbsRun
  obtain ⟨rfl, rfl⟩ := Traced.modify_ok_iff.mp hcomplete
  obtain ⟨hdecode, rfl, rfl⟩ := Traced.lift_ok_iff.mp hdecodeRun
  obtain ⟨hresult, rfl, rfl⟩ := Traced.pure_ok_iff.mp h₉
  cases hresult
  obtain ⟨rfl, rfl⟩ : challenge = drawn.1 ∧ w₅ = drawn.2 := Prod.mk.inj hdrawn.symm
  rw [getAssertion_of_verifying (hverifies drawn.2)] at hassertion
  obtain ⟨hparsed, hworld, rfl⟩ : _ ∧ _ ∧ _ := by simpa using hassertion
  rcases hanswer : host.transport.ctap2SendCommand (buildGetAssertionRequest crypto.cbor rawSignRpId
    drawn.1 key.credentialId (signInput crypto key tbs) none) drawn.2 with ⟨e | response, w₁₀⟩
  · rw [hanswer] at hparsed
    cases hparsed
  · rw [hanswer] at hparsed hworld
    exact ⟨key, tbs, w₁₀, response, r, hkey, htbs, hanswer, by rw [← hworld], by simp, hparsed,
      hdecode, rfl, rfl⟩

/-- A successful call of the browser, taken apart. -/
theorem getAssertionViaBrowser_ok {browser : Browser W} {cbor : CborCodec}
    {base64Url : List UInt8 → String} {challenge credentialId : List UInt8} {sign : SignInput}
    {w w' : W} {r : SignResult}
    (h : browser.getAssertionViaBrowser cbor base64Url challenge credentialId sign w =
      (.ok r, w')) :
    ∃ pageRpId credential authData, browser.hostname w = some (.ok pageRpId) ∧
      browser.get (requestOptions base64Url pageRpId challenge credentialId sign) w =
        (.ok (some credential), w') ∧
      credential.authenticatorData = some authData ∧ readAssertionData cbor authData = .ok r := by
  unfold getAssertionViaBrowser at h
  cases hpage : browser.pageHostname w with
  | error e =>
    rw [hpage] at h
    cases h
  | ok pageRpId =>
    rw [hpage] at h
    dsimp only at h
    have hhostname : browser.hostname w = some (.ok pageRpId) := by
      unfold pageHostname at hpage
      split at hpage
      · cases hpage
      · cases hpage
      · cases hpage
        assumption
    rcases hget : browser.get (requestOptions base64Url pageRpId challenge credentialId sign) w
      with ⟨e | _ | credential, w₁⟩
    · rw [hget] at h
      cases h
    · rw [hget] at h
      cases h
    · rw [hget] at h
      unfold readAssertion at h
      dsimp only at h
      cases hdata : credential.authenticatorData with
      | none =>
        rw [hdata] at h
        cases h
      | some authData =>
        rw [hdata] at h
        obtain ⟨hread, rfl⟩ := Prod.mk.inj h
        exact ⟨pageRpId, credential, authData, hhostname, hget, hdata, hread⟩

/-- A command that is answered is answered with the browser's result, encoded. -/
theorem getAssertionViaBrowser_of_answer {browser : Browser W} {cbor : CborCodec}
    (hcbor : cbor.Lawful) {base64Url : List UInt8 → String} {rpId : String}
    {challenge credentialId response : List UInt8} {sign : SignInput} {w w' : W} {r : SignResult}
    (hanswer : browser.ctap2SendCommand cbor base64Url
      (buildGetAssertionRequest cbor rpId challenge credentialId sign none) w = (.ok response, w'))
    (hparse : parseGetAssertionResponse cbor response = .ok r) :
    browser.getAssertionViaBrowser cbor base64Url challenge credentialId sign w = (.ok r, w') ∧
      response = encodeGetAssertionResponse cbor r := by
  rw [ctap2SendCommand_getAssertion base64Url hcbor] at hanswer
  rcases hout : browser.getAssertionViaBrowser cbor base64Url challenge credentialId sign w
    with ⟨e | r', w''⟩
  · rw [hout] at hanswer
    cases hanswer
  · rw [hout] at hanswer
    cases hanswer
    have hback := parse_encodeGetAssertionResponse hcbor
      fun f hf => getAssertionViaBrowser_verifies base64Url (congrArg Prod.fst hout) hf
    cases hback.symm.trans hparse
    exact ⟨rfl, rfl⟩

/-- A signature in the browser is one call of `get()` for the stored credential, in the state the
first two progress reports and the draw of the challenge leave, with nothing asked of the user by
the plugin; the last report follows it. The signature is the one in the authenticator data the
browser returned; and the second factor, if there is one, is the one `uvm` names there or else the
host's, and there only if the same data has the user verified flag. A fresh authentication is
refused. -/
theorem signature_through_browser (browser : Browser W) (crypto : Fido2SignCrypto)
    (hcbor : crypto.cbor.Lawful) (base64Url : List UInt8 → String) (host : Fido2Host W)
    (hhost : host.transport = browser.transport crypto.cbor base64Url) (auth : AuthCallback W)
    (kid : KeyId) (data : List UInt8) (options : SignOptions) (w w' : W) (l : List HostEvent)
    (outcome : SignOutcome)
    (h : signWithFactors crypto host auth kid data options w = (.ok outcome, w', l)) :
    let started := host.progress.onProgress (.started "sign") w
    let drawn := host.rng.bytes 32 (host.progress.onProgress .waitingForUser started)
    options.requireFreshUserAuthentication = false ∧
    ∃ key tbs pageRpId credential authData r w₂,
      (host.plugin started).findKey kid = .ok key ∧
      toBeSigned crypto (keyAlgorithm key) data = .ok tbs ∧
      browser.hostname drawn.2 = some (.ok pageRpId) ∧
      browser.get
        { rpId := pageRpId
          challenge := drawn.1
          allowCredentials := [key.credentialId]
          extensions :=
            signByCredentialExtension base64Url key.credentialId (signInput crypto key tbs)
          uvm := true } drawn.2 = (.ok (some credential), w₂) ∧
      w' = host.progress.onProgress .complete w₂ ∧
      credential.authenticatorData = some authData ∧
      l = [.drewBytes drawn.1, .sentCommand (buildGetAssertionRequest crypto.cbor rawSignRpId
        drawn.1 key.credentialId (signInput crypto key tbs) none)
        (.ok (encodeGetAssertionResponse crypto.cbor r))] ∧
      CarriesSignature crypto.cbor authData r.signature ∧
      (r.userVerified = true ↔ ∃ flags, authData[32]? = some flags ∧ flags &&& 0x04 ≠ 0) ∧
      (∀ f, r.verifiedFactor = some f ↔ NamesFactor crypto.cbor authData f) ∧
      decodeSignature crypto (keyAlgorithm key) r.signature = .ok outcome.signature.bytes ∧
      outcome.factors.factors = ⟨.possession, "key_in_local_external_wscd"⟩ ::
        (if r.userVerified then r.verifiedFactor.or options.hostVerifiedFactor
          else none).toList := by
  intro started drawn
  have hverifies : ∀ w, host.transport.performsUserVerification w = true := by
    intro w
    rw [hhost]
    rfl
  unfold signWithFactors at h
  obtain ⟨_, w₁, l₁, l₂, hvalidRun, h₁, rfl⟩ := Traced.bind_ok_iff.mp h
  obtain ⟨hvalid, rfl, rfl⟩ := Traced.lift_ok_iff.mp hvalidRun
  obtain ⟨verifies, w₂, l₃, l₄, hget, h₂, rfl⟩ := Traced.bind_ok_iff.mp h₁
  obtain ⟨rfl, rfl, rfl⟩ := Traced.get_ok_iff.mp hget
  rw [hverifies, Bool.and_true] at h₂
  cases hfresh : options.requireFreshUserAuthentication with
  | true =>
    rw [hfresh, if_pos rfl] at h₂
    obtain ⟨herror, -, -⟩ := Traced.lift_ok_iff.mp h₂
    cases herror
  | false =>
    rw [hfresh, if_neg Bool.false_ne_true] at h₂
    obtain ⟨⟨⟨signature, userVerified, verifiedFactor⟩, pins⟩, w₃, l₅, l₆, hlocal, h₃, rfl⟩ :=
      Traced.bind_ok_iff.mp h₂
    obtain ⟨verifies', w₄, l₇, l₈, hverifies', h₄, rfl⟩ := Traced.bind_ok_iff.mp h₃
    obtain ⟨rfl, rfl, rfl⟩ := Traced.get_ok_iff.mp hverifies'
    obtain ⟨rfl, rfl, rfl⟩ := Traced.pure_ok_iff.mp h₄
    have hinner := Traced.withLocal_ok_iff.mp hlocal
    have hpins := (records_signInner crypto host auth kid data).pins_eq _ hinner
    obtain ⟨key, tbs, ⟨w₅, pins'⟩, response, r, hkey, htbs, hanswer, hended, rfl, hparse, hdecode,
      rfl, rfl⟩ := signInner_of_verifying (fun w => hverifies w.1) hinner
    -- the answer to the command is the browser's, encoded
    have hsent : browser.ctap2SendCommand crypto.cbor base64Url (buildGetAssertionRequest
        crypto.cbor rawSignRpId drawn.1 key.credentialId (signInput crypto key tbs) none) drawn.2 =
          (.ok response, w₅) := by
      obtain ⟨hresponse, hworld⟩ := Prod.mk.inj hanswer
      have hworld : (host.transport.ctap2SendCommand _ drawn.2).2 = w₅ := congrArg Prod.fst hworld
      have hresponse : (host.transport.ctap2SendCommand _ drawn.2).1 = .ok response := hresponse
      rw [hhost] at hworld hresponse
      exact Prod.ext hresponse hworld
    obtain ⟨hout, rfl⟩ := getAssertionViaBrowser_of_answer hcbor hsent hparse
    obtain ⟨pageRpId, credential, authData, hpage, hget, hdata, hread⟩ :=
      getAssertionViaBrowser_ok hout
    obtain ⟨hcarries, hflag, hnames⟩ := readAssertionData_ok hread
    refine ⟨rfl, key, tbs, pageRpId, credential, authData, r, w₅, hkey, htbs, hpage, hget,
      congrArg Prod.fst hended, hdata, rfl, hcarries, hflag, hnames, hdecode, ?_⟩
    obtain rfl : pins = [] := hpins
    have hvocabulary : "key_in_local_external_wscd" ∈ FactorCategory.possession.methods := by decide
    cases huv : r.userVerified with
    | false =>
      exact (deriveFactors_factors none false none options
        "the assertion did not carry the user-verified flag" hvocabulary (by rintro m ⟨⟩)
        (by rintro f ⟨⟩) hvalid).1
    | true =>
      have hfactors := (deriveFactors_factors none true r.verifiedFactor options
        ("no PIN was requested for this sign and the transport did not perform " ++
          "user verification") hvocabulary (by rintro m ⟨⟩)
        (fun f hf => readAssertionData_verifies hread hf) hvalid).1
      show (deriveFactors "key_in_local_external_wscd" [].getLast?
        (host.transport.performsUserVerification w₃) r.verifiedFactor options _).factors = _
      rw [hverifies w₃]
      exact hfactors

end Signing

/-! ## A page with one passkey -/

namespace Page

/-- Signed authenticator data of an assertion: the user gave a passcode. -/
def authData : List UInt8 :=
  List.replicate 32 0 ++ (authDataFlagEd ||| authDataFlagUv) :: ([0, 0, 0, 1] ++
    cborWire.intoWriter (.map [(.text "previewSign", .map [(.integer 6, .bytes [7, 7])]),
      (.text "uvm", .array [.array [.integer 4, .integer 1, .integer 1]])]))

/-- What the page's extension results are for a new key without an attestation object. -/
def extensionResults : JsValue :=
  .object [("previewSign", .object [("generatedKey", .object
    [("keyHandle", .bytes [2]), ("publicKey", .bytes (cborWire.intoWriter exampleCoseKey)),
      ("attestationObject", .bytes []), ("algorithm", .number arkgP256Esp256)])])]

def uint8Array : JsValue → List UInt8
  | .bytes octets => octets
  | _ => []

theorem uint8Array_bytes (octets : List UInt8) : uint8Array (.bytes octets) = octets := rfl

def browser : Browser Unit where
  hostname _ := some (.ok "wallet.example")
  create _ w := (.ok (some ⟨[1], extensionResults, none⟩), w)
  get _ w := (.ok (some ⟨[1], .object [], some authData⟩), w)
  debug _ := "JsValue"
  typeError := .undefined
  uint8Array := uint8Array
  uint8Array_bytes := uint8Array_bytes

def crypto : Fido2SignCrypto := { scalarCrypto with signatureFromDer := .ok }

def key : Fido2.StoredFidoKey :=
  ⟨"kid", [1], [2], List.replicate 32 0, List.replicate 32 0, -9, [], false, [], none, 0⟩

def host : Fido2Host Unit where
  plugin _ := ⟨HashMap.ofListFirst (·.kid) [key], ∅⟩
  transport := browser.transport cborWire base64url
  rng := TraceDemo.rng
  progress := ⟨fun _ w => w⟩

end Page

theorem registration_through_browser_page :
    ∃ r' answer, makeCredential scalarCrypto (Page.browser.transport cborWire base64url)
        TraceDemo.rng TraceDemo.auth "siros.wscd.preview-sign" [1, 2] [3] ⟨[arkgP256Esp256]⟩ () =
      (.ok r', (), [.sentCommand (buildMakeCredentialRequest cborWire "siros.wscd.preview-sign"
        [1, 2] [3] ⟨[arkgP256Esp256]⟩ none) answer]) ∧ r'.generatedKey.keyHandle = [2] := by
  obtain ⟨-, outcome, answer, hrun, -, -, hcomes⟩ := registration_through_browser Page.browser
    scalarCrypto cborWire_lawful base64url TraceDemo.rng TraceDemo.auth
    "siros.wscd.preview-sign" "wallet.example" [1, 2] [3] [arkgP256Esp256] (by decide) () rfl
  obtain ⟨r', rfl, -, hhandle, -⟩ :=
    (hcomes _ (exampleRegistration []) rfl ⟨rfl, rfl⟩ handedOver_empty).mpr (.inl rfl)
  exact ⟨r', answer, hrun, hhandle⟩

set_option maxRecDepth 4000 in
/-- A passcode that `uvm` reports. -/
theorem signature_through_browser_passcode :
    ∃ r : SignResult, CarriesSignature cborWire Page.authData r.signature ∧
      (∀ f, r.verifiedFactor = some f ↔ NamesFactor cborWire Page.authData f) ∧
      [⟨.possession, "key_in_local_external_wscd"⟩, ⟨.knowledge, "other"⟩] =
        AuthFactor.mk .possession "key_in_local_external_wscd" ::
          (if r.userVerified then r.verifiedFactor.or none else none).toList := by
  obtain ⟨-, key, tbs, pageRpId, credential, authData, r, w₂, -, -, -, hget, -, hdata, -,
    hcarries, -, hnames, -, hfactors⟩ := signature_through_browser Page.browser Page.crypto
      cborWire_lawful base64url Page.host rfl TraceDemo.auth ⟨"kid"⟩ [5] .default () () _ ⟨⟨[7, 7]⟩,
        ⟨[⟨.possession, "key_in_local_external_wscd"⟩, ⟨.knowledge, "other"⟩], none⟩⟩ rfl
  cases hget
  cases hdata
  exact ⟨r, hcarries, hnames, hfactors⟩

end Browser

end Wscd
