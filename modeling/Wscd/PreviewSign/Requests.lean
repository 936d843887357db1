import Wscd.CborWire
import Wscd.PreviewSign

/-!
# The two previewSign commands

`authenticatorMakeCredential` with a `generateKey` request and `authenticatorGetAssertion`
with a `signByCredential` request: how the plugin builds them, and how the browser transport,
which receives them in place of an authenticator, takes them apart. The two number their
parameters differently.

Results:
1. `parse_buildMakeCredentialRequest`, `parse_buildGetAssertionRequest`: the parsers read
   back what was asked for.
2. `requests_round_trip`: both, whatever authentication travels along, and neither parser
   accepts the other's command.
-/

namespace Wscd.PreviewSign

open Cbor

/-! ## Building -/

def ctap2MakeCredential : UInt8 := 0x01

def ctap2GetAssertion : UInt8 := 0x02

/-- The algorithms of the outer credential, not those of the signing key. -/
def defaultPubKeyCredAlgs : List Int := [-7, -8, -35, -36, -37, -257, -47, -48, -49, -50]

/-- The algorithms the caller accepts for the signing key. -/
structure GenerateKeyInput where
  algorithms : List Int
  deriving DecidableEq, Repr

def buildGenerateKeyExtension (algorithms : List Int) (requireUv : Bool) : Cbor :=
  let flags : Int := if requireUv then 0b101 else 0b001
  .map [(.text "previewSign",
    .map [(.integer 3, .array (algorithms.map .integer)), (.integer 4, .integer flags)])]

def buildSignByCredentialExtension (sign : SignInput) : Cbor :=
  .map [(.text "previewSign",
    .map ([(.integer 2, .bytes sign.keyHandle), (.integer 6, .bytes sign.tbs)] ++
      (sign.additionalArgs.map fun args => (.integer 7, .bytes args)).toList))]

/-- `pinUvAuthParam` and its protocol, under the keys a command has for them. -/
def pinUvAuthEntries (paramKey protocolKey : Int) (pinUvAuth : Option (List UInt8 × Int)) :
    List (Cbor × Cbor) :=
  match pinUvAuth with
  | some (param, protocol) =>
    [(.integer paramKey, .bytes param), (.integer protocolKey, .integer protocol)]
  | none => []

def makeCredentialParams (rpId : String) (userId clientDataHash : List UInt8)
    (generateKey : GenerateKeyInput) (pinUvAuth : Option (List UInt8 × Int)) :
    List (Cbor × Cbor) :=
  let rp := .map [(.text "id", .text rpId), (.text "name", .text rpId)]
  let user := .map [(.text "id", .bytes userId), (.text "name", .text "wscd-user"),
    (.text "displayName", .text "WSCD User")]
  let pubKeyCredParams := .array (defaultPubKeyCredAlgs.map fun alg =>
    .map [(.text "alg", .integer alg), (.text "type", .text "public-key")])
  [(.integer 1, .bytes clientDataHash), (.integer 2, rp), (.integer 3, user),
    (.integer 4, pubKeyCredParams),
    (.integer 6, buildGenerateKeyExtension generateKey.algorithms true)] ++
    pinUvAuthEntries 8 9 pinUvAuth

def getAssertionParams (rpId : String) (challenge credentialId : List UInt8) (sign : SignInput)
    (pinUvAuth : Option (List UInt8 × Int)) : List (Cbor × Cbor) :=
  let allowList := .array [.map [(.text "id", .bytes credentialId),
    (.text "type", .text "public-key")]]
  [(.integer 1, .text rpId), (.integer 2, .bytes challenge), (.integer 3, allowList),
    (.integer 4, buildSignByCredentialExtension sign)] ++
    pinUvAuthEntries 6 7 pinUvAuth

variable (cbor : CborCodec)

def buildMakeCredentialRequest (rpId : String) (userId clientDataHash : List UInt8)
    (generateKey : GenerateKeyInput) (pinUvAuth : Option (List UInt8 × Int)) : List UInt8 :=
  encodeCommand cbor ctap2MakeCredential
    (.map (makeCredentialParams rpId userId clientDataHash generateKey pinUvAuth))

def buildGetAssertionRequest (rpId : String) (challenge credentialId : List UInt8)
    (sign : SignInput) (pinUvAuth : Option (List UInt8 × Int)) : List UInt8 :=
  encodeCommand cbor ctap2GetAssertion
    (.map (getAssertionParams rpId challenge credentialId sign pinUvAuth))

/-! ## Parsing -/

structure MakeCredentialRequest where
  rpId : String
  userId : List UInt8
  clientDataHash : List UInt8
  generateKey : GenerateKeyInput
  deriving DecidableEq, Repr

structure GetAssertionRequest where
  rpId : String
  challenge : List UInt8
  credentialId : List UInt8
  sign : SignInput
  deriving DecidableEq, Repr

/-- The parameters of a command that starts with `code`; `name` is the command's. -/
def readParams (code : UInt8) (name : String) (command : List UInt8) :
    Except WscdError (List (Cbor × Cbor)) :=
  if command.head? ≠ some code then .error (.crypto s!"not an authenticator{name} command")
  else
    match cbor.read command.tail with
    | .error e => .error (.crypto s!"invalid {name} params CBOR: {e}")
    | .ok params => need s!"{name} params is not a map" params.asMap

/-- The `previewSign` map in the extensions of a command. -/
def readPreviewSign (params : List (Cbor × Cbor)) (extensionsKey : Int) :
    Except WscdError (List (Cbor × Cbor)) := do
  let extensions ← need "missing extensions" ((getValueByInt params extensionsKey).bind asMap)
  need "missing previewSign extension" ((getValueByText extensions "previewSign").bind asMap)

def parseMakeCredentialRequest (command : List UInt8) : Except WscdError MakeCredentialRequest :=
  do
  let params ← readParams cbor ctap2MakeCredential "MakeCredential" command
  let clientDataHash ← need "missing clientDataHash" (getBytesByInt params 1)
  let rp ← need "missing rp" ((getValueByInt params 2).bind asMap)
  let rpId ← need "missing rp.id" ((getValueByText rp "id").bind asText)
  let user ← need "missing user" ((getValueByInt params 3).bind asMap)
  let userId ← need "missing user.id" ((getValueByText user "id").bind asBytes)
  let previewSign ← readPreviewSign params 6
  let algorithms ← need "missing generateKey algorithms"
    ((getValueByInt previewSign 3).bind asArray)
  -- an algorithm that is no `i64` is left out
  return ⟨rpId, userId, clientDataHash, ⟨algorithms.filterMap fun v => v.asInteger.bind toI64⟩⟩

def parseGetAssertionRequest (command : List UInt8) : Except WscdError GetAssertionRequest := do
  let params ← readParams cbor ctap2GetAssertion "GetAssertion" command
  let rpId ← need "missing rpId" ((getValueByInt params 1).bind asText)
  let challenge ← need "missing challenge" (getBytesByInt params 2)
  let allowList ← need "missing allowList" ((getValueByInt params 3).bind asArray)
  let first ← need "empty allowList" (allowList.head?.bind asMap)
  let credentialId ← need "missing allowList[0].id" ((getValueByText first "id").bind asBytes)
  let previewSign ← readPreviewSign params 4
  let keyHandle ← need "missing signByCredential keyHandle"
    ((getValueByInt previewSign 2).bind asBytes)
  let tbs ← need "missing signByCredential tbs" ((getValueByInt previewSign 6).bind asBytes)
  let additionalArgs := (getValueByInt previewSign 7).bind asBytes
  return ⟨rpId, challenge, credentialId, ⟨keyHandle, tbs, additionalArgs⟩⟩

/-- The authentication a command carries, under the keys the command has for it. -/
def readPinUvAuth (paramKey protocolKey : Int) (command : List UInt8) :
    Option (List UInt8 × Int) :=
  match cbor.read command.tail with
  | .ok (.map params) => do
    let param ← getBytesByInt params paramKey
    let protocol ← (getValueByInt params protocolKey).bind asInteger
    return (param, protocol)
  | _ => none

/-! ## Round trips -/

variable {cbor}

theorem readParams_encodeCommand (hcbor : cbor.Lawful) (code : UInt8) (name : String)
    {params : List (Cbor × Cbor)} (hparams : (Cbor.map params).Writable) :
    readParams cbor code name (encodeCommand cbor code (.map params)) = .ok params := by
  unfold readParams encodeCommand
  rw [if_neg (by simp), List.tail_cons, hcbor.read_intoWriter hparams]
  rfl

theorem readParams_other {code other : UInt8} (hne : other ≠ code) (name : String)
    (params : Cbor) :
    readParams cbor code name (encodeCommand cbor other params) =
      .error (.crypto s!"not an authenticator{name} command") := by
  unfold readParams encodeCommand
  rw [if_pos (by simpa using hne)]

theorem filterMap_toI64 {algorithms : List Int} (h : ∀ a ∈ algorithms, IsI64 a) :
    (algorithms.map Cbor.integer).filterMap (fun v => v.asInteger.bind toI64) = algorithms := by
  induction algorithms with
  | nil => rfl
  | cons a rest ih =>
    have ha : (Cbor.integer a).asInteger.bind toI64 = some a :=
      (h a List.mem_cons_self).toI64_eq
    have hrest := ih fun b hb => h b (List.mem_cons_of_mem a hb)
    simp only [List.map_cons, List.filterMap_cons, ha, hrest]

section Writable

variable {pinUvAuth : Option (List UInt8 × Int)}

theorem fitsWithin_pinUvAuthEntries {paramKey protocolKey : Int} (hparam : IsI64 paramKey)
    (hprotocol : IsI64 protocolKey) (hpinUvAuth : ∀ p ∈ pinUvAuth, IsI64 p.2) (depth : Nat) :
    ∀ e ∈ pinUvAuthEntries paramKey protocolKey pinUvAuth,
      FitsWithin depth e.1 ∧ FitsWithin depth e.2 := by
  rcases pinUvAuth with - | ⟨param, protocol⟩
  · nofun
  · intro e he
    rcases List.mem_cons.mp he with rfl | he
    · exact ⟨hparam.fitsWithin depth, fitsWithin_bytes depth param⟩
    · rcases List.mem_singleton.mp he with rfl
      exact ⟨hprotocol.fitsWithin depth, (hpinUvAuth _ rfl).fitsWithin depth⟩

theorem writable_makeCredentialParams (rpId : String) (userId clientDataHash : List UInt8)
    {generateKey : GenerateKeyInput} (halgorithms : ∀ a ∈ generateKey.algorithms, IsI64 a)
    (hpinUvAuth : ∀ p ∈ pinUvAuth, IsI64 p.2) :
    (Cbor.map (makeCredentialParams rpId userId clientDataHash generateKey pinUvAuth)).Writable
    := by
  refine List.forall_mem_append.mpr ⟨?_, fitsWithin_pinUvAuthEntries (by decide) (by decide)
    hpinUvAuth 255⟩
  have halgorithms : ∀ a ∈ generateKey.algorithms, FitsWithin 252 (.integer a) :=
    fun a ha => (halgorithms a ha).fitsWithin 252
  simpa [buildGenerateKeyExtension, defaultPubKeyCredAlgs] using halgorithms

theorem writable_getAssertionParams (rpId : String) (challenge credentialId : List UInt8)
    (sign : SignInput) (hpinUvAuth : ∀ p ∈ pinUvAuth, IsI64 p.2) :
    (Cbor.map (getAssertionParams rpId challenge credentialId sign pinUvAuth)).Writable := by
  refine List.forall_mem_append.mpr ⟨?_, fitsWithin_pinUvAuthEntries (by decide) (by decide)
    hpinUvAuth 255⟩
  cases hargs : sign.additionalArgs <;> simp [buildSignByCredentialExtension, hargs]

end Writable

theorem parse_buildMakeCredentialRequest (hcbor : cbor.Lawful) (rpId : String)
    (userId clientDataHash : List UInt8) {algorithms : List Int}
    (halgorithms : ∀ a ∈ algorithms, IsI64 a) {pinUvAuth : Option (List UInt8 × Int)}
    (hpinUvAuth : ∀ p ∈ pinUvAuth, IsI64 p.2) :
    parseMakeCredentialRequest cbor
        (buildMakeCredentialRequest cbor rpId userId clientDataHash ⟨algorithms⟩ pinUvAuth) =
      .ok ⟨rpId, userId, clientDataHash, ⟨algorithms⟩⟩ := by
  unfold parseMakeCredentialRequest buildMakeCredentialRequest
  rw [readParams_encodeCommand hcbor _ _
    (writable_makeCredentialParams rpId userId clientDataHash halgorithms hpinUvAuth)]
  simp [makeCredentialParams, buildGenerateKeyExtension, readPreviewSign, getBytesByInt,
    Bind.bind, Except.bind, asBytes, asMap, asText, asArray, filterMap_toI64 halgorithms, pure,
    Except.pure]

theorem parse_buildGetAssertionRequest (hcbor : cbor.Lawful) (rpId : String)
    (challenge credentialId : List UInt8) (sign : SignInput)
    {pinUvAuth : Option (List UInt8 × Int)} (hpinUvAuth : ∀ p ∈ pinUvAuth, IsI64 p.2) :
    parseGetAssertionRequest cbor
        (buildGetAssertionRequest cbor rpId challenge credentialId sign pinUvAuth) =
      .ok ⟨rpId, challenge, credentialId, sign⟩ := by
  unfold parseGetAssertionRequest buildGetAssertionRequest
  rw [readParams_encodeCommand hcbor _ _
    (writable_getAssertionParams rpId challenge credentialId sign hpinUvAuth)]
  obtain ⟨keyHandle, tbs, additionalArgs⟩ := sign
  cases additionalArgs <;>
    simp [getAssertionParams, buildSignByCredentialExtension, readPreviewSign, getBytesByInt,
      Bind.bind, Except.bind, asBytes, asMap, asText, asArray, pure, Except.pure]

theorem readPinUvAuth_encodeCommand (hcbor : cbor.Lawful) (code : UInt8)
    {params : List (Cbor × Cbor)} {paramKey protocolKey : Int} (hne : paramKey ≠ protocolKey)
    (hparam : getValueByInt params paramKey = none)
    (hprotocol : getValueByInt params protocolKey = none)
    {pinUvAuth : Option (List UInt8 × Int)}
    (hwritable : (Cbor.map (params ++
      pinUvAuthEntries paramKey protocolKey pinUvAuth)).Writable) :
    readPinUvAuth cbor paramKey protocolKey
      (encodeCommand cbor code
        (.map (params ++ pinUvAuthEntries paramKey protocolKey pinUvAuth))) = pinUvAuth := by
  unfold readPinUvAuth encodeCommand
  rw [List.tail_cons, hcbor.read_intoWriter hwritable]
  dsimp only
  rw [getBytesByInt, getValueByInt_append, getValueByInt_append, hparam, hprotocol]
  rcases pinUvAuth with - | ⟨param, protocol⟩
  · rfl
  · simp [pinUvAuthEntries, hne, asBytes, asInteger, Bind.bind, pure]

/-- The browser transport reads back what the plugin asked for, whatever authentication
travels along, and neither parser accepts the other's command. -/
theorem requests_round_trip (cbor : CborCodec) (hcbor : cbor.Lawful) :
    (∀ (rpId : String) (userId clientDataHash : List UInt8) (algorithms : List Int)
        (pinUvAuth : Option (List UInt8 × Int)), (∀ a ∈ algorithms, IsI64 a) →
        (∀ p ∈ pinUvAuth, IsI64 p.2) →
      let command :=
        buildMakeCredentialRequest cbor rpId userId clientDataHash ⟨algorithms⟩ pinUvAuth
      parseMakeCredentialRequest cbor command =
          .ok ⟨rpId, userId, clientDataHash, ⟨algorithms⟩⟩ ∧
        readPinUvAuth cbor 8 9 command = pinUvAuth ∧
        parseGetAssertionRequest cbor command =
          .error (.crypto "not an authenticatorGetAssertion command")) ∧
    ∀ (rpId : String) (challenge credentialId : List UInt8) (sign : SignInput)
        (pinUvAuth : Option (List UInt8 × Int)), (∀ p ∈ pinUvAuth, IsI64 p.2) →
      let command := buildGetAssertionRequest cbor rpId challenge credentialId sign pinUvAuth
      parseGetAssertionRequest cbor command = .ok ⟨rpId, challenge, credentialId, sign⟩ ∧
        readPinUvAuth cbor 6 7 command = pinUvAuth ∧
        parseMakeCredentialRequest cbor command =
          .error (.crypto "not an authenticatorMakeCredential command") := by
  constructor
  · intro rpId userId clientDataHash algorithms pinUvAuth halgorithms hpinUvAuth command
    refine ⟨parse_buildMakeCredentialRequest hcbor rpId userId clientDataHash halgorithms
      hpinUvAuth, ?_, ?_⟩
    · exact readPinUvAuth_encodeCommand hcbor _ (by decide) (by simp) (by simp)
        (writable_makeCredentialParams rpId userId clientDataHash halgorithms hpinUvAuth)
    · show parseGetAssertionRequest cbor (encodeCommand cbor ctap2MakeCredential _) = _
      rw [parseGetAssertionRequest, readParams_other (by decide)]
      rfl
  · intro rpId challenge credentialId sign pinUvAuth hpinUvAuth command
    refine ⟨parse_buildGetAssertionRequest hcbor rpId challenge credentialId sign hpinUvAuth,
      ?_, ?_⟩
    · exact readPinUvAuth_encodeCommand hcbor _ (by decide) (by simp) (by simp)
        (writable_getAssertionParams rpId challenge credentialId sign hpinUvAuth)
    · show parseMakeCredentialRequest cbor (encodeCommand cbor ctap2GetAssertion _) = _
      rw [parseMakeCredentialRequest, readParams_other (by decide)]
      rfl

theorem requests_round_trip_arkg :
    parseMakeCredentialRequest cborWire
        (buildMakeCredentialRequest cborWire "siros.wscd.preview-sign" [1, 2] [3]
          ⟨[arkgP256Esp256, arkgP256Esp256]⟩ (some ([4], 2))) =
      .ok ⟨"siros.wscd.preview-sign", [1, 2], [3], ⟨[arkgP256Esp256, arkgP256Esp256]⟩⟩ :=
  ((requests_round_trip cborWire cborWire_lawful).1 _ _ _ _ _ (by decide) (by decide)).1

end Wscd.PreviewSign
