import Wscd.CborWire
import Wscd.Factors
import Wscd.PreviewSign

/-!
# The answers to the two previewSign commands

How the answers of an authenticator are parsed, and how the browser transport builds answers
of the same shape from what the browser hands it.
-/

namespace Wscd.PreviewSign

open Cbor

/-! ## Authenticator data -/

/-- The user verified flag. -/
def authDataFlagUv : UInt8 := 0x04

/-- The flag for attested credential data. -/
def authDataFlagAt : UInt8 := 0x40

/-- The flag for extensions. -/
def authDataFlagEd : UInt8 := 0x80

/-- `rpIdHash(32) || flags(1) || signCount(4)` -/
def authDataHeaderLen : Nat := 37

def authDataFlags (authData : List UInt8) : UInt8 := authData.getD 32 0

variable (cbor : CborCodec)

def buildAttestedAuthData (aaguid credId coseKeyBytes : List UInt8)
    (signedExtensions : Option Cbor) : List UInt8 :=
  let flags := if signedExtensions.isSome then authDataFlagAt ||| authDataFlagEd
    else authDataFlagAt
  -- the length is a `u16`
  let len := credId.length % 65536
  List.replicate 32 0 ++ (flags :: ([0, 0, 0, 1] ++ (aaguid ++
    (UInt8.ofNat (len / 256) :: UInt8.ofNat (len % 256) :: (credId ++ (coseKeyBytes ++
      (signedExtensions.map cbor.intoWriter).getD []))))))

def buildUnattestedAuthData (signedExtensions : Option Cbor) : List UInt8 :=
  let flags := if signedExtensions.isSome then authDataFlagEd else 0
  List.replicate 32 0 ++ (flags :: ([0, 0, 0, 1] ++
    (signedExtensions.map cbor.intoWriter).getD []))

/-- The length field of attested credential data. -/
def credIdLen (authData : List UInt8) : Nat :=
  256 * (authData.getD 53 0).toNat + (authData.getD 54 0).toNat

/-- The algorithm of a COSE key, if it is an `i64`. -/
def coseAlgorithm (coseKey : Cbor) : Option Int :=
  ((coseKey.asMap.bind fun m => getValueByInt m 3).bind asInteger).bind toI64

/-- The credential id, the COSE key written again, and its algorithm. -/
def parseAttestedCredentialData (authData : List UInt8) :
    Except WscdError (List UInt8 × List UInt8 × Option Int) :=
  if authData.length < authDataHeaderLen then
    .error (.crypto s!"authData too short: {authData.length}")
  else if authDataFlags authData &&& authDataFlagAt = 0 then
    .error (.crypto "authData does not contain attested credential data")
  else if authData.length < 55 then
    .error (.crypto "authData truncated before credIdLen")
  else if authData.length < 55 + credIdLen authData then
    .error (.crypto "authData truncated before credId")
  else
    match cbor.read (authData.drop (55 + credIdLen authData)) with
    | .error e => .error (.crypto s!"invalid COSE key CBOR: {e}")
    | .ok coseKey =>
      .ok ((authData.drop 55).take (credIdLen authData), cbor.intoWriter coseKey,
        coseAlgorithm coseKey)

/-- The octets of the extensions, past the attested credential data if there is any. -/
def extensionBytes (authData : List UInt8) : Option (List UInt8) :=
  if authDataFlags authData &&& authDataFlagAt ≠ 0 then
    if authData.length < 55 ∨ authData.length ≤ 55 + credIdLen authData then none
    else
      match cbor.fromReader (authData.drop (55 + credIdLen authData)) with
      | .error _ => none
      | .ok (_, rest) => some rest
  else some (authData.drop authDataHeaderLen)

/-- The value of a successful read. -/
def readOption (bytes : List UInt8) : Option Cbor := (cbor.read bytes).toOption

theorem readOption_eq_some_iff {bytes : List UInt8} {v : Cbor} :
    readOption cbor bytes = some v ↔ cbor.read bytes = .ok v := by
  unfold readOption
  cases cbor.read bytes <;> simp [Except.toOption]

def extractSignedPreviewsignAlgorithm (authData : List UInt8) : Option Int :=
  if authData.length ≤ authDataHeaderLen then none
  else if authDataFlags authData &&& authDataFlagEd = 0 then none
  else do
    let extensions ← readOption cbor (← extensionBytes cbor authData)
    let previewSign ← (getValueByText (← extensions.asMap) "previewSign").bind asMap
    ((getValueByInt previewSign 3).bind asInteger).bind toI64

/-! ## The answer to `authenticatorMakeCredential` -/

/-- What fills the outer credential of an answer that is made up. -/
def placeholderCoseKey : List UInt8 :=
  cbor.intoWriter (.map [(.integer 1, .integer 2), (.integer 3, .integer (-7)),
    (.integer (-1), .integer 1), (.integer (-2), .bytes (List.replicate 32 0)),
    (.integer (-3), .bytes (List.replicate 32 0))])

/-- The attestation object of the generated key: the one at hand, or one of format `none`. -/
def innerAttestationObject (key : GeneratedKey) : List UInt8 :=
  if key.attestationObject = [] then
    cbor.intoWriter (.map [(.integer 1, .text "none"),
      (.integer 2, .bytes
        (buildAttestedAuthData cbor (List.replicate 16 0) key.keyHandle key.publicKeyCose none)),
      (.integer 3, .map [])])
  else key.attestationObject

def encodeMakeCredentialResponse (result : MakeCredentialResult) : List UInt8 :=
  let signedExtensions := .map [(.text "previewSign",
    .map [(.integer 3, .integer result.generatedKey.algorithm)])]
  let outerAuthData := buildAttestedAuthData cbor (List.replicate 16 0) result.credentialId
    (placeholderCoseKey cbor) (some signedExtensions)
  0x00 :: cbor.intoWriter (.map [(.integer 1, .text "none"), (.integer 2, .bytes outerAuthData),
    (.integer 3, .map []), (.integer 7, .bytes (innerAttestationObject cbor result.generatedKey))])

/-- One CBOR value of an answer; `what` names it in the error. -/
def readAs (what : String) (bytes : List UInt8) : Except WscdError Cbor :=
  match cbor.read bytes with
  | .error e => .error (.crypto s!"invalid {what} CBOR: {e}")
  | .ok v => .ok v

theorem readAs_ok {cbor : CborCodec} {what : String} {bytes : List UInt8} {v : Cbor}
    (h : readAs cbor what bytes = .ok v) : cbor.read bytes = .ok v := by
  unfold readAs at h
  split at h
  · cases h
  · rename_i hread
    cases h
    exact hread

/-- The generated key's attestation object: in the unsigned extension outputs, or under the
legacy key. -/
def generatedKeyAttObj (attObj : List (Cbor × Cbor)) : Option (List UInt8) :=
  ((((getValueByInt attObj 6).bind asMap).bind fun m => getValueByText m "previewSign").bind
    asMap).bind (fun m => getBytesByInt m 7) |>.or (getBytesByInt attObj 7)

def parseMakeCredentialResponse (response : List UInt8) : Except WscdError MakeCredentialResult :=
  do
  let body ← splitStatus response
  let attObj ← readAs cbor "attestation object" body
  let attObj ← need "attestation object is not a CBOR map" attObj.asMap
  let authData ← need "missing authData in attestation object" (getBytesByInt attObj 2)
  let (credentialId, _, _) ← parseAttestedCredentialData cbor authData
  let attestationObject ← need
    ("no previewSign generateKey result (checked unsignedExtensionOutputs' key 6 " ++
      "and the legacy flat key 7) - authenticator may not support the previewSign extension")
    (generatedKeyAttObj attObj)
  let keyAttObj ← readAs cbor "generated-key attestation object" attestationObject
  let keyAttObj ← need "generated-key attestation object is not a map" keyAttObj.asMap
  let keyAuthData ← need "missing authData in generated-key attestation object"
    (getBytesByInt keyAttObj 2)
  let (keyHandle, publicKeyCose, algorithmFromCose) ← parseAttestedCredentialData cbor keyAuthData
  let algorithm :=
    ((extractSignedPreviewsignAlgorithm cbor authData).or algorithmFromCose).getD (-7)
  return ⟨credentialId, ⟨keyHandle, publicKeyCose, algorithm, attestationObject⟩⟩

/-! ## The answer to `authenticatorGetAssertion` -/

structure SignResult where
  signature : List UInt8
  userVerified : Bool
  /-- The factor the transport itself derived; none on a native transport. -/
  verifiedFactor : Option AuthFactor
  deriving DecidableEq, Repr

/-- The key of an extension this program invents to carry a verified factor. -/
def verifiedFactorExtensionKey : String := "x-ts12-verified-factor"

def verifiedFactorExtension (factor : AuthFactor) : Cbor × Cbor :=
  (.text verifiedFactorExtensionKey,
    .map [(.text "category", .text factor.category.asStr),
      (.text "method", .text factor.method)])

def encodeGetAssertionResponse (result : SignResult) : List UInt8 :=
  let extensions := [(.text "previewSign", .map [(.integer 6, .bytes result.signature)])] ++
    (result.verifiedFactor.map verifiedFactorExtension).toList
  let authData := buildUnattestedAuthData cbor (some (.map extensions))
  let authData := if result.userVerified then
    authData.set 32 (authDataFlags authData ||| authDataFlagUv) else authData
  0x00 :: cbor.intoWriter (.map [(.integer 2, .bytes authData)])

/-- The signature in the extension outputs of an assertion. -/
def extractPreviewsignSignature (authData : List UInt8) : Except WscdError (List UInt8) :=
  if authData.length ≤ authDataHeaderLen then
    .error (.crypto "authenticatorData too short to contain extensions")
  else if authDataFlags authData &&& authDataFlagAt ≠ 0 then
    .error (.crypto "authenticatorData unexpectedly has AT flag set in an assertion response")
  else if authDataFlags authData &&& authDataFlagEd = 0 then
    .error (.crypto "authenticatorData has no extensions (ED flag not set)")
  else do
    let extensions ← readAs cbor "authenticatorData extensions" (authData.drop authDataHeaderLen)
    let extensions ← need "authenticatorData extensions is not a CBOR map" extensions.asMap
    let previewSign ← need "no previewSign extension in authenticatorData"
      (getValueByText extensions "previewSign")
    let previewSign ← need "previewSign extension output is not a CBOR map" previewSign.asMap
    need "previewSign extension missing signature (key 6)" (findBytesByInt previewSign 6)

/-- The factor in the invented extension; none on anything unexpected. -/
def extractVerifiedFactorExtension (authData : List UInt8) : Option AuthFactor :=
  if authData.length ≤ authDataHeaderLen then none
  else if authDataFlags authData &&& authDataFlagEd = 0 ∨
      authDataFlags authData &&& authDataFlagAt ≠ 0 then none
  else do
    let extensions ← readOption cbor (authData.drop authDataHeaderLen)
    let entry ← (getValueByText (← extensions.asMap) verifiedFactorExtensionKey).bind asMap
    let category ← (getValueByText entry "category").bind asText
    let method ← (getValueByText entry "method").bind asText
    match category with
    | "knowledge" => (AuthFactor.new .knowledge method).toOption
    | "inherence" => (AuthFactor.new .inherence method).toOption
    | _ => none

def parseGetAssertionResponse (response : List UInt8) : Except WscdError SignResult := do
  let body ← splitStatus response
  let assertObj ← readAs cbor "assertion response" body
  let assertObj ← need "assertion response is not a map" assertObj.asMap
  let authData ← need "missing authData in assertion response" (getBytesByInt assertObj 2)
  let signature ← extractPreviewsignSignature cbor authData
  return ⟨signature, authDataFlags authData &&& authDataFlagUv ≠ 0,
    extractVerifiedFactorExtension cbor authData⟩

/-! ## Authenticator data, laid out -/

section Layout

variable {rpIdHash rest : List UInt8} {flags : UInt8}

theorem authDataFlags_append (h : rpIdHash.length = 32) :
    authDataFlags (rpIdHash ++ flags :: rest) = flags := by
  rw [authDataFlags, List.getD_eq_getElem?_getD, List.getElem?_append_right (by omega), h]
  rfl

/-- A flag of authenticator data is read in octet 32; without that octet no flag is set. -/
theorem authDataFlags_and_ne_zero_iff (authData : List UInt8) (flag : UInt8) :
    authDataFlags authData &&& flag ≠ 0 ↔
      ∃ flags, authData[32]? = some flags ∧ flags &&& flag ≠ 0 := by
  rw [authDataFlags, List.getD_eq_getElem?_getD]
  cases authData[32]? with
  | none => simp
  | some flags => simp

theorem set_flags_append (h : rpIdHash.length = 32) (flags' : UInt8) :
    (rpIdHash ++ flags :: rest).set 32 flags' = rpIdHash ++ flags' :: rest := by
  rw [List.set_append_right _ _ (by omega), h]
  rfl

end Layout

/-- The authenticator data of an encoded assertion. -/
theorem unattestedAuthData_eq (userVerified : Bool) (extensions : Cbor) :
    (if userVerified then
      (buildUnattestedAuthData cbor (some extensions)).set 32
        (authDataFlags (buildUnattestedAuthData cbor (some extensions)) ||| authDataFlagUv)
      else buildUnattestedAuthData cbor (some extensions)) =
    List.replicate 32 0 ++
      ((if userVerified then authDataFlagEd ||| authDataFlagUv else authDataFlagEd) ::
        ([0, 0, 0, 1] ++ cbor.intoWriter extensions)) := by
  have hlength : (List.replicate 32 (0 : UInt8)).length = 32 := List.length_replicate
  cases userVerified with
  | false => rfl
  | true =>
    show (List.replicate 32 0 ++ authDataFlagEd :: _).set 32
      (authDataFlags (List.replicate 32 0 ++ authDataFlagEd :: _) ||| authDataFlagUv) = _
    rw [authDataFlags_append hlength, set_flags_append hlength]
    rfl

/-! ## The assertion round trip -/

section Assertion

variable {cbor}

theorem category_of_asStr {f : AuthFactor} (hf : Verifies f) :
    (match f.category.asStr with
      | "knowledge" => (AuthFactor.new .knowledge f.method).toOption
      | "inherence" => (AuthFactor.new .inherence f.method).toOption
      | _ => none) = some f := by
  obtain ⟨category, method⟩ := f
  have hnew := AuthFactor.new_ok_iff.mpr ⟨rfl, hf.2⟩
  cases category with
  | knowledge => exact congrArg Except.toOption hnew
  | possession => exact absurd rfl hf.1
  | inherence => exact congrArg Except.toOption hnew

/-- Authenticator data of an assertion with these extensions. -/
structure AssertionData (cbor : CborCodec) (flags : UInt8) (extensions : List (Cbor × Cbor))
    (authData : List UInt8) : Prop where
  flags_eq : authDataFlags authData = flags
  attested : flags &&& authDataFlagAt = 0
  extended : flags &&& authDataFlagEd ≠ 0
  long : authDataHeaderLen < authData.length
  read_eq : cbor.read (authData.drop authDataHeaderLen) = .ok (.map extensions)

theorem assertionData_append (hcbor : cbor.Lawful) {rpIdHash signCount : List UInt8}
    {flags : UInt8} {extensions : List (Cbor × Cbor)}
    (hextensions : (Cbor.map extensions).Writable) (hhash : rpIdHash.length = 32)
    (hcount : signCount.length = 4) (hattested : flags &&& authDataFlagAt = 0)
    (hextended : flags &&& authDataFlagEd ≠ 0) :
    AssertionData cbor flags extensions
      (rpIdHash ++ flags :: (signCount ++ cbor.intoWriter (.map extensions))) where
  flags_eq := authDataFlags_append hhash
  attested := hattested
  extended := hextended
  long := by
    have hpos := List.length_pos_of_ne_nil (hcbor.intoWriter_ne_nil hextensions)
    simp only [List.length_append, List.length_cons, authDataHeaderLen]
    omega
  read_eq := by
    have hdrop : (rpIdHash ++ flags :: (signCount ++ cbor.intoWriter (.map extensions))).drop
        authDataHeaderLen = cbor.intoWriter (.map extensions) := by
      have hassoc : rpIdHash ++ flags :: (signCount ++ cbor.intoWriter (.map extensions)) =
          (rpIdHash ++ flags :: signCount) ++ cbor.intoWriter (.map extensions) := by simp
      rw [hassoc, List.drop_left' (by simp [hhash, hcount, authDataHeaderLen])]
    rw [hdrop, hcbor.read_intoWriter hextensions]

section

variable {flags : UInt8} {extensions : List (Cbor × Cbor)} {authData : List UInt8}
  (hdata : AssertionData cbor flags extensions authData)

include hdata

theorem AssertionData.extractPreviewsignSignature {m : List (Cbor × Cbor)} {signature : List UInt8}
    (hpreviewSign : getValueByText extensions "previewSign" = some (.map m))
    (hsignature : findBytesByInt m 6 = some signature) :
    extractPreviewsignSignature cbor authData = .ok signature := by
  obtain ⟨rfl, hattested, hextended, hlong, hread⟩ := hdata
  unfold PreviewSign.extractPreviewsignSignature
  rw [if_neg (by omega), if_neg (not_not_intro hattested), if_neg hextended]
  simp [readAs, hread, asMap, hpreviewSign, hsignature, Bind.bind, Except.bind]

theorem AssertionData.extractVerifiedFactorExtension_none
    (hentry : getValueByText extensions verifiedFactorExtensionKey = none) :
    extractVerifiedFactorExtension cbor authData = none := by
  obtain ⟨rfl, hattested, hextended, hlong, hread⟩ := hdata
  unfold PreviewSign.extractVerifiedFactorExtension
  rw [if_neg (by omega), if_neg (by simp [hattested, hextended])]
  simp [readOption, hread, Except.toOption, asMap, hentry]

theorem AssertionData.extractVerifiedFactorExtension_some {f : AuthFactor} (hf : Verifies f)
    (hentry : getValueByText extensions verifiedFactorExtensionKey =
      some (verifiedFactorExtension f).2) :
    extractVerifiedFactorExtension cbor authData = some f := by
  obtain ⟨rfl, hattested, hextended, hlong, hread⟩ := hdata
  unfold PreviewSign.extractVerifiedFactorExtension
  rw [if_neg (by omega), if_neg (by simp [hattested, hextended])]
  have hcategory := category_of_asStr hf
  simpa [readOption, hread, Except.toOption, asMap, hentry, verifiedFactorExtension, asText]
    using hcategory

end

/-- What an assertion carries is read back. -/
theorem parse_encodeGetAssertionResponse (hcbor : cbor.Lawful) {r : SignResult}
    (hfactor : ∀ f, r.verifiedFactor = some f → Verifies f) :
    parseGetAssertionResponse cbor (encodeGetAssertionResponse cbor r) = .ok r := by
  obtain ⟨signature, userVerified, verifiedFactor⟩ := r
  unfold encodeGetAssertionResponse parseGetAssertionResponse
  dsimp only
  rw [unattestedAuthData_eq]
  generalize hextensions :
    ([(Cbor.text "previewSign", Cbor.map [(.integer 6, .bytes signature)])] ++
    (verifiedFactor.map verifiedFactorExtension).toList) = extensions
  generalize hflags : (if userVerified = true then authDataFlagEd ||| authDataFlagUv
    else authDataFlagEd) = flags
  generalize hauthData : List.replicate 32 0 ++ flags :: ([0, 0, 0, 1] ++
    cbor.intoWriter (.map extensions)) = authData
  have hwritable : (Cbor.map extensions).Writable := by
    subst hextensions
    cases verifiedFactor <;> simp [Writable, verifiedFactorExtension]
  have hdata : AssertionData cbor flags extensions authData := by
    subst hauthData hflags
    refine assertionData_append hcbor hwritable List.length_replicate rfl ?_ ?_
    · cases userVerified <;> decide
    · cases userVerified <;> decide
  have hsignature : extractPreviewsignSignature cbor authData = .ok signature := by
    subst hextensions
    exact hdata.extractPreviewsignSignature rfl rfl
  have hverified : extractVerifiedFactorExtension cbor authData = verifiedFactor := by
    subst hextensions
    cases verifiedFactor with
    | none => exact hdata.extractVerifiedFactorExtension_none rfl
    | some f => exact hdata.extractVerifiedFactorExtension_some (hfactor f rfl) rfl
  have huv : decide (flags &&& authDataFlagUv = 0) = !userVerified := by
    subst hflags
    cases userVerified <;> decide
  have hanswer : (Cbor.map [(.integer 2, .bytes authData)]).Writable := by simp [Writable]
  simp [splitStatus, readAs, hcbor.read_intoWriter hanswer, asMap, asBytes, getBytesByInt,
    Bind.bind, Except.bind, hsignature, hverified, hdata.flags_eq, huv, pure, Except.pure]

theorem extractVerifiedFactorExtension_verifies {authData : List UInt8} {f : AuthFactor}
    (h : extractVerifiedFactorExtension cbor authData = some f) : Verifies f := by
  unfold extractVerifiedFactorExtension at h
  split at h
  · cases h
  split at h
  · cases h
  simp only [Option.bind_eq_bind, Option.bind_eq_some_iff] at h
  obtain ⟨-, -, -, -, -, -, category, -, method, -, h⟩ := h
  have hnew {category : FactorCategory} (hcategory : category ≠ .possession)
      (h : (AuthFactor.new category method).toOption = some f) : Verifies f := by
    cases hresult : AuthFactor.new category method with
    | error e =>
      rw [hresult] at h
      cases h
    | ok g =>
      rw [hresult] at h
      cases h
      obtain ⟨rfl, hvocabulary⟩ := AuthFactor.new_ok_iff.mp hresult
      exact ⟨hcategory, hvocabulary⟩
  split at h
  · exact hnew (by decide) h
  · exact hnew (by decide) h
  · cases h

/-- What the parser accepts: a map whose first entry under 2 is the authenticator data that all
it returns was read from. -/
theorem parseGetAssertionResponse_ok {response : List UInt8} {r : SignResult}
    (h : parseGetAssertionResponse cbor response = .ok r) :
    ∃ body entries authData, response = 0x00 :: body ∧ cbor.read body = .ok (.map entries) ∧
      FirstUnder (.integer 2) (.bytes authData) entries ∧
      extractPreviewsignSignature cbor authData = .ok r.signature ∧
      (r.userVerified = true ↔ ∃ flags, authData[32]? = some flags ∧ flags &&& 0x04 ≠ 0) ∧
      r.verifiedFactor = extractVerifiedFactorExtension cbor authData := by
  unfold parseGetAssertionResponse at h
  obtain ⟨body, hbody, h⟩ := exists_of_bind_ok h
  obtain ⟨assertObj, hread, h⟩ := exists_of_bind_ok h
  obtain ⟨entries, hmap, h⟩ := exists_of_bind_ok h
  obtain ⟨authData, hdata, h⟩ := exists_of_bind_ok h
  obtain ⟨signature, hsignature, h⟩ := exists_of_bind_ok h
  cases h
  obtain ⟨v, hv, hbytes⟩ := Option.bind_eq_some_iff.mp (need_ok hdata)
  rw [asBytes_eq_some_iff.mp hbytes, getValueByInt_eq_some_iff] at hv
  refine ⟨body, entries, authData, splitStatus_ok hbody, ?_, hv, hsignature, ?_, rfl⟩
  · rw [readAs_ok hread, asMap_eq_some_iff.mp (need_ok hmap)]
  · exact decide_eq_true_iff.trans (authDataFlags_and_ne_zero_iff authData authDataFlagUv)

/-- Whatever an assertion carries, the factor read out of it verifies the user. -/
theorem parseGetAssertionResponse_verifies {response : List UInt8} {r : SignResult}
    (h : parseGetAssertionResponse cbor response = .ok r) {f : AuthFactor}
    (hf : r.verifiedFactor = some f) : Verifies f := by
  obtain ⟨-, -, authData, -, -, -, -, -, hfactor⟩ := parseGetAssertionResponse_ok h
  exact extractVerifiedFactorExtension_verifies (hfactor ▸ hf)

end Assertion

/-- An assertion the browser transport encodes is parsed back whole; and no bytes at all make
the parser report a factor that is possession or outside the vocabulary. -/
theorem assertion_round_trip (cbor : CborCodec) (hcbor : cbor.Lawful) :
    (∀ r : SignResult,
      (∀ f, r.verifiedFactor = some f →
        (f.category = .knowledge ∨ f.category = .inherence) ∧ f.method ∈ f.category.methods) →
      parseGetAssertionResponse cbor (encodeGetAssertionResponse cbor r) = .ok r) ∧
    ∀ (response : List UInt8) (r : SignResult) (f : AuthFactor),
      parseGetAssertionResponse cbor response = .ok r → r.verifiedFactor = some f →
      (f.category = .knowledge ∨ f.category = .inherence) ∧ f.method ∈ f.category.methods := by
  constructor
  · intro r hfactor
    refine parse_encodeGetAssertionResponse hcbor fun f hf => ?_
    obtain ⟨hcategory, hmethod⟩ := hfactor f hf
    refine ⟨?_, hmethod⟩
    rcases hcategory with hcategory | hcategory
    · simp [hcategory]
    · simp [hcategory]
  · intro response r f hparse hf
    obtain ⟨hcategory, hmethod⟩ := parseGetAssertionResponse_verifies hparse hf
    refine ⟨?_, hmethod⟩
    cases hcase : f.category with
    | knowledge => exact .inl rfl
    | possession => exact absurd hcase hcategory
    | inherence => exact .inr rfl

theorem assertion_round_trip_pattern :
    parseGetAssertionResponse cborWire
        (encodeGetAssertionResponse cborWire ⟨[1, 2], true, some ⟨.knowledge, "pattern"⟩⟩) =
      .ok ⟨[1, 2], true, some ⟨.knowledge, "pattern"⟩⟩ :=
  (assertion_round_trip cborWire cborWire_lawful).1 _ fun f hf => by
    cases hf
    decide

end Wscd.PreviewSign
