import Wscd.PreviewSign.Responses

/-!
# What the browser transport hands over for a new key

The browser transport takes a generated key apart from the browser's answer, encodes it as the
answer of an authenticator, and the plugin parses that again. The key's attestation object
travels as the browser gave it.

Results:
1. `Attests.parse`: credential id, COSE key and algorithm, read back from authenticator data
   that is laid out.
2. `parsesBack_iff`: what is handed over is parsed back exactly when the attestation object is
   empty or has the integer keys of CTAP2.
3. `textKeyed_object_is_refused`: one with the text keys of WebAuthn makes the parser fail.
-/

namespace Wscd.PreviewSign

open Cbor

/-! ## Attested credential data -/

/-- Authenticator data with a credential in it: the credential id, the COSE key, then
extensions. -/
def Attests (flags : UInt8) (credId coseKey extensions authData : List UInt8) : Prop :=
  ∃ (rpIdHash signCount aaguid : List UInt8) (lenHi lenLo : UInt8),
    rpIdHash.length = 32 ∧ signCount.length = 4 ∧ aaguid.length = 16 ∧
    flags &&& authDataFlagAt ≠ 0 ∧ 256 * lenHi.toNat + lenLo.toNat = credId.length ∧
    authData = rpIdHash ++ (flags :: (signCount ++ (aaguid ++
      (lenHi :: lenLo :: (credId ++ (coseKey ++ extensions))))))

variable {cbor : CborCodec} {flags : UInt8} {credId coseKey extensions authData : List UInt8}

namespace Attests

theorem flags_eq (h : Attests flags credId coseKey extensions authData) :
    authDataFlags authData = flags := by
  obtain ⟨rpIdHash, signCount, aaguid, lenHi, lenLo, hhash, -, -, -, -, rfl⟩ := h
  exact authDataFlags_append hhash

theorem attested (h : Attests flags credId coseKey extensions authData) :
    flags &&& authDataFlagAt ≠ 0 := by
  obtain ⟨_, _, _, _, _, -, -, -, hattested, -⟩ := h
  exact hattested

/-- The credential id and what follows it, behind the two octets of its length. -/
theorem split (h : Attests flags credId coseKey extensions authData) :
    ∃ (front : List UInt8) (lenHi lenLo : UInt8), front.length = 53 ∧
      256 * lenHi.toNat + lenLo.toNat = credId.length ∧
      authData = front ++ (lenHi :: lenLo :: (credId ++ (coseKey ++ extensions))) := by
  obtain ⟨rpIdHash, signCount, aaguid, lenHi, lenLo, hhash, hcount, haaguid, -, hlen, rfl⟩ := h
  refine ⟨rpIdHash ++ flags :: (signCount ++ aaguid), lenHi, lenLo, ?_, hlen, ?_⟩
  · simp only [List.length_append, List.length_cons, hhash, hcount, haaguid]
  · simp

theorem length_eq (h : Attests flags credId coseKey extensions authData) :
    authData.length = 55 + credId.length + coseKey.length + extensions.length := by
  obtain ⟨front, lenHi, lenLo, hfront, -, rfl⟩ := h.split
  simp only [List.length_append, List.length_cons, hfront]
  omega

theorem credIdLen_eq (h : Attests flags credId coseKey extensions authData) :
    credIdLen authData = credId.length := by
  obtain ⟨front, lenHi, lenLo, hfront, hlen, rfl⟩ := h.split
  unfold credIdLen
  rw [List.getD_eq_getElem?_getD, List.getD_eq_getElem?_getD,
    List.getElem?_append_right (by omega), List.getElem?_append_right (by omega), hfront]
  exact hlen

theorem drop_eq (h : Attests flags credId coseKey extensions authData) :
    authData.drop 55 = credId ++ (coseKey ++ extensions) := by
  obtain ⟨front, lenHi, lenLo, hfront, -, rfl⟩ := h.split
  have hassoc : front ++ (lenHi :: lenLo :: (credId ++ (coseKey ++ extensions))) =
      (front ++ [lenHi, lenLo]) ++ (credId ++ (coseKey ++ extensions)) := by simp
  rw [hassoc, List.drop_left' (by simp [hfront])]

theorem drop_credId (h : Attests flags credId coseKey extensions authData) :
    authData.drop (55 + credId.length) = coseKey ++ extensions := by
  rw [← List.drop_drop, h.drop_eq, List.drop_left]

/-- A COSE key that is written as CBOR is read back, with its algorithm. -/
theorem parse (hcbor : cbor.Lawful) {v : Cbor} (hv : v.Writable)
    (h : Attests flags credId (cbor.intoWriter v) extensions authData) :
    parseAttestedCredentialData cbor authData =
      .ok (credId, cbor.intoWriter v, coseAlgorithm v) := by
  have hlength := h.length_eq
  have hattested := h.attested
  unfold parseAttestedCredentialData
  rw [if_neg (by unfold authDataHeaderLen; omega), h.flags_eq, if_neg hattested,
    if_neg (by omega), h.credIdLen_eq, if_neg (by omega), h.drop_credId,
    hcbor.read_append hv, h.drop_eq, List.take_left]

/-- The algorithm among the signed extensions. -/
theorem extractSignedPreviewsignAlgorithm (hcbor : cbor.Lawful) {v : Cbor} (hv : v.Writable)
    {algorithm : Int} (halgorithm : IsI64 algorithm) (hextended : flags &&& authDataFlagEd ≠ 0)
    (h : Attests flags credId (cbor.intoWriter v)
      (cbor.intoWriter
        (.map [(.text "previewSign", .map [(.integer 3, .integer algorithm)])])) authData) :
    extractSignedPreviewsignAlgorithm cbor authData = some algorithm := by
  have hlength := h.length_eq
  have hpos := List.length_pos_of_ne_nil (hcbor.intoWriter_ne_nil hv)
  have hextensions :
      (Cbor.map [(.text "previewSign", .map [(.integer 3, .integer algorithm)])]).Writable := by
    simpa [Writable] using halgorithm.fitsWithin 254
  have hbytes : extensionBytes cbor authData = some (cbor.intoWriter
      (.map [(.text "previewSign", .map [(.integer 3, .integer algorithm)])])) := by
    unfold extensionBytes
    rw [h.flags_eq, if_pos h.attested, h.credIdLen_eq, if_neg (by omega), h.drop_credId,
      hcbor.read_back _ _ hv]
  unfold PreviewSign.extractSignedPreviewsignAlgorithm
  rw [if_neg (by unfold authDataHeaderLen; omega), h.flags_eq, if_neg hextended, hbytes]
  simp [readOption, hcbor.read_intoWriter hextensions, Except.toOption, asMap, asInteger,
    halgorithm.toI64_eq]

end Attests

theorem attests_buildAttestedAuthData (cbor : CborCodec) (aaguid credId coseKey : List UInt8)
    (signedExtensions : Option Cbor) (haaguid : aaguid.length = 16)
    (hcredId : credId.length ≤ 65535) :
    Attests (if signedExtensions.isSome then authDataFlagAt ||| authDataFlagEd
        else authDataFlagAt) credId coseKey ((signedExtensions.map cbor.intoWriter).getD [])
      (buildAttestedAuthData cbor aaguid credId coseKey signedExtensions) := by
  refine ⟨List.replicate 32 0, [0, 0, 0, 1], aaguid, _, _, List.length_replicate, rfl, haaguid,
    ?_, ?_, rfl⟩
  · cases signedExtensions with
    | none => decide
    | some v =>
      show (authDataFlagAt ||| authDataFlagEd) &&& authDataFlagAt ≠ 0
      decide
  · rw [UInt8.toNat_ofNat', UInt8.toNat_ofNat']
    omega

/-! ## What is handed over -/

/-- An attestation object as CTAP2 has it, under the keys 1, 2 and 3. -/
def Ctap2Keyed (cbor : CborCodec) (attestationObject authData : List UInt8) : Prop :=
  ∃ entries fmt attStmt, cbor.read attestationObject = .ok (.map entries) ∧
    getValueByInt entries 1 = some (.text fmt) ∧
    getValueByInt entries 2 = some (.bytes authData) ∧ getValueByInt entries 3 = some attStmt

/-- An attestation object as WebAuthn has it, under text keys. -/
def WebAuthnKeyed (cbor : CborCodec) (attestationObject authData : List UInt8) : Prop :=
  ∃ entries fmt attStmt, cbor.read attestationObject = .ok (.map entries) ∧
    (∀ e ∈ entries, e.1.asText.isSome) ∧ getValueByText entries "fmt" = some (.text fmt) ∧
    getValueByText entries "authData" = some (.bytes authData) ∧
    getValueByText entries "attStmt" = some attStmt

/-- What the browser transport can hand over. -/
structure HandedOver (cbor : CborCodec) (r : MakeCredentialResult) : Prop where
  credentialId_length : r.credentialId.length ≤ 65535
  keyHandle_length : r.generatedKey.keyHandle.length ≤ 65535
  publicKeyCose : ∃ v : Cbor, v.Writable ∧ r.generatedKey.publicKeyCose = cbor.intoWriter v
  algorithm : IsI64 r.generatedKey.algorithm
  attestationObject : r.generatedKey.attestationObject = [] ∨
    ∃ authData flags extensions,
      (Ctap2Keyed cbor r.generatedKey.attestationObject authData ∨
        WebAuthnKeyed cbor r.generatedKey.attestationObject authData) ∧
      Attests flags r.generatedKey.keyHandle r.generatedKey.publicKeyCose extensions authData

/-- The parser gives back what was encoded; where there was no attestation object, one that
proves as little. -/
def ParsesBack (cbor : CborCodec) (r : MakeCredentialResult) : Prop :=
  ∃ r', parseMakeCredentialResponse cbor (encodeMakeCredentialResponse cbor r) = .ok r' ∧
    r'.credentialId = r.credentialId ∧ r'.generatedKey.keyHandle = r.generatedKey.keyHandle ∧
    r'.generatedKey.publicKeyCose = r.generatedKey.publicKeyCose ∧
    r'.generatedKey.algorithm = r.generatedKey.algorithm ∧
    (r.generatedKey.attestationObject ≠ [] →
      r'.generatedKey.attestationObject = r.generatedKey.attestationObject) ∧
    attestationObjectHasDedicatedHardwareChain cbor r'.generatedKey.attestationObject =
      attestationObjectHasDedicatedHardwareChain cbor r.generatedKey.attestationObject

/-! ## The round trip -/

section RoundTrip

variable {r : MakeCredentialResult}

/-- The answer up to the key's attestation object, which the rest depends on. -/
theorem parse_encodeMakeCredentialResponse (hcbor : cbor.Lawful)
    (hlength : r.credentialId.length ≤ 65535) (halgorithm : IsI64 r.generatedKey.algorithm)
    {object : List UInt8} (hobject : innerAttestationObject cbor r.generatedKey = object) :
    parseMakeCredentialResponse cbor (encodeMakeCredentialResponse cbor r) = (do
      let keyAttObj ← readAs cbor "generated-key attestation object" object
      let keyAttObj ← need "generated-key attestation object is not a map" keyAttObj.asMap
      let keyAuthData ← need "missing authData in generated-key attestation object"
        (getBytesByInt keyAttObj 2)
      let (keyHandle, publicKeyCose, _) ← parseAttestedCredentialData cbor keyAuthData
      return ⟨r.credentialId, ⟨keyHandle, publicKeyCose, r.generatedKey.algorithm, object⟩⟩) := by
  have houter := attests_buildAttestedAuthData cbor (List.replicate 16 0)
    r.credentialId (placeholderCoseKey cbor) (some (.map [(.text "previewSign",
      .map [(.integer 3, .integer r.generatedKey.algorithm)])])) List.length_replicate hlength
  generalize hauthData : buildAttestedAuthData cbor (List.replicate 16 0) r.credentialId
    (placeholderCoseKey cbor) _ = authData at houter
  have hplaceholder : (Cbor.map [(.integer 1, .integer 2), (.integer 3, .integer (-7)),
      (.integer (-1), .integer 1), (.integer (-2), .bytes (List.replicate 32 0)),
      (.integer (-3), .bytes (List.replicate 32 0))]).Writable := by simp [Writable]
  have hanswer : (Cbor.map [(.integer 1, .text "none"), (.integer 2, .bytes authData),
      (.integer 3, .map []), (.integer 7, .bytes object)]).Writable := by simp [Writable]
  have hparse := houter.parse hcbor hplaceholder
  have hsigned := houter.extractSignedPreviewsignAlgorithm hcbor hplaceholder halgorithm
    (show (authDataFlagAt ||| authDataFlagEd) &&& authDataFlagEd ≠ 0 by decide)
  unfold parseMakeCredentialResponse encodeMakeCredentialResponse
  dsimp only
  rw [hauthData, hobject]
  simp [splitStatus, readAs, hcbor.read_intoWriter hanswer, asMap, asBytes, getBytesByInt,
    Bind.bind, Except.bind, hparse, hsigned, generatedKeyAttObj, pure, Except.pure]

/-- An attestation object with its authenticator data under the key 2 is parsed back. -/
theorem parsesBack_of_authData (hcbor : cbor.Lawful) (h : HandedOver cbor r)
    {object authData : List UInt8} {entries : List (Cbor × Cbor)} {flags : UInt8}
    {extensions : List UInt8} (hobject : innerAttestationObject cbor r.generatedKey = object)
    (hread : cbor.read object = .ok (.map entries))
    (hauthData : getBytesByInt entries 2 = some authData)
    (hattests : Attests flags r.generatedKey.keyHandle r.generatedKey.publicKeyCose extensions
      authData) :
    parseMakeCredentialResponse cbor (encodeMakeCredentialResponse cbor r) =
      .ok ⟨r.credentialId, { r.generatedKey with attestationObject := object }⟩ := by
  rw [parse_encodeMakeCredentialResponse hcbor h.credentialId_length h.algorithm hobject]
  obtain ⟨v, hwritable, hv⟩ := h.publicKeyCose
  rw [hv] at hattests
  simp [readAs, hread, asMap, hauthData, hattests.parse hcbor hwritable, hv, Bind.bind,
    Except.bind, pure, Except.pure]

/-- What is made up for a key without an attestation object can be written. -/
theorem writable_noneObject (authData : List UInt8) :
    (Cbor.map [(.integer 1, .text "none"), (.integer 2, .bytes authData),
      (.integer 3, .map [])]).Writable := by
  simp [Writable]

theorem noneObject_proves_nothing (hcbor : cbor.Lawful) (authData : List UInt8) :
    attestationObjectHasDedicatedHardwareChain cbor (cbor.intoWriter
      (.map [(.integer 1, .text "none"), (.integer 2, .bytes authData), (.integer 3, .map [])])) =
      false := by
  simp [attestationObjectHasDedicatedHardwareChain,
    hcbor.read_intoWriter (writable_noneObject authData), asMap, asText]

theorem nothing_proves_nothing (hcbor : cbor.Lawful) :
    attestationObjectHasDedicatedHardwareChain cbor [] = false := by
  obtain ⟨e, heof⟩ := hcbor.eof
  simp [attestationObjectHasDedicatedHardwareChain, CborCodec.read, heof, Except.map]

/-- Without an attestation object, one of format `none` is made up, which proves nothing. -/
theorem parsesBack_of_empty (hcbor : cbor.Lawful) (h : HandedOver cbor r)
    (hempty : r.generatedKey.attestationObject = []) : ParsesBack cbor r := by
  have hattests := attests_buildAttestedAuthData cbor (List.replicate 16 0)
    r.generatedKey.keyHandle r.generatedKey.publicKeyCose none List.length_replicate
    h.keyHandle_length
  have hobject : innerAttestationObject cbor r.generatedKey = _ := if_pos hempty
  have hread := hcbor.read_intoWriter (writable_noneObject (buildAttestedAuthData cbor
    (List.replicate 16 0) r.generatedKey.keyHandle r.generatedKey.publicKeyCose none))
  refine ⟨_, parsesBack_of_authData hcbor h hobject hread (by simp [getBytesByInt, asBytes])
    hattests, rfl, rfl, rfl, rfl, fun hne => absurd hempty hne, ?_⟩
  rw [hempty, nothing_proves_nothing hcbor]
  exact noneObject_proves_nothing hcbor _

theorem parsesBack_of_ctap2Keyed (hcbor : cbor.Lawful) (h : HandedOver cbor r)
    (hne : r.generatedKey.attestationObject ≠ []) {authData : List UInt8} {flags : UInt8}
    {extensions : List UInt8} (hkeyed : Ctap2Keyed cbor r.generatedKey.attestationObject authData)
    (hattests : Attests flags r.generatedKey.keyHandle r.generatedKey.publicKeyCose extensions
      authData) : ParsesBack cbor r := by
  obtain ⟨entries, fmt, attStmt, hread, -, hauthData, -⟩ := hkeyed
  have hobject : innerAttestationObject cbor r.generatedKey = _ := if_neg hne
  have hbytes : getBytesByInt entries 2 = some authData := by
    rw [getBytesByInt, hauthData]
    rfl
  exact ⟨_, parsesBack_of_authData hcbor h hobject hread hbytes hattests, rfl, rfl, rfl, rfl,
    fun _ => rfl, rfl⟩

/-- A map without integer keys has nothing under the key 2. -/
theorem getBytesByInt_of_textKeys {entries : List (Cbor × Cbor)}
    (h : ∀ e ∈ entries, e.1.asText.isSome) (key : Int) : getBytesByInt entries key = none := by
  have hfind : entries.find? (fun e => e.1.asInteger = some key) = none := by
    rw [List.find?_eq_none]
    intro e he
    have htext := h e he
    rcases e with ⟨k, v⟩
    cases k <;> simp_all [asText, asInteger]
  rw [getBytesByInt, getValueByInt, hfind]
  rfl

/-- The parser looks for the authenticator data under the key 2 only. -/
theorem textKeyed_object_is_refused (hcbor : cbor.Lawful) (h : HandedOver cbor r)
    (hne : r.generatedKey.attestationObject ≠ []) {authData : List UInt8}
    (hkeyed : WebAuthnKeyed cbor r.generatedKey.attestationObject authData) :
    parseMakeCredentialResponse cbor (encodeMakeCredentialResponse cbor r) =
      .error (.crypto "missing authData in generated-key attestation object") := by
  obtain ⟨entries, fmt, attStmt, hread, hkeys, -⟩ := hkeyed
  have hobject : innerAttestationObject cbor r.generatedKey = _ := if_neg hne
  rw [parse_encodeMakeCredentialResponse hcbor h.credentialId_length h.algorithm hobject]
  simp [readAs, hread, asMap, getBytesByInt_of_textKeys hkeys, Bind.bind, Except.bind]

end RoundTrip

theorem Ctap2Keyed.not_webAuthnKeyed {object authData authData' : List UInt8}
    (h : Ctap2Keyed cbor object authData) : ¬ WebAuthnKeyed cbor object authData' := by
  rintro ⟨entries, -, -, hread, hkeys, -⟩
  obtain ⟨entries', -, -, hread', -, hauthData, -⟩ := h
  rw [hread] at hread'
  cases hread'
  have hnone := getBytesByInt_of_textKeys hkeys 2
  rw [getBytesByInt, hauthData] at hnone
  cases hnone

/-- What the browser transport hands over is parsed back exactly when the attestation object
is empty or has the integer keys of CTAP2. -/
theorem parsesBack_iff (cbor : CborCodec) (hcbor : cbor.Lawful) (r : MakeCredentialResult)
    (h : HandedOver cbor r) :
    ParsesBack cbor r ↔
      r.generatedKey.attestationObject = [] ∨
        ∃ authData, Ctap2Keyed cbor r.generatedKey.attestationObject authData := by
  rcases eq_or_ne r.generatedKey.attestationObject [] with hempty | hne
  · exact ⟨fun _ => .inl hempty, fun _ => parsesBack_of_empty hcbor h hempty⟩
  obtain ⟨authData, flags, extensions, hkeyed, hattests⟩ := h.attestationObject.resolve_left hne
  rcases hkeyed with hkeyed | hkeyed
  · exact ⟨fun _ => .inr ⟨authData, hkeyed⟩,
      fun _ => parsesBack_of_ctap2Keyed hcbor h hne hkeyed hattests⟩
  · constructor
    · rintro ⟨r', hparse, -⟩
      rw [textKeyed_object_is_refused hcbor h hne hkeyed] at hparse
      cases hparse
    · rintro (hempty | ⟨authData', hkeyed'⟩)
      · exact absurd hempty hne
      · exact absurd hkeyed hkeyed'.not_webAuthnKeyed

/-! ## A registration whose attestation object is WebAuthn's -/

/-- The COSE key of the examples. -/
def exampleCoseKey : Cbor := .map [(.integer 3, .integer arkgP256Esp256)]

def exampleAuthData : List UInt8 :=
  buildAttestedAuthData cborWire (List.replicate 16 0) [2] (cborWire.intoWriter exampleCoseKey) none

def browserAttestationObject : List UInt8 :=
  cborWire.intoWriter (.map [(.text "fmt", .text "none"), (.text "attStmt", .map []),
    (.text "authData", .bytes exampleAuthData)])

def exampleRegistration (attestationObject : List UInt8) : MakeCredentialResult :=
  ⟨[1], ⟨[2], cborWire.intoWriter exampleCoseKey, arkgP256Esp256, attestationObject⟩⟩

theorem webAuthnKeyed_browserAttestationObject :
    WebAuthnKeyed cborWire browserAttestationObject exampleAuthData :=
  ⟨_, "none", .map [], cborWire_read _, by simp [asText],
    by simp, by simp, by simp⟩

theorem browserAttestationObject_ne_nil : browserAttestationObject ≠ [] :=
  cborWire_lawful.intoWriter_ne_nil (by simp [Writable])

theorem handedOver_browser :
    HandedOver cborWire (exampleRegistration browserAttestationObject) where
  credentialId_length := by decide
  keyHandle_length := by decide
  publicKeyCose := ⟨_, by simp [Writable, exampleCoseKey, arkgP256Esp256], rfl⟩
  algorithm := by decide
  attestationObject := .inr ⟨_, _, _, .inr webAuthnKeyed_browserAttestationObject,
    attests_buildAttestedAuthData cborWire _ _ _ none List.length_replicate (by decide)⟩

theorem handedOver_empty : HandedOver cborWire (exampleRegistration []) where
  credentialId_length := by decide
  keyHandle_length := by decide
  publicKeyCose := ⟨_, by simp [Writable, exampleCoseKey, arkgP256Esp256], rfl⟩
  algorithm := by decide
  attestationObject := .inl rfl

theorem parsesBack_iff_empty : ParsesBack cborWire (exampleRegistration []) :=
  (parsesBack_iff cborWire cborWire_lawful _ handedOver_empty).mpr (.inl rfl)

/-- A browser hands over its attestation object under text keys, and the key is lost. -/
theorem browser_registration_is_refused :
    ¬ ∀ (cbor : CborCodec) (r : MakeCredentialResult), cbor.Lawful → HandedOver cbor r →
      ParsesBack cbor r := by
  intro hall
  obtain ⟨r', hparse, -⟩ := hall cborWire _ cborWire_lawful handedOver_browser
  rw [textKeyed_object_is_refused cborWire_lawful handedOver_browser
    browserAttestationObject_ne_nil webAuthnKeyed_browserAttestationObject] at hparse
  cases hparse

end Wscd.PreviewSign
