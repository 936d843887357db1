import Wscd.Lib.Slice
import Wscd.PreviewSign.Requests
import Wscd.Uvm

/-!
# The parsers stay in bounds

The parsers of the previewSign messages once more, now with the source's own indices and
slices, each of which stops the program when it is out of bounds (`Lib.Slice`). A parser
that returns an error is in `MayStop`; one that returns an option is in `Option`, whose
`none` is the stop.

The CBOR decoder is any partial function that reads a value off the front of its input
(`CborCodec.ReadsPrefix`).

Results:
1. `returns_parseAttestedCredentialData`, `extensionsOffset_eq` and one lemma for each other
   parser: it never stops, and comes to what the model says.
2. `parsers_stay_in_bounds`: all of them, and where the credential id, the key and the
   extensions lie.
-/

namespace Wscd

open Lib

namespace PreviewSign.Bounds

open Cbor

variable (cbor : CborCodec)

/-! ## Authenticator data -/

/-- `((auth_data[offset] as usize) << 8) | (auth_data[offset + 1] as usize)` -/
def credIdLen (authData : List UInt8) (offset : Nat) : Option Nat := do
  let high ← Slice.index authData offset
  let low ← Slice.index authData (offset + 1)
  return high.toNat <<< 8 ||| low.toNat

def parseAttestedCredentialData (authData : List UInt8) :
    MayStop WscdError (List UInt8 × List UInt8 × Option Int) :=
  if authData.length < 37 then throw (.crypto s!"authData too short: {authData.length}")
  else do
    let flags ← inBounds (Slice.index authData 32)
    if flags &&& 0x40 = 0 then
      throw (.crypto "authData does not contain attested credential data")
    else
      let offset := 37 + 16
      if authData.length < offset + 2 then
        throw (.crypto "authData truncated before credIdLen")
      else do
        let len ← inBounds (credIdLen authData offset)
        let offset := offset + 2
        if authData.length < offset + len then
          throw (.crypto "authData truncated before credId")
        else do
          let credId ← inBounds (Slice.range authData offset (offset + len))
          let cursor ← inBounds (Slice.suffix authData (offset + len))
          match cbor.fromReader cursor with
          | .error e => throw (.crypto s!"invalid COSE key CBOR: {e}")
          | .ok (coseKey, _) => return (credId, cbor.intoWriter coseKey, coseAlgorithm coseKey)

/-- Where the extensions start. -/
def extensionsOffset (authData : List UInt8) (flags : UInt8) : Option (Option Nat) :=
  let offset := 37
  if flags &&& 0x40 ≠ 0 then
    let offset := offset + 16
    if authData.length < offset + 2 then return none
    else do
      let len ← credIdLen authData offset
      let offset := offset + (2 + len)
      if authData.length ≤ offset then return none
      else do
        let cursor ← Slice.suffix authData offset
        match cbor.fromReader cursor with
        | .error _ => return none
        | .ok (_, left) => return some (offset + (← Slice.sub cursor.length left.length))
  else return some offset

def extractSignedPreviewsignAlgorithm (authData : List UInt8) : Option (Option Int) :=
  if authData.length ≤ 37 then return none
  else do
    let flags ← Slice.index authData 32
    if flags &&& 0x80 = 0 then return none
    else
      match ← extensionsOffset cbor authData flags with
      | none => return none
      | some offset => do
        let bytes ← Slice.suffix authData offset
        return do
          let extensions ← readOption cbor bytes
          let previewSign ← (getValueByText (← extensions.asMap) "previewSign").bind asMap
          ((getValueByInt previewSign 3).bind asInteger).bind toI64

def extractPreviewsignSignature (authData : List UInt8) : MayStop WscdError (List UInt8) :=
  if authData.length ≤ 37 then
    throw (.crypto "authenticatorData too short to contain extensions")
  else do
    let flags ← inBounds (Slice.index authData 32)
    if flags &&& 0x40 ≠ 0 then
      throw (.crypto "authenticatorData unexpectedly has AT flag set in an assertion response")
    else if flags &&& 0x80 = 0 then
      throw (.crypto "authenticatorData has no extensions (ED flag not set)")
    else do
      let bytes ← inBounds (Slice.suffix authData 37)
      let extensions ← readAs cbor "authenticatorData extensions" bytes
      let extensions ← need "authenticatorData extensions is not a CBOR map" extensions.asMap
      let previewSign ← need "no previewSign extension in authenticatorData"
        (getValueByText extensions "previewSign")
      let previewSign ← need "previewSign extension output is not a CBOR map" previewSign.asMap
      need "previewSign extension missing signature (key 6)" (findBytesByInt previewSign 6)

def extractVerifiedFactorExtension (authData : List UInt8) : Option (Option AuthFactor) :=
  if authData.length ≤ 37 then return none
  else do
    let flags ← Slice.index authData 32
    if flags &&& 0x80 = 0 ∨ flags &&& 0x40 ≠ 0 then return none
    else do
      let bytes ← Slice.suffix authData 37
      return do
        let extensions ← readOption cbor bytes
        let entry ← (getValueByText (← extensions.asMap) verifiedFactorExtensionKey).bind asMap
        let category ← (getValueByText entry "category").bind asText
        let method ← (getValueByText entry "method").bind asText
        match category with
        | "knowledge" => (AuthFactor.new .knowledge method).toOption
        | "inherence" => (AuthFactor.new .inherence method).toOption
        | _ => none

/-! ## Answers -/

def splitStatus (response : List UInt8) : MayStop WscdError (List UInt8) :=
  match response.head? with
  | none => throw (.crypto "empty CTAP2 response")
  | some status =>
    if status ≠ 0x00 then
      throw (.crypto s!"CTAP2 error 0x{hex2 status} ({ctap2StatusName status})")
    else inBounds (Slice.suffix response 1)

def parseMakeCredentialResponse (response : List UInt8) :
    MayStop WscdError MakeCredentialResult := do
  let body ← splitStatus response
  let attObj ← readAs cbor "attestation object" body
  let attObj ← need "attestation object is not a CBOR map" attObj.asMap
  let authData ← need "missing authData in attestation object" (getBytesByInt attObj 2)
  let (credentialId, _, _) ← parseAttestedCredentialData cbor authData
  let attestationObject ← need
    ("no previewSign generateKey result (checked unsignedExtensionOutputs' key 6 " ++
      "and the legacy flat key 7) - authenticator may not support the previewSign extension")
    (generatedKeyAttObj attObj)
  let keyAttObj ← readAs cbor "generated-key attestation object" attestationObject
  let keyAttObj ← need "generated-key attestation object is not a map" keyAttObj.asMap
  let keyAuthData ← need "missing authData in generated-key attestation object"
    (getBytesByInt keyAttObj 2)
  let (keyHandle, publicKeyCose, algorithmFromCose) ← parseAttestedCredentialData cbor keyAuthData
  let signed ← inBounds (extractSignedPreviewsignAlgorithm cbor authData)
  return ⟨credentialId, ⟨keyHandle, publicKeyCose, (signed.or algorithmFromCose).getD (-7),
    attestationObject⟩⟩

def parseGetAssertionResponse (response : List UInt8) : MayStop WscdError SignResult := do
  let body ← splitStatus response
  let assertObj ← readAs cbor "assertion response" body
  let assertObj ← need "assertion response is not a map" assertObj.asMap
  let authData ← need "missing authData in assertion response" (getBytesByInt assertObj 2)
  let signature ← extractPreviewsignSignature cbor authData
  -- `get` does not stop
  let userVerified := authData[32]?.any fun flags => flags &&& authDataFlagUv ≠ 0
  let verifiedFactor ← inBounds (extractVerifiedFactorExtension cbor authData)
  return ⟨signature, userVerified, verifiedFactor⟩

/-! ## Commands -/

def readParams (code : UInt8) (name : String) (command : List UInt8) :
    MayStop WscdError (List (Cbor × Cbor)) :=
  if command.head? ≠ some code then throw (.crypto s!"not an authenticator{name} command")
  else do
    let params ← inBounds (Slice.suffix command 1)
    match cbor.read params with
    | .error e => throw (.crypto s!"invalid {name} params CBOR: {e}")
    | .ok params => need s!"{name} params is not a map" params.asMap

def parseMakeCredentialRequest (command : List UInt8) :
    MayStop WscdError MakeCredentialRequest := do
  let params ← readParams cbor ctap2MakeCredential "MakeCredential" command
  let clientDataHash ← need "missing clientDataHash" (getBytesByInt params 1)
  let rp ← need "missing rp" ((getValueByInt params 2).bind asMap)
  let rpId ← need "missing rp.id" ((getValueByText rp "id").bind asText)
  let user ← need "missing user" ((getValueByInt params 3).bind asMap)
  let userId ← need "missing user.id" ((getValueByText user "id").bind asBytes)
  let previewSign ← readPreviewSign params 6
  let algorithms ← need "missing generateKey algorithms"
    ((getValueByInt previewSign 3).bind asArray)
  return ⟨rpId, userId, clientDataHash, ⟨algorithms.filterMap fun v => v.asInteger.bind toI64⟩⟩

def parseGetAssertionRequest (command : List UInt8) : MayStop WscdError GetAssertionRequest := do
  let params ← readParams cbor ctap2GetAssertion "GetAssertion" command
  let rpId ← need "missing rpId" ((getValueByInt params 1).bind asText)
  let challenge ← need "missing challenge" (getBytesByInt params 2)
  let allowList ← need "missing allowList" ((getValueByInt params 3).bind asArray)
  -- `first` does not stop
  let first ← need "empty allowList" (allowList.head?.bind asMap)
  let credentialId ← need "missing allowList[0].id" ((getValueByText first "id").bind asBytes)
  let previewSign ← readPreviewSign params 4
  let keyHandle ← need "missing signByCredential keyHandle"
    ((getValueByInt previewSign 2).bind asBytes)
  let tbs ← need "missing signByCredential tbs" ((getValueByInt previewSign 6).bind asBytes)
  let additionalArgs := (getValueByInt previewSign 7).bind asBytes
  return ⟨rpId, challenge, credentialId, ⟨keyHandle, tbs, additionalArgs⟩⟩

/-! ## Attestation objects and `uvm` -/

/-- Only iterators: there is nothing to stop at. -/
def attestationObjectHasDedicatedHardwareChain (attestationObject : List UInt8) : Option Bool :=
  match cbor.read attestationObject with
  | .error _ => return false
  | .ok value =>
    match value.asMap with
    | none => return false
    | some entries =>
      if (getValueByInt entries 1).bind asText = some "android-key" then return false
      else
        match (getValueByInt entries 3).bind asMap with
        | none => return false
        | some attStmt =>
          match (getValueByText attStmt "x5c").bind asArray with
          | none => return false
          | some certs =>
            return !certs.isEmpty && certs.all fun c => c.asBytes.any fun b => !b.isEmpty

def parseUvmEntry (entry : Cbor) : Option (Option Uvm.UvmEntry) :=
  match entry.asArray with
  | none => return none
  | some triple =>
    if triple.length ≠ 3 then return none
    else do
      let method ← Slice.index triple 0
      let keyProtection ← Slice.index triple 1
      let matcherProtection ← Slice.index triple 2
      return do
        let method ← method.asInteger.bind toU32
        let keyProtection ← keyProtection.asInteger.bind toU16
        let matcherProtection ← matcherProtection.asInteger.bind toU16
        return ⟨method, keyProtection, matcherProtection⟩

/-- The loop over the entries, which returns at the first that is not well formed. -/
def parseUvmEntries : List Cbor → Option (Option (List Uvm.UvmEntry))
  | [] => return some []
  | entry :: rest => do
    match ← parseUvmEntry entry with
    | none => return none
    | some parsed =>
      let others ← parseUvmEntries rest
      return others.map fun others => parsed :: others

def parseUvmExtension (authData : List UInt8) : Option (Option (List Uvm.UvmEntry)) :=
  match authData[32]? with
  | none => return none
  | some flags =>
    if flags &&& authDataFlagEd = 0 ∨ flags &&& authDataFlagAt ≠ 0 then return none
    else if authData.length < authDataHeaderLen then return none
    else
      match do
        let extensions ← readOption cbor (authData.drop authDataHeaderLen)
        (getValueByText (← extensions.asMap) "uvm").bind asArray with
      | none => return none
      | some entries => do
        match ← parseUvmEntries entries with
        | none => return none
        | some parsed => return if parsed.isEmpty then none else some parsed

/-! ## Authenticator data, in bounds -/

theorem credIdLen_eq {authData : List UInt8} (h : 55 ≤ authData.length) :
    credIdLen authData 53 = some (PreviewSign.credIdLen authData) := by
  have hlow : (authData.getD 54 0).toNat < 2 ^ 8 := (authData.getD 54 0).toNat_lt
  rw [credIdLen, Slice.index_of_lt (by omega) 0, Slice.index_of_lt (by omega) 0]
  show some _ = some _
  rw [Nat.shiftLeft_eq, Nat.mul_comm, ← Nat.two_pow_add_eq_or_of_lt hlow]
  rfl

theorem index_flags {authData : List UInt8} (h : 37 ≤ authData.length) :
    Slice.index authData 32 = some (authDataFlags authData) := Slice.index_of_lt (by omega) 0

theorem returns_parseAttestedCredentialData (authData : List UInt8) :
    Returns (parseAttestedCredentialData cbor authData)
      (PreviewSign.parseAttestedCredentialData cbor authData) := by
  unfold parseAttestedCredentialData PreviewSign.parseAttestedCredentialData authDataHeaderLen
    authDataFlagAt
  by_cases hheader : authData.length < 37
  · rw [if_pos hheader, if_pos hheader]
    exact returns_throw _
  rw [if_neg hheader, if_neg hheader]
  refine returns_inBounds_bind (index_flags (Nat.not_lt.mp hheader)) ?_
  by_cases hflags : authDataFlags authData &&& 0x40 = 0
  · rw [if_pos hflags, if_pos hflags]
    exact returns_throw _
  rw [if_neg hflags, if_neg hflags]
  dsimp only
  by_cases hlen : authData.length < 55
  · rw [if_pos hlen, if_pos hlen]
    exact returns_throw _
  rw [if_neg hlen, if_neg hlen]
  refine returns_inBounds_bind (credIdLen_eq (Nat.not_lt.mp hlen)) ?_
  by_cases hcredId : authData.length < 55 + PreviewSign.credIdLen authData
  · rw [if_pos hcredId, if_pos hcredId]
    exact returns_throw _
  rw [if_neg hcredId, if_neg hcredId]
  refine returns_inBounds_bind (Slice.range_of_le (by omega) (by omega)) ?_
  refine returns_inBounds_bind (Slice.suffix_of_le (Nat.not_lt.mp hcredId)) ?_
  rw [CborCodec.read]
  cases cbor.fromReader (authData.drop (55 + PreviewSign.credIdLen authData)) with
  | error e => exact returns_throw _
  | ok read =>
    rw [Nat.add_sub_cancel_left]
    exact returns_pure _

variable {cbor}

/-- Where the extensions start, and that they are what the model reads. -/
theorem extensionsOffset_eq (hcbor : cbor.ReadsPrefix) {authData : List UInt8}
    (h : 37 ≤ authData.length) :
    ∃ found, extensionsOffset cbor authData (authDataFlags authData) = some found ∧
      (∀ offset, found = some offset → offset ≤ authData.length) ∧
      PreviewSign.extensionBytes cbor authData = found.map authData.drop := by
  unfold extensionsOffset extensionBytes authDataFlagAt
  by_cases hflags : authDataFlags authData &&& 0x40 ≠ 0
  · rw [if_pos hflags, if_pos hflags]
    dsimp only
    by_cases hlen : authData.length < 55
    · rw [if_pos hlen, if_pos (.inl hlen)]
      exact ⟨none, rfl, nofun, rfl⟩
    rw [if_neg hlen, credIdLen_eq (Nat.not_lt.mp hlen)]
    simp only [Option.bind_eq_bind, Option.bind_some]
    rw [← Nat.add_assoc]
    by_cases hcredId : authData.length ≤ 55 + PreviewSign.credIdLen authData
    · rw [if_pos hcredId, if_pos (.inr hcredId)]
      exact ⟨none, rfl, nofun, rfl⟩
    rw [if_neg hcredId, if_neg (by omega), Slice.suffix_of_le (by omega), Option.bind_some]
    cases hread : cbor.fromReader (authData.drop (55 + PreviewSign.credIdLen authData)) with
    | error e => exact ⟨none, rfl, nofun, rfl⟩
    | ok read =>
      obtain ⟨v, left⟩ := read
      have hsuffix := hcbor _ _ _ hread
      dsimp only
      rw [Slice.sub_of_le hsuffix.length_le, Option.bind_some]
      refine ⟨_, rfl, fun offset h => ?_, ?_⟩
      · cases h
        rw [List.length_drop]
        omega
      · rw [Option.map_some, Slice.drop_add_sub hsuffix]
  · rw [if_neg hflags, if_neg hflags]
    exact ⟨some 37, rfl, fun _ h => by cases h; omega, rfl⟩

theorem extractSignedPreviewsignAlgorithm_eq (hcbor : cbor.ReadsPrefix) (authData : List UInt8) :
    extractSignedPreviewsignAlgorithm cbor authData =
      some (PreviewSign.extractSignedPreviewsignAlgorithm cbor authData) := by
  unfold extractSignedPreviewsignAlgorithm PreviewSign.extractSignedPreviewsignAlgorithm
    authDataHeaderLen authDataFlagEd
  by_cases hheader : authData.length ≤ 37
  · rw [if_pos hheader, if_pos hheader]
    rfl
  rw [if_neg hheader, if_neg hheader, index_flags (Nat.le_of_not_le hheader)]
  simp only [Option.bind_eq_bind, Option.bind_some]
  by_cases hflags : authDataFlags authData &&& 0x80 = 0
  · rw [if_pos hflags, if_pos hflags]
    rfl
  rw [if_neg hflags, if_neg hflags]
  have hlong : 37 ≤ authData.length := Nat.le_of_not_le hheader
  obtain ⟨found, hfound, hle, hbytes⟩ := extensionsOffset_eq hcbor hlong
  rw [hfound, hbytes]
  cases found with
  | none => rfl
  | some offset =>
    rw [Option.bind_some, Option.map_some, Option.bind_some]
    dsimp only
    rw [Slice.suffix_of_le (hle offset rfl)]
    rfl

theorem returns_extractPreviewsignSignature (authData : List UInt8) :
    Returns (extractPreviewsignSignature cbor authData)
      (PreviewSign.extractPreviewsignSignature cbor authData) := by
  unfold extractPreviewsignSignature PreviewSign.extractPreviewsignSignature authDataHeaderLen
    authDataFlagEd authDataFlagAt
  by_cases hheader : authData.length ≤ 37
  · rw [if_pos hheader, if_pos hheader]
    exact returns_throw _
  rw [if_neg hheader, if_neg hheader]
  refine returns_inBounds_bind (index_flags (Nat.le_of_not_le hheader)) ?_
  by_cases hat : authDataFlags authData &&& 0x40 ≠ 0
  · rw [if_pos hat, if_pos hat]
    exact returns_throw _
  rw [if_neg hat, if_neg hat]
  by_cases hed : authDataFlags authData &&& 0x80 = 0
  · rw [if_pos hed, if_pos hed]
    exact returns_throw _
  rw [if_neg hed, if_neg hed]
  refine returns_inBounds_bind (Slice.suffix_of_le (Nat.le_of_not_le hheader)) ?_
  refine returns_liftExcept_bind fun extensions _ => returns_liftExcept_bind fun entries _ => ?_
  refine returns_liftExcept_bind fun output _ => returns_liftExcept_bind fun members _ => ?_
  exact returns_liftExcept _

theorem extractVerifiedFactorExtension_eq (authData : List UInt8) :
    extractVerifiedFactorExtension cbor authData =
      some (PreviewSign.extractVerifiedFactorExtension cbor authData) := by
  unfold extractVerifiedFactorExtension PreviewSign.extractVerifiedFactorExtension
    authDataHeaderLen authDataFlagEd authDataFlagAt
  by_cases hheader : authData.length ≤ 37
  · rw [if_pos hheader, if_pos hheader]
    rfl
  rw [if_neg hheader, if_neg hheader, index_flags (Nat.le_of_not_le hheader)]
  simp only [Option.bind_eq_bind, Option.bind_some]
  by_cases hflags : authDataFlags authData &&& 0x80 = 0 ∨ authDataFlags authData &&& 0x40 ≠ 0
  · rw [if_pos hflags, if_pos hflags]
    rfl
  rw [if_neg hflags, if_neg hflags, Slice.suffix_of_le (Nat.le_of_not_le hheader)]
  rfl

/-! ## Answers, in bounds -/

theorem returns_splitStatus (response : List UInt8) :
    Returns (splitStatus response) (PreviewSign.splitStatus response) := by
  unfold splitStatus PreviewSign.splitStatus
  cases response with
  | nil => exact returns_throw _
  | cons status body =>
    show Returns (if status ≠ 0x00 then _ else _) (if status ≠ 0x00 then _ else _)
    by_cases hstatus : status ≠ 0x00
    · rw [if_pos hstatus, if_pos hstatus]
      exact returns_throw _
    rw [if_neg hstatus, if_neg hstatus]
    exact returns_inBounds (Slice.suffix_of_le (by simp))

theorem returns_parseMakeCredentialResponse (hcbor : cbor.ReadsPrefix) (response : List UInt8) :
    Returns (parseMakeCredentialResponse cbor response)
      (PreviewSign.parseMakeCredentialResponse cbor response) := by
  refine Returns.bind (returns_splitStatus response) fun body _ => ?_
  refine returns_liftExcept_bind fun _ _ => returns_liftExcept_bind fun attObj _ => ?_
  refine returns_liftExcept_bind fun authData _ => ?_
  refine Returns.bind (returns_parseAttestedCredentialData cbor authData) fun credential _ => ?_
  refine returns_liftExcept_bind fun attestationObject _ => ?_
  refine returns_liftExcept_bind fun _ _ => returns_liftExcept_bind fun keyAttObj _ => ?_
  refine returns_liftExcept_bind fun keyAuthData _ => ?_
  refine Returns.bind (returns_parseAttestedCredentialData cbor keyAuthData) fun key _ => ?_
  exact returns_inBounds_bind (extractSignedPreviewsignAlgorithm_eq hcbor authData)
    (returns_pure _)

theorem returns_parseGetAssertionResponse (response : List UInt8) :
    Returns (parseGetAssertionResponse cbor response)
      (PreviewSign.parseGetAssertionResponse cbor response) := by
  refine Returns.bind (returns_splitStatus response) fun body _ => ?_
  refine returns_liftExcept_bind fun _ _ => returns_liftExcept_bind fun assertObj _ => ?_
  refine returns_liftExcept_bind fun authData _ => ?_
  refine Returns.bind (returns_extractPreviewsignSignature authData) fun signature _ => ?_
  refine returns_inBounds_bind (extractVerifiedFactorExtension_eq authData) ?_
  have hflags : (authData[32]?.any fun flags => decide (flags &&& authDataFlagUv ≠ 0)) =
      decide (authDataFlags authData &&& authDataFlagUv ≠ 0) := by
    rw [authDataFlags, List.getD_eq_getElem?_getD]
    cases authData[32]? <;> rfl
  rw [hflags]
  exact returns_pure _

/-! ## Commands, in bounds -/

theorem returns_readParams (code : UInt8) (name : String) (command : List UInt8) :
    Returns (readParams cbor code name command) (PreviewSign.readParams cbor code name command) := by
  unfold readParams PreviewSign.readParams
  by_cases hcode : command.head? ≠ some code
  · rw [if_pos hcode, if_pos hcode]
    exact returns_throw _
  rw [if_neg hcode, if_neg hcode]
  cases command with
  | nil => exact absurd nofun hcode
  | cons first body =>
    refine returns_inBounds_bind (Slice.suffix_of_le (by simp)) ?_
    rw [List.drop_one]
    cases cbor.read (first :: body).tail with
    | error e => exact returns_throw _
    | ok params => exact returns_liftExcept _

theorem returns_parseMakeCredentialRequest (command : List UInt8) :
    Returns (parseMakeCredentialRequest cbor command)
      (PreviewSign.parseMakeCredentialRequest cbor command) := by
  refine Returns.bind (returns_readParams _ _ command) fun params _ => ?_
  refine returns_liftExcept_bind fun clientDataHash _ => ?_
  refine returns_liftExcept_bind fun rp _ => returns_liftExcept_bind fun rpId _ => ?_
  refine returns_liftExcept_bind fun user _ => returns_liftExcept_bind fun userId _ => ?_
  refine returns_liftExcept_bind fun previewSign _ => ?_
  exact returns_liftExcept_bind fun algorithms _ => returns_pure _

theorem returns_parseGetAssertionRequest (command : List UInt8) :
    Returns (parseGetAssertionRequest cbor command)
      (PreviewSign.parseGetAssertionRequest cbor command) := by
  refine Returns.bind (returns_readParams _ _ command) fun params _ => ?_
  refine returns_liftExcept_bind fun rpId _ => returns_liftExcept_bind fun challenge _ => ?_
  refine returns_liftExcept_bind fun allowList _ => returns_liftExcept_bind fun first _ => ?_
  refine returns_liftExcept_bind fun credentialId _ => ?_
  refine returns_liftExcept_bind fun previewSign _ => ?_
  refine returns_liftExcept_bind fun keyHandle _ => ?_
  exact returns_liftExcept_bind fun tbs _ => returns_pure _

/-! ## Attestation objects and `uvm`, in bounds -/

theorem attestationObjectHasDedicatedHardwareChain_eq (attestationObject : List UInt8) :
    attestationObjectHasDedicatedHardwareChain cbor attestationObject =
      some (PreviewSign.attestationObjectHasDedicatedHardwareChain cbor attestationObject) := by
  unfold attestationObjectHasDedicatedHardwareChain
    PreviewSign.attestationObjectHasDedicatedHardwareChain
  cases cbor.read attestationObject with
  | error e => rfl
  | ok value =>
    dsimp only
    cases value.asMap with
    | none => rfl
    | some entries =>
      dsimp only
      by_cases hformat : (getValueByInt entries 1).bind asText = some "android-key"
      · rw [if_pos hformat, if_pos hformat]
        rfl
      rw [if_neg hformat, if_neg hformat]
      cases (getValueByInt entries 3).bind asMap with
      | none => rfl
      | some attStmt =>
        dsimp only
        cases (getValueByText attStmt "x5c").bind asArray <;> rfl

theorem parseUvmEntry_eq (entry : Cbor) : parseUvmEntry entry = some (Uvm.parseEntry entry) := by
  unfold parseUvmEntry Uvm.parseEntry
  cases entry.asArray with
  | none => rfl
  | some triple =>
    match triple with
    | [] | [_] | [_, _] | [_, _, _] | _ :: _ :: _ :: _ :: _ => rfl

/-- The loop reads all entries, or none. -/
theorem parseUvmEntries_eq (entries : List Cbor) :
    parseUvmEntries entries = some (entries.mapM Uvm.parseEntry) := by
  induction entries with
  | nil => rfl
  | cons entry rest ih =>
    rw [parseUvmEntries, parseUvmEntry_eq, ih, List.mapM_cons]
    cases Uvm.parseEntry entry with
    | none => rfl
    | some parsed => cases rest.mapM Uvm.parseEntry <;> rfl

theorem parseUvmExtension_eq (authData : List UInt8) :
    parseUvmExtension cbor authData = some (Uvm.parseUvmExtension cbor authData) := by
  unfold parseUvmExtension Uvm.parseUvmExtension
  by_cases hheader : authData.length ≤ 32
  · rw [List.getElem?_eq_none hheader, if_pos hheader]
    rfl
  have hflags : authData[32]? = some (authDataFlags authData) := Slice.index_of_lt (by omega) 0
  rw [hflags, if_neg hheader]
  dsimp only
  by_cases hed : authDataFlags authData &&& authDataFlagEd = 0 ∨
      authDataFlags authData &&& authDataFlagAt ≠ 0
  · rw [if_pos hed, if_pos hed]
    rfl
  rw [if_neg hed, if_neg hed]
  by_cases hlong : authData.length < authDataHeaderLen
  · rw [if_pos hlong, if_pos hlong]
    rfl
  rw [if_neg hlong, if_neg hlong]
  cases readOption cbor (authData.drop authDataHeaderLen) with
  | none => rfl
  | some extensions =>
    simp only [Option.bind_eq_bind, Option.bind_some]
    cases extensions.asMap with
    | none => rfl
    | some members =>
      simp only [Option.bind_some]
      cases (getValueByText members "uvm").bind asArray with
      | none => rfl
      | some entries =>
        simp only [parseUvmEntries_eq, Option.bind_some]
        cases entries.mapM Uvm.parseEntry <;> rfl

/-! ## Where things lie -/

/-- What is known of authenticator data whose attested credential data parses. -/
theorem parseAttestedCredentialData_ok {authData credId key : List UInt8}
    {algorithm : Option Int}
    (h : PreviewSign.parseAttestedCredentialData cbor authData = .ok (credId, key, algorithm)) :
    authDataFlags authData &&& authDataFlagAt ≠ 0 ∧
      55 + PreviewSign.credIdLen authData ≤ authData.length ∧
      credId = (authData.drop 55).take (PreviewSign.credIdLen authData) ∧
      ∃ coseKey rest, cbor.fromReader (authData.drop (55 + PreviewSign.credIdLen authData)) =
          .ok (coseKey, rest) ∧ key = cbor.intoWriter coseKey := by
  unfold PreviewSign.parseAttestedCredentialData at h
  split at h
  · cases h
  split at h
  · cases h
  split at h
  · cases h
  split at h
  · cases h
  rename_i hflags hlen hcredId
  rw [CborCodec.read] at h
  cases hread : cbor.fromReader (authData.drop (55 + PreviewSign.credIdLen authData)) with
  | error e =>
    rw [hread] at h
    cases h
  | ok read =>
    obtain ⟨coseKey, rest⟩ := read
    rw [hread] at h
    cases h
    exact ⟨hflags, Nat.le_of_not_lt hcredId, rfl, coseKey, rest, rfl, rfl⟩

/-- After attested credential data the extensions start where its key ends. -/
theorem extensionsOffset_attested (hcbor : cbor.ReadsPrefix) {authData rest : List UInt8}
    {coseKey : Cbor} (hflags : authDataFlags authData &&& authDataFlagAt ≠ 0)
    (hlen : 55 + PreviewSign.credIdLen authData ≤ authData.length)
    (hread : cbor.fromReader (authData.drop (55 + PreviewSign.credIdLen authData)) =
      .ok (coseKey, rest)) :
    extensionsOffset cbor authData (authDataFlags authData) =
      some (if authData.drop (55 + PreviewSign.credIdLen authData) = [] then none
        else some (authData.length - rest.length)) := by
  obtain ⟨found, hfound, hle, hbytes⟩ := extensionsOffset_eq hcbor
    (show 37 ≤ authData.length by omega)
  rw [hfound]
  unfold extensionBytes at hbytes
  rw [if_pos hflags] at hbytes
  by_cases hempty : authData.length ≤ 55 + PreviewSign.credIdLen authData
  · rw [if_pos (.inr hempty)] at hbytes
    rw [if_pos (List.drop_eq_nil_of_le hempty), Option.map_eq_none_iff.mp hbytes.symm]
  have hne : authData.drop (55 + PreviewSign.credIdLen authData) ≠ [] := fun h =>
    hempty (List.drop_eq_nil_iff.mp h)
  rw [if_neg (by omega), hread] at hbytes
  obtain ⟨offset, rfl, hrest⟩ := Option.map_eq_some_iff.mp hbytes.symm
  have hlength := congrArg List.length hrest
  rw [List.length_drop] at hlength
  have hoffset := hle offset rfl
  rw [if_neg hne]
  congr 2
  omega

variable (cbor)

/-- No parser stops, on any bytes and with any decoder that reads a prefix. And when attested
credential data parses, the credential id is the octets at 55, as many as the two octets at
53 say; the key is the item that starts after them; the extensions start where it ends, and
are not read if there is nothing after the credential id. -/
theorem parsers_stay_in_bounds (hcbor : cbor.ReadsPrefix) :
    (∀ bytes : List UInt8,
      Returns (parseMakeCredentialResponse cbor bytes)
        (PreviewSign.parseMakeCredentialResponse cbor bytes) ∧
      Returns (parseGetAssertionResponse cbor bytes)
        (PreviewSign.parseGetAssertionResponse cbor bytes) ∧
      Returns (parseMakeCredentialRequest cbor bytes)
        (PreviewSign.parseMakeCredentialRequest cbor bytes) ∧
      Returns (parseGetAssertionRequest cbor bytes)
        (PreviewSign.parseGetAssertionRequest cbor bytes) ∧
      Returns (extractPreviewsignSignature cbor bytes)
        (PreviewSign.extractPreviewsignSignature cbor bytes) ∧
      extractSignedPreviewsignAlgorithm cbor bytes =
        some (PreviewSign.extractSignedPreviewsignAlgorithm cbor bytes) ∧
      attestationObjectHasDedicatedHardwareChain cbor bytes =
        some (PreviewSign.attestationObjectHasDedicatedHardwareChain cbor bytes) ∧
      parseUvmExtension cbor bytes = some (Uvm.parseUvmExtension cbor bytes)) ∧
    ∀ authData credId key algorithm,
      Returns (parseAttestedCredentialData cbor authData) (.ok (credId, key, algorithm)) →
      let len := 256 * (authData.getD 53 0).toNat + (authData.getD 54 0).toNat
      55 + len ≤ authData.length ∧ credId = (authData.drop 55).take len ∧
      ∃ coseKey used rest, authData.drop (55 + len) = used ++ rest ∧
        cbor.fromReader (used ++ rest) = .ok (coseKey, rest) ∧ key = cbor.intoWriter coseKey ∧
        extensionsOffset cbor authData (authDataFlags authData) =
          some (if used ++ rest = [] then none else some (55 + len + used.length)) := by
  refine ⟨fun bytes => ⟨returns_parseMakeCredentialResponse hcbor bytes,
    returns_parseGetAssertionResponse bytes, returns_parseMakeCredentialRequest bytes,
    returns_parseGetAssertionRequest bytes, returns_extractPreviewsignSignature bytes,
    extractSignedPreviewsignAlgorithm_eq hcbor bytes,
    attestationObjectHasDedicatedHardwareChain_eq bytes, parseUvmExtension_eq bytes⟩, ?_⟩
  intro authData credId key algorithm hparse len
  have hok : PreviewSign.parseAttestedCredentialData cbor authData =
      .ok (credId, key, algorithm) :=
    Option.some.inj ((returns_parseAttestedCredentialData cbor authData).symm.trans hparse)
  obtain ⟨hflags, hlen, hcredId, coseKey, rest, hread, hkey⟩ := parseAttestedCredentialData_ok hok
  obtain ⟨used, hused⟩ := hcbor _ _ _ hread
  have hlength := congrArg List.length hused
  rw [List.length_append, List.length_drop] at hlength
  have hoffset : authData.length - rest.length = 55 + len + used.length := by
    show _ = 55 + PreviewSign.credIdLen authData + used.length
    omega
  refine ⟨hlen, hcredId, coseKey, used, rest, hused.symm, ?_, hkey, ?_⟩
  · rw [hused]
    exact hread
  · rw [extensionsOffset_attested hcbor hflags hlen hread, hused, hoffset]

/-- A COSE key that names its algorithm. -/
def coseKeyBytes : List UInt8 := cborWire.intoWriter (.map [(.integer 3, .integer (-7))])

/-- Authenticator data with a credential id of three octets and an empty extensions map. -/
def attested : List UInt8 :=
  buildAttestedAuthData cborWire (List.replicate 16 0) [1, 2, 3] coseKeyBytes (some (.map []))

theorem parsers_stay_in_bounds_attested :
    Returns (parseGetAssertionResponse cborWire [])
      (.error (.crypto "empty CTAP2 response")) ∧
    ∃ coseKey used rest, attested.drop (55 + 3) = used ++ rest ∧
      cborWire.fromReader (used ++ rest) = .ok (coseKey, rest) ∧
      coseKeyBytes = cborWire.intoWriter coseKey ∧
      extensionsOffset cborWire attested (authDataFlags attested) =
        some (if used ++ rest = [] then none else some (55 + 3 + used.length)) :=
  ⟨((parsers_stay_in_bounds cborWire cborWire_readsPrefix).1 []).2.1,
    ((parsers_stay_in_bounds cborWire cborWire_readsPrefix).2 attested [1, 2, 3]
      coseKeyBytes (some (-7)) (by rfl)).2.2⟩

end PreviewSign.Bounds

end Wscd
