import Wscd.Cbor

/-!
# The previewSign protocol: keys and attestation

What an authenticator hands back for a generated key, and the decoders of its COSE public
key and of its attestation object.
-/

namespace Wscd.PreviewSign

open Cbor

/-! ## Constants -/

/-- The algorithm previewSign generates P-256 keys under. -/
def arkgP256Esp256 : Int := -65539

/-- The algorithm of a BBS key binding key, a placeholder identifier. -/
def ecsdsaBls12381Bp1Sha256Sec1 : Int := -65609

def coseCrvBls12381G1 : Int := 13

def coseCrvBls12381G1Placeholder : Int := -65601

/-- Octets of one affine BLS12-381 G1 coordinate. -/
def bls12381G1CoordinateLen : Nat := 48

/-- Octets of a Schnorr signature over G1, two scalars. -/
def bls12381SchnorrSignatureLen : Nat := 64

/-- The largest message the prototype firmware signs. -/
def previewSignMaxTbsLen : Nat := 64

/-- Octets of the message a BBS key binding signature takes. -/
def bls12381KeybindTbsLen : Nat := 32

/-! ## Results of the two ceremonies -/

/-- The signing key an authenticator generated. -/
structure GeneratedKey where
  keyHandle : List UInt8
  publicKeyCose : List UInt8
  algorithm : Int
  attestationObject : List UInt8
  deriving DecidableEq, Repr

structure MakeCredentialResult where
  credentialId : List UInt8
  generatedKey : GeneratedKey
  deriving DecidableEq, Repr

/-- The input of a `signByCredential` request. -/
structure SignInput where
  keyHandle : List UInt8
  tbs : List UInt8
  additionalArgs : Option (List UInt8)
  deriving DecidableEq, Repr

/-! ## Messages -/

/-- A command: its code and its parameters. -/
def encodeCommand (cbor : CborCodec) (command : UInt8) (params : Cbor) : List UInt8 :=
  command :: cbor.intoWriter params

/-- An octet as two hexadecimal digits. -/
def hex2 (b : UInt8) : String :=
  String.ofList [Nat.digitChar (b.toNat / 16), Nat.digitChar (b.toNat % 16)]

def ctap2StatusName (status : UInt8) : String :=
  match status with
  | 0x11 => "CTAP2_ERR_CBOR_UNEXPECTED_TYPE"
  | 0x12 => "CTAP2_ERR_INVALID_CBOR"
  | 0x14 => "CTAP2_ERR_MISSING_PARAMETER"
  | 0x19 => "CTAP2_ERR_UNSUPPORTED_EXTENSION"
  | 0x26 => "CTAP2_ERR_UNSUPPORTED_ALGORITHM"
  | 0x27 => "CTAP2_ERR_OPERATION_DENIED"
  | 0x30 => "CTAP2_ERR_NOT_ALLOWED"
  | 0x31 => "CTAP2_ERR_PIN_INVALID"
  | 0x33 => "CTAP2_ERR_PIN_AUTH_INVALID"
  | 0x34 => "CTAP2_ERR_PIN_AUTH_BLOCKED"
  | 0x35 => "CTAP2_ERR_PIN_NOT_SET"
  | 0x36 => "CTAP2_ERR_PUAT_REQUIRED"
  | 0x37 => "CTAP2_ERR_PIN_POLICY_VIOLATION"
  | _ => "unknown"

/-- The body of a response whose status is success. -/
def splitStatus (response : List UInt8) : Except WscdError (List UInt8) :=
  match response with
  | [] => .error (.crypto "empty CTAP2 response")
  | status :: body =>
    if status ≠ 0x00 then
      .error (.crypto s!"CTAP2 error 0x{hex2 status} ({ctap2StatusName status})")
    else .ok body

/-- `ok_or_else` with an error of the protocol. -/
def need {α : Type} (msg : String) : Option α → Except WscdError α
  | some a => .ok a
  | none => .error (.crypto msg)

@[simp] theorem need_some {α : Type} (msg : String) (a : α) : need msg (some a) = .ok a := rfl

@[simp] theorem need_none {α : Type} (msg : String) :
    need msg (none : Option α) = .error (.crypto msg) := rfl

theorem need_ok {α : Type} {msg : String} {o : Option α} {a : α} (h : need msg o = .ok a) :
    o = some a := by
  cases o with
  | none => cases h
  | some a' =>
    cases h
    rfl

theorem splitStatus_ok {response body : List UInt8} (h : splitStatus response = .ok body) :
    response = 0x00 :: body := by
  match response with
  | [] => cases h
  | status :: rest =>
    unfold splitStatus at h
    dsimp only at h
    split at h
    · cases h
    · rename_i hstatus
      cases h
      rw [not_not.mp hstatus]

/-! ## COSE public keys -/

variable (cbor : CborCodec)

/-- The entries of an encoded COSE key. -/
def readCoseKey (coseBytes : List UInt8) : Except WscdError (List (Cbor × Cbor)) :=
  match cbor.read coseBytes with
  | .error e => .error (.crypto s!"invalid COSE key CBOR: {e}")
  | .ok value =>
    match value.asMap with
    | none => .error (.crypto "COSE key is not a CBOR map")
    | some entries => .ok entries

/-- The coordinates of an EC2 COSE key. Their width is not checked here. -/
def decodeCoseEc2PublicKey (coseBytes : List UInt8) :
    Except WscdError (List UInt8 × List UInt8) := do
  let entries ← readCoseKey cbor coseBytes
  let x ← match findBytesByInt entries (-2) with
    | some x => .ok x
    | none => .error (.crypto "COSE key missing x coordinate")
  let y ← match findBytesByInt entries (-3) with
    | some y => .ok y
    | none => .error (.crypto "COSE key missing y coordinate")
  if x = [] ∨ y = [] then
    .error (.crypto "COSE key x/y coordinate must not be empty")
  else if x.length ≠ y.length then
    .error (.crypto s!"COSE key x/y coordinate length mismatch: x={x.length} y={y.length}")
  else .ok (x, y)

/-- One coordinate of a G1 point. -/
def bls12381G1Coordinate (entries : List (Cbor × Cbor)) (label : Int) (name : String) :
    Except WscdError (List UInt8) :=
  match getBytesByInt entries label with
  | none => .error (.crypto s!"COSE key has no {name} (label {label})")
  | some b =>
    if b.length ≠ bls12381G1CoordinateLen then
      .error (.crypto
        s!"BLS12-381 G1 {name} is {b.length} octets, expected {bls12381G1CoordinateLen}")
    else .ok b

/-- The coordinates of a BLS12-381 G1 COSE key. The curve is checked, the key type is not. -/
def decodeCoseBls12381G1PublicKey (coseBytes : List UInt8) :
    Except WscdError (List UInt8 × List UInt8) := do
  let entries ← readCoseKey cbor coseBytes
  match ((getValueByInt entries (-1)).bind asInteger).bind toI64 with
  | none => .error (.crypto "COSE key has no curve (label -1)")
  | some crv =>
    if crv ≠ coseCrvBls12381G1 ∧ crv ≠ coseCrvBls12381G1Placeholder then
      .error (.crypto (s!"unexpected curve {crv} for a BLS12-381 G1 key (expected " ++
        s!"{coseCrvBls12381G1} or {coseCrvBls12381G1Placeholder})"))
    else
      let x ← bls12381G1Coordinate entries (-2) "x coordinate"
      let y ← bls12381G1Coordinate entries (-3) "y coordinate"
      return (x, y)

/-! ## Attestation -/

/-- Whether an attestation object carries a certificate chain: a non-empty `x5c` array of
non-empty byte strings. `android-key` never counts. -/
def attestationObjectHasDedicatedHardwareChain (attestationObject : List UInt8) : Bool :=
  match cbor.read attestationObject with
  | .error _ => false
  | .ok value =>
    match value.asMap with
    | none => false
    | some entries =>
      if (getValueByInt entries 1).bind asText = some "android-key" then false
      else
        match (getValueByInt entries 3).bind asMap with
        | none => false
        | some attStmt =>
          match (getValueByText attStmt "x5c").bind asArray with
          | none => false
          | some certs => !certs.isEmpty && certs.all fun c => (c.asBytes.any fun b => !b.isEmpty)

/-- Read as CBOR, the attestation object is a map of another format than `android-key`, whose
statement has a chain of certificates under `x5c`, none of them empty. -/
def CarriesChain (attestationObject : List UInt8) : Prop :=
  ∃ entries attStmt certificates, cbor.read attestationObject = .ok (.map entries) ∧
    ¬ FirstUnder (.integer 1) (.text "android-key") entries ∧
    FirstUnder (.integer 3) (.map attStmt) entries ∧
    FirstUnder (.text "x5c") (.array (certificates.map .bytes)) attStmt ∧
    certificates ≠ [] ∧ [] ∉ certificates

theorem eq_map_bytes_iff (certs : List Cbor) :
    (∃ certificates : List (List UInt8), certs = certificates.map .bytes ∧ [] ∉ certificates) ↔
      ∀ c ∈ certs, ∃ b, c = .bytes b ∧ b ≠ [] := by
  induction certs with
  | nil => exact iff_of_true ⟨[], rfl, List.not_mem_nil⟩ fun c hc => absurd hc List.not_mem_nil
  | cons c certs ih =>
    rw [List.forall_mem_cons, ← ih]
    constructor
    · rintro ⟨certificates, heq, hnonempty⟩
      obtain ⟨b, rest, rfl, rfl, rfl⟩ := List.map_eq_cons_iff.mp heq.symm
      rw [List.mem_cons, not_or] at hnonempty
      exact ⟨⟨b, rfl, Ne.symm hnonempty.1⟩, rest, rfl, hnonempty.2⟩
    · rintro ⟨⟨b, rfl, hb⟩, rest, rfl, hrest⟩
      exact ⟨b :: rest, rfl, by simp [hb.symm, hrest]⟩

/-- A non-empty array of non-empty byte strings. -/
theorem certificates_iff (certs : List Cbor) :
    (!certs.isEmpty && certs.all fun c => (c.asBytes.any fun b => !b.isEmpty)) = true ↔
      ∃ certificates : List (List UInt8), certs = certificates.map .bytes ∧ certificates ≠ [] ∧
        [] ∉ certificates := by
  have hbytes (c : Cbor) :
      (c.asBytes.any fun b => !b.isEmpty) = true ↔ ∃ b, c = .bytes b ∧ b ≠ [] := by
    cases c <;> simp [asBytes]
  rw [Bool.and_eq_true, List.all_eq_true]
  simp only [hbytes]
  rw [← eq_map_bytes_iff]
  constructor
  · rintro ⟨hne, certificates, rfl, hnonempty⟩
    exact ⟨certificates, rfl, by simpa using hne, hnonempty⟩
  · rintro ⟨certificates, rfl, hne, hnonempty⟩
    exact ⟨by simpa using hne, certificates, rfl, hnonempty⟩

theorem attestationObjectHasDedicatedHardwareChain_iff (attestationObject : List UInt8) :
    attestationObjectHasDedicatedHardwareChain cbor attestationObject = true ↔
      CarriesChain cbor attestationObject := by
  constructor
  · intro h
    unfold attestationObjectHasDedicatedHardwareChain at h
    split at h
    · cases h
    rename_i value hread
    split at h
    · cases h
    rename_i entries hentries
    obtain rfl := asMap_eq_some_iff.mp hentries
    split at h
    · cases h
    rename_i hformat
    split at h
    · cases h
    rename_i attStmt hattStmt
    split at h
    · cases h
    rename_i certs hcerts
    obtain ⟨stmt, hstmt, hmap⟩ := Option.bind_eq_some_iff.mp hattStmt
    obtain rfl := asMap_eq_some_iff.mp hmap
    obtain ⟨x5c, hx5c, harray⟩ := Option.bind_eq_some_iff.mp hcerts
    obtain rfl := asArray_eq_some_iff.mp harray
    obtain ⟨certificates, rfl, hne, hnonempty⟩ := (certificates_iff certs).mp h
    refine ⟨entries, attStmt, certificates, hread, fun hfirst => hformat ?_,
      (getValueByInt_eq_some_iff ..).mp hstmt, (getValueByText_eq_some_iff ..).mp hx5c,
      hne, hnonempty⟩
    rw [(getValueByInt_eq_some_iff ..).mpr hfirst]
    rfl
  · rintro ⟨entries, attStmt, certificates, hread, hformat, hstmt, hx5c, hne, hnonempty⟩
    have hother : (getValueByInt entries 1).bind asText ≠ some "android-key" := by
      intro h
      obtain ⟨format, hfirst, htext⟩ := Option.bind_eq_some_iff.mp h
      obtain rfl := asText_eq_some_iff.mp htext
      exact hformat ((getValueByInt_eq_some_iff ..).mp hfirst)
    unfold attestationObjectHasDedicatedHardwareChain
    rw [hread]
    dsimp only [asMap]
    rw [if_neg hother, (getValueByInt_eq_some_iff ..).mpr hstmt]
    dsimp only [Option.bind_some, asMap]
    rw [(getValueByText_eq_some_iff ..).mpr hx5c]
    exact (certificates_iff _).mpr ⟨certificates, rfl, hne, hnonempty⟩

end Wscd.PreviewSign
