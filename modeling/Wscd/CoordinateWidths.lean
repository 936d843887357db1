import Wscd.CryptoLaws
import Wscd.KeyringPlugins

/-!
# How wide a new key's coordinates are

A BLS12-381 key and a key that is derived from an ARKG seed have coordinates of a fixed width.
A plain EC2 key, where the ceremony of a P-256 key ends with one, has the width it comes with.

Results:
1. `draw_width`: the width of the coordinates of a new key.
2. `keyAlgorithm_draw_iff`: when a new key is taken for one of the algorithm asked for.
-/

namespace Wscd

open PreviewSign

/-- Coordinates of a sum are field elements of 32 octets, like all that `p256` gives out. -/
def P256.FieldCoordinates (p256 : P256) : Prop :=
  ∀ p q pk, p256.add p q = some pk → pk.x.length = 32 ∧ pk.y.length = 32

theorem Arkg.derivePublicKey_width {kdf : Kdf} {p256 : P256} (hp256 : p256.FieldCoordinates)
    {seed : Arkg.ArkgPublicSeed} {ikm ctx kh : List UInt8} {pk : PublicKey}
    (h : Arkg.derivePublicKey kdf p256 seed ikm ctx = .ok (pk, kh)) :
    pk.x.length = 32 ∧ pk.y.length = 32 := by
  unfold Arkg.derivePublicKey at h
  split at h
  · cases h
  obtain ⟨encapsulated, -, h₁⟩ := exists_of_bind_ok h
  obtain ⟨derived, hblind, h₂⟩ := exists_of_bind_ok h₁
  cases h₂
  unfold Arkg.blBlindPublicKey at hblind
  dsimp only at hblind
  split at hblind
  · cases hblind
    exact hp256 _ _ _ ‹_›
  · cases hblind

namespace PreviewSign

variable {cbor : CborCodec} {coseBytes x y : List UInt8}

theorem length_decodeCoseEc2PublicKey (h : decodeCoseEc2PublicKey cbor coseBytes = .ok (x, y)) :
    y.length = x.length := by
  obtain ⟨entries, -, h₁⟩ := exists_of_bind_ok h
  cases hx : Cbor.findBytesByInt entries (-2) with
  | none =>
    rw [hx] at h₁
    cases h₁
  | some x' =>
    cases hy : Cbor.findBytesByInt entries (-3) with
    | none =>
      rw [hx, hy] at h₁
      cases h₁
    | some y' =>
      rw [hx, hy] at h₁
      simp only [ok_bind] at h₁
      split at h₁
      · cases h₁
      split at h₁
      · cases h₁
      · rename_i hlength
        cases h₁
        exact (not_not.mp hlength).symm

theorem length_bls12381G1Coordinate {entries : List (Cbor × Cbor)} {label : Int} {name : String}
    (h : bls12381G1Coordinate entries label name = .ok x) : x.length = 48 := by
  unfold bls12381G1Coordinate at h
  split at h
  · cases h
  split at h
  · cases h
  · rename_i hlength
    cases h
    exact not_not.mp hlength

theorem length_decodeCoseBls12381G1PublicKey
    (h : decodeCoseBls12381G1PublicKey cbor coseBytes = .ok (x, y)) :
    x.length = 48 ∧ y.length = 48 := by
  obtain ⟨entries, -, h₁⟩ := exists_of_bind_ok h
  split at h₁
  · cases h₁
  split at h₁
  · cases h₁
  obtain ⟨x', hx, h₂⟩ := exists_of_bind_ok h₁
  obtain ⟨y', hy, h₃⟩ := exists_of_bind_ok h₂
  cases h₃
  exact ⟨length_bls12381G1Coordinate hx, length_bls12381G1Coordinate hy⟩

end PreviewSign

namespace Fido2SignPlugin

open Fido2

variable (crypto : Fido2Crypto)

/-- The width of the plain EC2 key a ceremony ended with, if it ended with one. -/
def plainWidth (d : Fido2.Draw) : Option Nat :=
  match d.ceremony with
  | .error _ => none
  | .ok result =>
    match crypto.cbor.read result.generatedKey.publicKeyCose with
    | .error _ => none
    | .ok coseValue =>
      match Arkg.parseArkgPubSeed crypto.p256 coseValue with
      | .ok _ => none
      | .error _ =>
        match decodeCoseEc2PublicKey crypto.cbor result.generatedKey.publicKeyCose with
        | .error _ => none
        | .ok (x, _) => some x.length

/-- The width of the coordinates of a new key. -/
def coordinateWidth (algorithm : Algorithm) (d : Fido2.Draw) : Nat :=
  match algorithm with
  | .bls12381G1Schnorr => bls12381G1CoordinateLen
  | _ => (plainWidth crypto d).getD p256CoordinateLen

variable {crypto} {algorithm : Algorithm} {d : Fido2.Draw} {result : MakeCredentialResult}
  {stored : StoredFidoKey} {jwk : Json}

theorem p256Coordinates_width (hp256 : crypto.p256.FieldCoordinates)
    (hceremony : d.ceremony = .ok result) {x y : List UInt8}
    {khAndCtx : Option (List UInt8 × List UInt8)}
    (h : p256Coordinates crypto result.generatedKey.publicKeyCose d.ikm = .ok (x, y, khAndCtx)) :
    x.length = coordinateWidth crypto .es256 d ∧ y.length = coordinateWidth crypto .es256 d := by
  unfold p256Coordinates at h
  unfold coordinateWidth plainWidth
  rw [hceremony]
  dsimp only
  cases hread : crypto.cbor.read result.generatedKey.publicKeyCose with
  | error e =>
    rw [hread] at h
    cases h
  | ok coseValue =>
    rw [hread] at h
    dsimp only at h ⊢
    cases hseed : Arkg.parseArkgPubSeed crypto.p256 coseValue with
    | ok seed =>
      rw [hseed] at h
      dsimp only at h ⊢
      split at h
      · cases h
      · cases h
        exact Arkg.derivePublicKey_width hp256 ‹_›
    | error e =>
      rw [hseed] at h
      dsimp only at h ⊢
      cases hplain : decodeCoseEc2PublicKey crypto.cbor result.generatedKey.publicKeyCose with
      | error e =>
        rw [hplain] at h
        cases h
      | ok coordinates =>
        rw [hplain] at h
        cases h
        exact ⟨rfl, length_decodeCoseEc2PublicKey hplain⟩

/-- What a new record is, besides what it copies. -/
theorem generatedRecord_ok {x y : List UInt8} {khAndCtx : Option (List UInt8 × List UInt8)}
    {clientDataHash : List UInt8} {now : Int}
    (h : generatedRecord crypto result x y khAndCtx clientDataHash now = .ok (stored, jwk)) :
    stored.pubX = x ∧ stored.pubY = y ∧ jwk = buildPublicKeyJwk crypto stored := by
  unfold generatedRecord at h
  dsimp only at h
  split at h
  · cases h
  · cases h
    exact ⟨rfl, rfl, rfl⟩

theorem draw_ok (hp256 : crypto.p256.FieldCoordinates)
    (h : draw crypto algorithm d = .ok (stored, jwk)) :
    stored.pubX.length = coordinateWidth crypto algorithm d ∧
    stored.pubY.length = coordinateWidth crypto algorithm d ∧
    jwk = buildPublicKeyJwk crypto stored := by
  cases algorithm with
  | edDSA => cases h
  | bls12381G1Schnorr =>
    unfold draw at h
    cases hceremony : d.ceremony with
    | error e =>
      rw [hceremony] at h
      cases h
    | ok result =>
      rw [hceremony] at h
      dsimp only at h
      split at h
      · cases h
      · rename_i x y hdecode
        obtain ⟨rfl, rfl, hjwk⟩ := generatedRecord_ok h
        obtain ⟨hx, hy⟩ := length_decodeCoseBls12381G1PublicKey hdecode
        exact ⟨hx, hy, hjwk⟩
  | es256 =>
    unfold draw at h
    cases hceremony : d.ceremony with
    | error e =>
      rw [hceremony] at h
      cases h
    | ok result =>
      rw [hceremony] at h
      dsimp only at h
      split at h
      · cases h
      · rename_i x y khAndCtx hcoordinates
        obtain ⟨rfl, rfl, hjwk⟩ := generatedRecord_ok h
        obtain ⟨hx, hy⟩ := p256Coordinates_width hp256 hceremony hcoordinates
        exact ⟨hx, hy, hjwk⟩

/-- A new key is taken for one of the algorithm asked for, unless that is ES256 and the
ceremony ended with a plain key as wide as a BLS12-381 key. -/
theorem keyAlgorithm_draw_iff (hp256 : crypto.p256.FieldCoordinates)
    (h : draw crypto algorithm d = .ok (stored, jwk)) :
    keyAlgorithm stored = algorithm ↔
      (algorithm = .es256 → plainWidth crypto d ≠ some bls12381G1CoordinateLen) := by
  have hwidth := (draw_ok hp256 h).1
  unfold keyAlgorithm
  rw [hwidth]
  cases algorithm with
  | edDSA => cases h
  | bls12381G1Schnorr => exact iff_of_true (if_pos rfl) nofun
  | es256 =>
    unfold coordinateWidth
    cases plainWidth crypto d with
    | none => exact iff_of_true (if_neg (by decide)) nofun
    | some width =>
      by_cases hwide : width = bls12381G1CoordinateLen <;> simp [hwide]

/-- What a successful key generation returns, and what it stores. -/
theorem generateKey_ok {p : Fido2SignPlugin} {made : GeneratedKey}
    (h : (p.generateKey crypto algorithm d).1 = .ok made) :
    ∃ key, draw crypto algorithm d = .ok (key, made.publicKeyJwk) ∧ made.kid = ⟨key.kid⟩ ∧
      (p.generateKey crypto algorithm d).2 = { p with keys := p.keys.insert key.kid key } := by
  unfold generateKey at h ⊢
  cases hdraw : draw crypto algorithm d with
  | error e =>
    rw [hdraw] at h
    cases h
  | ok drawn =>
    rw [hdraw] at h
    cases h
    exact ⟨drawn.1, rfl, rfl, rfl⟩

/-- The key generation an operation starts. -/
def keyGeneration : LifecycleOp Fido2.Draw → Option (Algorithm × Fido2.Draw)
  | .generateKey algorithm d => some (algorithm, d)
  | .registerLifecycle request d _ =>
    if request.factorKind = .rawSign then some (.es256, d) else none
  | .rotateLifecycle _ d _ => some (.es256, d)
  | _ => none

theorem generated_ok {op : LifecycleOp Fido2.Draw} (h : generated crypto op = .ok stored) :
    ∃ algorithm d jwk, keyGeneration op = some (algorithm, d) ∧
      draw crypto algorithm d = .ok (stored, jwk) := by
  have hdrawn {algorithm : Algorithm} {d : Fido2.Draw}
      (h : (draw crypto algorithm d).map Prod.fst = .ok stored) :
      ∃ jwk, draw crypto algorithm d = .ok (stored, jwk) := by
    cases hdraw : draw crypto algorithm d with
    | error e =>
      rw [hdraw] at h
      cases h
    | ok made =>
      rw [hdraw] at h
      cases h
      exact ⟨made.2, rfl⟩
  cases op with
  | generateKey algorithm d =>
    obtain ⟨jwk, hjwk⟩ := hdrawn h
    exact ⟨algorithm, d, jwk, rfl, hjwk⟩
  | registerLifecycle request d now =>
    unfold generated at h
    dsimp only at h
    split at h
    · cases h
    · rename_i hkind
      obtain ⟨jwk, hjwk⟩ := hdrawn h
      exact ⟨.es256, d, jwk, if_pos (not_not.mp hkind), hjwk⟩
  | rotateLifecycle request d now =>
    obtain ⟨jwk, hjwk⟩ := hdrawn h
    exact ⟨.es256, d, jwk, rfl, hjwk⟩
  | deleteKey kid => cases h
  | activateLifecycle request now => cases h
  | destroyLifecycle request now => cases h

end Fido2SignPlugin

theorem scalarPoints_fieldCoordinates : scalarPoints.FieldCoordinates := by
  intro p q pk h
  rw [scalarPoints_add] at h
  split at h
  · cases h
  · obtain rfl := Option.some.inj h
    exact length_scalarPoint _

/-! ## Plain keys with zeros in front -/

namespace PaddedKeys

open SoftkeyHost TwoKeys

/-- The base point with `n` zero octets in front of each coordinate. -/
def padded (n : Nat) : List UInt8 × List UInt8 :=
  (List.replicate n 0 ++ basePoint.1, List.replicate n 0 ++ basePoint.2)

/-- The real hash, encodings and CBOR, over the scalars for points. -/
def crypto : Fido2Crypto where
  sha256 := Lib.sha256
  encode := base64url
  cbor := cborWire
  kdf := sha256Kdf
  p256 := scalarPoints

/-- A ceremony that ends with the plain EC2 key of these coordinates. -/
def drawOf (n : Nat) : Fido2.Draw where
  ceremony := .ok ⟨[1], ⟨[2], cborWire.intoWriter (coseValue (padded n)), -65539, []⟩⟩
  clientDataHash := [3]
  ikm := [4]
  now := 0

def kidPadded : KeyId := ⟨"kCrRU9NXbRl2DAylWRMr6dU3jahEcxiZQWzCi8CbQTw"⟩

def kidWide : KeyId := ⟨"R0tk9T0iPT5CsyIYXMPTJgDeIQ6fW81h0V1V3VUDiRM"⟩

/-- A state of one plain key and no contexts, as `serde_json` writes it. -/
def oneKeyBlob (key : Fido2.StoredFidoKey) : List UInt8 :=
  let octets (bytes : List UInt8) : String :=
    "[" ++ ",".intercalate (bytes.map fun b => toString b.toNat) ++ "]"
  ("\x7b\"keys\":[\x7b\"kid\":\"" ++ key.kid ++
    "\",\"credential_id\":" ++ octets key.credentialId ++
    ",\"key_handle\":" ++ octets key.keyHandle ++
    ",\"pub_x\":" ++ octets key.pubX ++ ",\"pub_y\":" ++ octets key.pubY ++
    ",\"algorithm\":" ++ toString key.algorithm ++
    ",\"attestation_object\":" ++ octets key.attestationObject ++
    ",\"has_dedicated_hardware_chain\":" ++ toString key.hasDedicatedHardwareChain ++
    ",\"client_data_hash\":" ++ octets key.clientDataHash ++
    ",\"arkg_kh_and_ctx\":null,\"created_at\":" ++ toString key.createdAt ++
    "\x7d],\"lifecycle\":\x7b\x7d\x7d").toUTF8.data.toList

theorem plainWidth_base : Fido2SignPlugin.plainWidth crypto (drawOf 0) = some 32 := by rfl

theorem draw_base : (Fido2SignPlugin.draw crypto .es256 (drawOf 0)).map Prod.fst =
    .ok (recordOf (padded 0) kidOne) := by decide +kernel

theorem draw_padded : (Fido2SignPlugin.draw crypto .es256 (drawOf 1)).map Prod.fst =
    .ok (recordOf (padded 1) kidPadded) := by decide +kernel

theorem draw_wide : (Fido2SignPlugin.draw crypto .es256 (drawOf 16)).map Prod.fst =
    .ok (recordOf (padded 16) kidWide) := by decide +kernel

/-- The first key of a plugin, once its record is known. -/
theorem generateKey_drawOf {n : Nat} {kid : KeyId}
    (h : (Fido2SignPlugin.draw crypto .es256 (drawOf n)).map Prod.fst =
      .ok (recordOf (padded n) kid)) :
    Fido2SignPlugin.new.generateKey crypto .es256 (drawOf n) =
      (.ok ⟨kid, Fido2SignPlugin.buildPublicKeyJwk crypto (recordOf (padded n) kid)⟩,
        ⟨Finmap.insert kid.asStr (recordOf (padded n) kid) ∅, ∅⟩) := by
  cases hdraw : Fido2SignPlugin.draw crypto .es256 (drawOf n) with
  | error e =>
    rw [hdraw] at h
    cases h
  | ok made =>
    obtain ⟨stored, jwk⟩ := made
    rw [hdraw] at h
    obtain rfl := Except.ok.inj h
    obtain ⟨-, -, rfl⟩ := Fido2SignPlugin.draw_ok scalarPoints_fieldCoordinates hdraw
    rw [Fido2SignPlugin.generateKey, hdraw]
    rfl

end PaddedKeys

end Wscd
