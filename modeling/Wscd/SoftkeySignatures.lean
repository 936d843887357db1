import Wscd.Lib.RemoteKeys
import Wscd.RecordOrigins

/-!
# Softkey signatures verify

A relying party knows a key by its public JWK and verifies with nothing else. `JwkVerifier` is
such a party: it goes by the curve in the JWK, reads the coordinates and checks the signature.

Results:
1. `signs_of_draw`: what a generated record exports and signs.
2. `softkey_signatures_verify`: every key a plugin holds signs, and its signatures verify under
   the JWK it is exported with, whose thumbprint is its kid.
-/

namespace Wscd

open Lib

/-! ## Verifying under a JWK -/

/-- How signatures of each curve are verified, from decoded coordinates. -/
structure JwkVerifier where
  decode : String → Except String (List UInt8)
  p256 : List UInt8 × List UInt8 → List UInt8 → List UInt8 → Bool
  ed25519 : List UInt8 → List UInt8 → List UInt8 → Bool
  bls12381G1 : List UInt8 × List UInt8 → List UInt8 → List UInt8 → Bool

namespace JwkVerifier

variable (verifier : JwkVerifier)

/-- A coordinate of a JWK. -/
def coordinate (jwk : Json) (name : String) : Option (List UInt8) :=
  ((jwk.get name).bind Json.asStr).bind fun text => (verifier.decode text).toOption

/-- Whether the signature of the message verifies under the JWK. -/
def accepts (jwk : Json) (message signature : List UInt8) : Bool :=
  match (jwk.get "crv").bind Json.asStr, verifier.coordinate jwk "x",
    verifier.coordinate jwk "y" with
  | some "P-256", some x, some y => verifier.p256 (x, y) message signature
  | some "BLS12381G1", some x, some y => verifier.bls12381G1 (x, y) message signature
  | some "Ed25519", some x, _ => verifier.ed25519 x message signature
  | _, _, _ => false

variable {verifier}

theorem coordinate_of_encoded {jwk : Json} {name : String} {encode : List UInt8 → String}
    (hdecode : ∀ octets, verifier.decode (encode octets) = .ok octets) (octets : List UInt8)
    (h : jwk.get name = some (.string (encode octets))) :
    verifier.coordinate jwk name = some octets := by
  have htext : (Option.some (Json.string (encode octets))).bind Json.asStr =
      some (encode octets) := rfl
  rw [coordinate, h, htext, Option.bind_some, hdecode]
  rfl

end JwkVerifier

namespace SoftkeyPlugin

open Softkey

/-! ## Generated records -/

/-- The two schemes the plugin signs with. -/
def ecdsa (crypto : SoftkeyCrypto) (verifier : JwkVerifier) :
    SignatureScheme (List UInt8) (List UInt8 × List UInt8) (List UInt8) (List UInt8) where
  pair secret point := crypto.p256Point secret = (some point.1, some point.2)
  sign := crypto.p256Sign
  verify := verifier.p256

def eddsa (crypto : SoftkeyCrypto) (verifier : JwkVerifier) :
    SignatureScheme (List UInt8) (List UInt8) (List UInt8) (List UInt8) where
  pair secret x := crypto.ed25519Public secret = x
  sign := crypto.ed25519Sign
  verify := verifier.ed25519

/-- The third-party code as a signature depends on it: base64 decodes what it encoded, and the
schemes are correct. -/
structure SignsWith (crypto : SoftkeyCrypto) (verifier : JwkVerifier) : Prop where
  decode_encode : ∀ octets, crypto.decode (crypto.encode octets) = .ok octets
  verifier_decode : verifier.decode = crypto.decode
  ecdsa_correct : (ecdsa crypto verifier).Correct
  eddsa_correct : (eddsa crypto verifier).Correct

/-- A secret as the random number generator gives it out: one that can be loaded again. -/
def ValidSecret (crypto : SoftkeyCrypto) (algorithm : Algorithm) (secret : List UInt8) : Prop :=
  match algorithm with
  | .es256 => crypto.p256FromSlice secret = .ok secret
  | .edDSA => secret.length = 32
  | .bls12381G1Schnorr => True

/-- The key generation of an operation. -/
def keyGeneration : LifecycleOp Draw → Option (Algorithm × Draw)
  | .generateKey algorithm d => some (algorithm, d)
  | .registerLifecycle _ d _ | .rotateLifecycle _ d _ => some (.es256, d)
  | _ => none

section Records

variable {crypto : SoftkeyCrypto} {verifier : JwkVerifier} {algorithm : Algorithm} {d : Draw}
  {stored : StoredKey} {jwk : Json}

theorem generated_ok {op : LifecycleOp Draw} (h : generated crypto op = .ok stored) :
    ∃ algorithm d jwk, keyGeneration op = some (algorithm, d) ∧
      draw crypto algorithm d = .ok (stored, jwk) := by
  have hdrawn {algorithm : Algorithm} {d : Draw}
      (h : (draw crypto algorithm d).map Prod.fst = .ok stored) :
      ∃ jwk, draw crypto algorithm d = .ok (stored, jwk) := by
    cases hdraw : draw crypto algorithm d with
    | error e =>
      rw [hdraw] at h
      cases h
    | ok made =>
      rw [hdraw] at h
      cases h
      exact ⟨made.2, rfl⟩
  cases op with
  | generateKey algorithm d =>
    obtain ⟨jwk, hjwk⟩ := hdrawn h
    exact ⟨algorithm, d, jwk, rfl, hjwk⟩
  | registerLifecycle request d now =>
    obtain ⟨jwk, hjwk⟩ := hdrawn h
    exact ⟨.es256, d, jwk, rfl, hjwk⟩
  | rotateLifecycle request d now =>
    obtain ⟨jwk, hjwk⟩ := hdrawn h
    exact ⟨.es256, d, jwk, rfl, hjwk⟩
  | deleteKey kid => cases h
  | activateLifecycle request now => cases h
  | destroyLifecycle request now => cases h

theorem draw_ok (h : draw crypto algorithm d = .ok (stored, jwk)) :
    newKey crypto algorithm d.secret = .ok (stored.d, jwk) ∧
      jwkThumbprint crypto.toDigest jwk = .ok stored.kid ∧
      stored.algorithm = algorithmName algorithm := by
  unfold draw at h
  split at h
  · cases h
  split at h
  · cases h
  cases h
  exact ⟨‹_›, ‹_›, rfl⟩

/-- What a public JWK of a P-256 secret is. -/
theorem publicKeyJwkP256_ok {secret : List UInt8}
    (h : publicKeyJwkP256 crypto secret = .ok jwk) :
    ∃ x y, crypto.p256Point secret = (some x, some y) ∧
      jwk = .object [("kty", .string "EC"), ("crv", .string "P-256"),
        ("x", .string (crypto.encode x)), ("y", .string (crypto.encode y))] := by
  unfold publicKeyJwkP256 at h
  split at h
  · rename_i x y hpoint
    cases h
    exact ⟨x, y, hpoint, rfl⟩
  · cases h
  · cases h

section Stored

variable {p : SoftkeyPlugin} {kid : KeyId} (hsigns : SignsWith crypto verifier)

include hsigns

theorem loadP256SigningKey_encoded {secret : List UInt8}
    (hsecret : crypto.p256FromSlice secret = .ok secret) (hd : stored.d = crypto.encode secret) :
    loadP256SigningKey crypto stored = .ok secret := by
  unfold loadP256SigningKey
  rw [hd, hsigns.decode_encode]
  dsimp only
  rw [hsecret]

theorem loadEd25519SigningKey_encoded {secret : List UInt8} (hsecret : secret.length = 32)
    (hd : stored.d = crypto.encode secret) :
    loadEd25519SigningKey crypto stored = .ok secret := by
  unfold loadEd25519SigningKey
  rw [hd, hsigns.decode_encode]
  exact if_pos hsecret

theorem accepts_p256 {secret x y : List UInt8} (message : List UInt8)
    (hpoint : crypto.p256Point secret = (some x, some y)) :
    verifier.accepts (.object [("kty", .string "EC"), ("crv", .string "P-256"),
      ("x", .string (crypto.encode x)), ("y", .string (crypto.encode y))]) message
        (crypto.p256Sign secret message) = true := by
  have hdecode : ∀ octets, verifier.decode (crypto.encode octets) = .ok octets := by
    rw [hsigns.verifier_decode]
    exact hsigns.decode_encode
  unfold JwkVerifier.accepts
  rw [JwkVerifier.coordinate_of_encoded hdecode x rfl,
    JwkVerifier.coordinate_of_encoded hdecode y rfl]
  exact hsigns.ecdsa_correct secret (x, y) message hpoint

theorem accepts_ed25519 (secret message : List UInt8) :
    verifier.accepts (publicKeyJwkEd25519 crypto secret) message
      (crypto.ed25519Sign secret message) = true := by
  have hdecode : ∀ octets, verifier.decode (crypto.encode octets) = .ok octets := by
    rw [hsigns.verifier_decode]
    exact hsigns.decode_encode
  unfold JwkVerifier.accepts publicKeyJwkEd25519
  rw [JwkVerifier.coordinate_of_encoded hdecode (crypto.ed25519Public secret) rfl]
  exact hsigns.eddsa_correct secret _ message rfl

/-- A record exports the JWK it was generated with, and what it signs verifies under that. -/
theorem signs_of_draw (hdraw : draw crypto algorithm d = .ok (stored, jwk))
    (hsecret : ValidSecret crypto algorithm d.secret)
    (hstored : p.keys.lookup kid.asStr = some stored) :
    p.exportPublicKey crypto kid = .ok jwk ∧
      ∀ data, ∃ signature, p.sign crypto kid data = .ok signature ∧
        verifier.accepts jwk data signature.bytes = true := by
  obtain ⟨hnew, -, halgorithm⟩ := draw_ok hdraw
  unfold exportPublicKey sign
  rw [hstored]
  dsimp only
  rw [halgorithm]
  cases algorithm with
  | bls12381G1Schnorr => cases hnew
  | es256 =>
    obtain ⟨hd, hjwk⟩ : stored.d = crypto.encode d.secret ∧
        publicKeyJwkP256 crypto d.secret = .ok jwk := by
      unfold newKey at hnew
      dsimp only at hnew
      split at hnew
      · rename_i jwk' hjwk'
        obtain ⟨hd, rfl⟩ := Prod.mk.inj (Except.ok.inj hnew)
        exact ⟨hd.symm, hjwk'⟩
      · cases hnew
    obtain ⟨x, y, hpoint, rfl⟩ := publicKeyJwkP256_ok hjwk
    have hload := loadP256SigningKey_encoded hsigns hsecret hd
    rw [hload]
    exact ⟨hjwk, fun data => ⟨_, rfl, accepts_p256 hsigns data hpoint⟩⟩
  | edDSA =>
    obtain ⟨hd, rfl⟩ := Prod.mk.inj (Except.ok.inj hnew)
    have hload := loadEd25519SigningKey_encoded hsigns hsecret hd.symm
    rw [hload]
    exact ⟨rfl, fun data => ⟨_, rfl, accepts_ed25519 hsigns d.secret data⟩⟩

end Stored

/-! ## Whole sessions -/

/-- The plugin after a session that starts with a new one. -/
def afterSession (crypto : SoftkeyCrypto) (codec : ContainerCodec)
    (order : HashMap.IterOrder String StoredKey) (ops : List (SessionOp Draw)) : SoftkeyPlugin :=
  (run (Session.step (softkeyBackend crypto codec order)) (Session.start new) ops).plugin

variable {codec : ContainerCodec} {order : HashMap.IterOrder String StoredKey}
  {ops : List (SessionOp Draw)}

theorem origin_afterSession (hcodec : codec.exported.Lawful) {k : String}
    (h : (afterSession crypto codec order ops).keys.lookup k = some stored) :
    stored.kid = k ∧ ∃ op, .call op ∈ ops ∧ generated crypto op = .ok stored :=
  (Session.origins (softkeyBackend_refines crypto codec order hcodec) rfl ops).plugin h

/-- The listing has the key once. -/
theorem filter_listKeys {p : SoftkeyPlugin}
    (hkeyed : ∀ k key, p.keys.lookup k = some key → key.kid = k) (kid : KeyId) :
    (p.listKeys order).filter (fun info => info.kid = kid) =
      (p.keys.lookup kid.asStr).toList.map keyInfo := by
  have hkid (key : StoredKey) : (keyInfo key).kid = kid ↔ key.kid = kid.asStr :=
    ⟨congrArg KeyId.asStr, congrArg KeyId.mk⟩
  rw [← order.filter_values_of_keyed hkeyed, listKeys, List.filter_map]
  simp only [Function.comp_def, hkid]

theorem keyInfo_algorithm (hdraw : draw crypto algorithm d = .ok (stored, jwk)) :
    (keyInfo stored).algorithm = algorithm := by
  obtain ⟨hnew, -, halgorithm⟩ := draw_ok hdraw
  unfold keyInfo
  dsimp only
  rw [halgorithm]
  cases algorithm with
  | bls12381G1Schnorr => cases hnew
  | es256 => rfl
  | edDSA => rfl

/-- After any session, with exports and restores, a kid is either unknown to every method, or it
was returned by a key generation of the session and is listed once, with the algorithm asked for;
the JWK returned then is exported and has the kid for its thumbprint; and every message is
signed, with a signature that verifies under this JWK. -/
theorem softkey_signatures_verify (crypto : SoftkeyCrypto) (verifier : JwkVerifier)
    (hsigns : SignsWith crypto verifier) (codec : ContainerCodec)
    (hcodec : codec.exported.Lawful) (order : HashMap.IterOrder String StoredKey)
    (ops : List (SessionOp Draw))
    (hsecrets : ∀ op algorithm d, .call op ∈ ops → keyGeneration op = some (algorithm, d) →
      ValidSecret crypto algorithm d.secret) (kid : KeyId) :
    let p := afterSession crypto codec order ops
    ((∀ info ∈ p.listKeys order, info.kid ≠ kid) ∧
        p.exportPublicKey crypto kid = .error (.keyNotFound kid.asStr) ∧
        ∀ data, p.sign crypto kid data = .error (.keyNotFound kid.asStr)) ∨
      ∃ op algorithm d jwk, .call op ∈ ops ∧ keyGeneration op = some (algorithm, d) ∧
        (∀ q : SoftkeyPlugin, (q.generateKey crypto algorithm d).1 = .ok ⟨kid, jwk⟩) ∧
        (∃ info, info.algorithm = algorithm ∧
          (p.listKeys order).filter (fun info => info.kid = kid) = [info]) ∧
        p.exportPublicKey crypto kid = .ok jwk ∧
        jwkThumbprint crypto.toDigest jwk = .ok kid.asStr ∧
        ∀ data, ∃ signature, p.sign crypto kid data = .ok signature ∧
          verifier.accepts jwk data signature.bytes = true := by
  intro p
  have hlisted : (p.listKeys order).filter (fun info => info.kid = kid) = _ :=
    filter_listKeys (fun k key hkey => (origin_afterSession hcodec hkey).1) kid
  cases hstored : p.keys.lookup kid.asStr with
  | none =>
    refine .inl ⟨fun info hinfo hkid => ?_, ?_, fun data => ?_⟩
    · rw [hstored] at hlisted
      have hmem : info ∈ (p.listKeys order).filter fun info => info.kid = kid :=
        List.mem_filter.mpr ⟨hinfo, decide_eq_true hkid⟩
      rw [hlisted] at hmem
      exact absurd hmem List.not_mem_nil
    · unfold exportPublicKey
      rw [hstored]
    · unfold sign
      rw [hstored]
  | some stored =>
    obtain ⟨hkid, op, hop, hgenerated⟩ := origin_afterSession hcodec hstored
    obtain ⟨algorithm, d, jwk, hgeneration, hdraw⟩ := generated_ok hgenerated
    obtain ⟨hexport, hsign⟩ := signs_of_draw hsigns hdraw
      (hsecrets op algorithm d hop hgeneration) hstored
    refine .inr ⟨op, algorithm, d, jwk, hop, hgeneration, fun q => ?_, ?_, hexport, ?_, hsign⟩
    · unfold generateKey
      rw [hdraw]
      exact congrArg (fun k => Except.ok (GeneratedKey.mk ⟨k⟩ jwk)) hkid
    · refine ⟨keyInfo stored, keyInfo_algorithm hdraw, ?_⟩
      rw [hlisted, hstored]
      rfl
    · rw [(draw_ok hdraw).2.1, hkid]

end Records

/-! ## The key of the secret `1` -/

namespace SignatureDemo

open SoftkeyHost

/-- What a message is signed with: RFC 6979 for the octets `1, 2`, and the message elsewhere. -/
def signatureOf (message : List UInt8) : List UInt8 :=
  if message = [1, 2] then signatureOne else message

/-- The hash and the encoding are the real ones, and the curve is given for the secret `1`. -/
def crypto : SoftkeyCrypto :=
  { secretOneHost.crypto with
    p256Sign := fun _ message => signatureOf message
    ed25519Sign := fun _ message => message }

/-- It knows the base point and its signatures. -/
def verifier : JwkVerifier where
  decode := base64urlDecode
  p256 point message signature := decide (point = basePoint ∧ signature = signatureOf message)
  ed25519 _ message signature := decide (signature = message)
  bls12381G1 _ _ _ := false

theorem signsWith : SignsWith crypto verifier where
  decode_encode := base64urlDecode_base64url
  verifier_decode := rfl
  ecdsa_correct := by
    rintro secret ⟨x, y⟩ message hpair
    have hpoint : (if secret = secretOne then (some basePoint.1, some basePoint.2)
        else (none, none)) = (some x, some y) := hpair
    split at hpoint
    · cases hpoint
      exact decide_eq_true ⟨rfl, rfl⟩
    · cases hpoint
  eddsa_correct _ _ _ _ := decide_eq_true rfl

end SignatureDemo

theorem softkey_signatures_verify_generated :
    ∃ jwk,
      (afterSession SignatureDemo.crypto emptyContainerCodec .sorted
        [.call (.generateKey .es256 drawOne)]).sign SignatureDemo.crypto SoftkeyHost.kidOne
          [1, 2] = .ok ⟨SoftkeyHost.signatureOne⟩ ∧
      SignatureDemo.verifier.accepts jwk [1, 2] SoftkeyHost.signatureOne = true := by
  have hsecrets : ∀ op algorithm d,
      SessionOp.call op ∈ [.call (.generateKey .es256 drawOne)] →
      keyGeneration op = some (algorithm, d) →
      ValidSecret SignatureDemo.crypto algorithm d.secret := by
    intro op algorithm d hop hgeneration
    obtain rfl : op = .generateKey .es256 drawOne := by simpa using hop
    cases hgeneration
    rfl
  have hsigned : (afterSession SignatureDemo.crypto emptyContainerCodec .sorted
      [.call (.generateKey .es256 drawOne)]).sign SignatureDemo.crypto SoftkeyHost.kidOne
        [1, 2] = .ok ⟨SoftkeyHost.signatureOne⟩ := by decide +kernel
  rcases softkey_signatures_verify SignatureDemo.crypto SignatureDemo.verifier
    SignatureDemo.signsWith emptyContainerCodec (onlyCodec_lawful _ _) .sorted
    [.call (.generateKey .es256 drawOne)] hsecrets SoftkeyHost.kidOne with
    ⟨-, -, hunsigned⟩ | ⟨op, algorithm, d, jwk, -, -, -, -, -, -, hsign⟩
  · cases hsigned.symm.trans (hunsigned [1, 2])
  · obtain ⟨signature, hsignature, haccepts⟩ := hsign [1, 2]
    obtain rfl := Except.ok.inj (hsignature.symm.trans hsigned)
    exact ⟨jwk, hsigned, haccepts⟩

end SoftkeyPlugin

end Wscd
