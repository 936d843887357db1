import Wscd.ArkgPrivate
import Wscd.InferredAlgorithm
import Wscd.PreviewSign.Requests
import Wscd.SoftkeySignatures

/-!
# Signatures of an authenticator verify

The plugin holds no secrets. It exports a public key that it may have derived itself, and passes
on what an authenticator signs. `Signer` is an authenticator: its secrets by key handle, and what
it signs for the request it receives. A relying party that verifies under the exported JWK accepts
the signature, after any session of the plugin.

Results:
1. `backs_of_draw`: the authenticator has the secret half of what a ceremony with it records.
2. `accepts_of_backs`: what it signs for such a record verifies under the record's JWK.
3. `fido2_signatures_verify`: so does every signature, after any session.
-/

namespace Wscd

open Lib PreviewSign

/-- The plugin's third-party code where it generates keys, from that where it signs. -/
def Fido2SignCrypto.forKeys (crypto : Fido2SignCrypto) (encode : List UInt8 → String) :
    Fido2Crypto where
  sha256 := crypto.kdf.sha256
  encode := encode
  cbor := crypto.cbor
  kdf := crypto.kdf
  p256 := crypto.p256

namespace Fido2SignPlugin

open Fido2

/-! ## The authenticator -/

/-- The secret behind a generated key: that of an ARKG seed, a P-256 or a BLS12-381 key. -/
inductive KeySecret (B : Type) where
  | seed (skBl skKem : Arkg.Scalar)
  | p256 (sk : Arkg.Scalar)
  | bls12381G1 (sk : B)

/-- An authenticator's secrets, and the schemes it signs with. -/
structure Signer (B : Type) where
  secretOf : List UInt8 → Option (KeySecret B)
  /-- On digests. -/
  ecdsa : SignatureScheme Arkg.Scalar PublicKey (List UInt8) (List UInt8)
  schnorr : SignatureScheme B (List UInt8 × List UInt8) (List UInt8) (List UInt8)
  toDer : List UInt8 → List UInt8

namespace Signer

variable {B : Type} (crypto : Fido2SignCrypto) (signer : Signer B)

/-- A seed signs with the key that the arguments derive, another secret with itself. -/
def answer (sign : SignInput) : Option (List UInt8) :=
  match signer.secretOf sign.keyHandle, sign.additionalArgs with
  | some (.seed skBl skKem), some args => do
    let (_, kh, ctx) ← Arkg.decodeArkgSignArgs crypto.cbor args
    let sk ← Arkg.derivePrivateKey crypto.kdf crypto.p256 skBl skKem kh ctx
    return signer.toDer (signer.ecdsa.sign sk sign.tbs)
  | some (.p256 sk), none => some (signer.toDer (signer.ecdsa.sign sk sign.tbs))
  | some (.bls12381G1 sk), none => some (signer.schnorr.sign sk sign.tbs)
  | _, _ => none

/-- In a run with log `l`, whatever assertion came back is signed as the request asks. -/
def Answers (l : List HostEvent) : Prop :=
  ∀ command response req r, .sentCommand command (.ok response) ∈ l →
    parseGetAssertionRequest crypto.cbor command = .ok req →
    parseGetAssertionResponse crypto.cbor response = .ok r →
    signer.answer crypto req.sign = some r.signature

/-- The coordinates in a COSE key that is no seed, with whichever decoder. -/
structure ReadsAs (publicKeyCose x y : List UInt8) : Prop where
  not_seed : ∀ value seed, crypto.cbor.read publicKeyCose = .ok value →
    Arkg.parseArkgPubSeed crypto.p256 value ≠ .ok seed
  ec2 : ∀ c, decodeCoseEc2PublicKey crypto.cbor publicKeyCose = .ok c → c = (x, y)
  bls12381G1 : ∀ c, decodeCoseBls12381G1PublicKey crypto.cbor publicKeyCose = .ok c → c = (x, y)

/-- The public half of a secret, as the authenticator gives it out. -/
def Publishes (publicKeyCose : List UInt8) : KeySecret B → Prop
  | .seed skBl skKem =>
    ∃ value seed, crypto.cbor.read publicKeyCose = .ok value ∧
      Arkg.parseArkgPubSeed crypto.p256 value = .ok seed ∧
      crypto.p256.mul crypto.p256.generator skBl = some seed.pkBl ∧
      crypto.p256.mul crypto.p256.generator skKem = some seed.pkKem
  | .p256 sk =>
    ∃ pk, crypto.p256.mul crypto.p256.generator sk = some pk ∧
      ReadsAs crypto publicKeyCose pk.x pk.y
  | .bls12381G1 sk =>
    ∃ x y, signer.schnorr.pair sk (x, y) ∧ x.length = bls12381G1CoordinateLen ∧
      ReadsAs crypto publicKeyCose x y

/-- A ceremony's key is one of the authenticator. -/
def Made (d : Fido2.Draw) : Prop :=
  ∀ result, d.ceremony = .ok result → ∃ secret,
    signer.secretOf result.generatedKey.keyHandle = some secret ∧
    signer.Publishes crypto result.generatedKey.publicKeyCose secret

/-- The authenticator has the secret half of the record, and signs with it. -/
def Backs (key : StoredFidoKey) : Prop :=
  match keyAlgorithm key with
  | .es256 => ∃ sk, crypto.p256.mul crypto.p256.generator sk = some ⟨key.pubX, key.pubY⟩ ∧
      ∀ tbs, signer.answer crypto (signInput crypto key tbs) =
        some (signer.toDer (signer.ecdsa.sign sk tbs))
  | _ => ∃ sk, signer.schnorr.pair sk (key.pubX, key.pubY) ∧
      ∀ tbs, signer.answer crypto (signInput crypto key tbs) = some (signer.schnorr.sign sk tbs)

/-- The schemes are correct, a P-256 pair being one of the group, and signatures arrive in the
form they are read in. -/
structure Lawful : Prop where
  pair_iff : ∀ sk pk, signer.ecdsa.pair sk pk ↔ crypto.p256.mul crypto.p256.generator sk = some pk
  ecdsa : signer.ecdsa.Correct
  schnorr : signer.schnorr.Correct
  fromDer_toDer : ∀ raw, crypto.signatureFromDer (signer.toDer raw) = .ok raw
  length_schnorr : ∀ sk tbs, (signer.schnorr.sign sk tbs).length = bls12381SchnorrSignatureLen

/-- The authenticator on a transport that verifies the user: assertions are answered. -/
def transport {W : Type} : Ctap2Transport W where
  ctap2SendCommand command w :=
    (match parseGetAssertionRequest crypto.cbor command with
      | .error e => .error e
      | .ok req =>
        match signer.answer crypto req.sign with
        | none => .error (.callback "no key to sign with")
        | some signature => .ok (encodeGetAssertionResponse crypto.cbor ⟨signature, true, none⟩),
      w)
  performsUserVerification _ := true

/-- A relying party that verifies with the authenticator's schemes, hashing for P-256. -/
def verifier (decode : String → Except String (List UInt8)) : JwkVerifier where
  decode := decode
  p256 point := (signer.ecdsa.prehash crypto.kdf.sha256).verify ⟨point.1, point.2⟩
  ed25519 _ _ _ := false
  bls12381G1 := signer.schnorr.verify

end Signer

/-! ## Records and their secrets -/

section Backed

variable {B : Type} {crypto : Fido2SignCrypto} {signer : Signer B} {encode : List UInt8 → String}

/-- Coordinates of 32 octets are taken for a P-256 key, those of 48 for a BLS12-381 key. -/
theorem keyAlgorithm_eq_es256 {key : StoredFidoKey} (h : key.pubX.length = 32) :
    keyAlgorithm key = .es256 := by
  unfold keyAlgorithm
  rw [h]
  rfl

theorem keyAlgorithm_eq_bls12381G1 {key : StoredFidoKey}
    (h : key.pubX.length = bls12381G1CoordinateLen) : keyAlgorithm key = .bls12381G1Schnorr :=
  if_pos h

theorem backs_of_p256 {key : StoredFidoKey} {sk : Arkg.Scalar}
    (hp256 : crypto.p256.Lawful)
    (hpair : crypto.p256.mul crypto.p256.generator sk = some ⟨key.pubX, key.pubY⟩)
    (hanswer : ∀ tbs, signer.answer crypto (signInput crypto key tbs) =
      some (signer.toDer (signer.ecdsa.sign sk tbs))) : signer.Backs crypto key := by
  unfold Signer.Backs
  rw [keyAlgorithm_eq_es256 (hp256.length_coordinates _ _ _ hpair).1]
  exact ⟨sk, hpair, hanswer⟩

theorem backs_of_bls12381G1 {key : StoredFidoKey} {sk : B}
    (hwidth : key.pubX.length = bls12381G1CoordinateLen)
    (hpair : signer.schnorr.pair sk (key.pubX, key.pubY))
    (hanswer : ∀ tbs, signer.answer crypto (signInput crypto key tbs) =
      some (signer.schnorr.sign sk tbs)) : signer.Backs crypto key := by
  unfold Signer.Backs
  rw [keyAlgorithm_eq_bls12381G1 hwidth]
  exact ⟨sk, hpair, hanswer⟩

/-- What a plain key's record is backed by. -/
theorem backs_of_plain {key : StoredFidoKey} {secret : KeySecret B} {cose : List UInt8}
    (hp256 : crypto.p256.Lawful) (hsecret : signer.secretOf key.keyHandle = some secret)
    (hpublishes : signer.Publishes crypto cose secret)
    (hseed : ∀ value seed, crypto.cbor.read cose = .ok value →
      Arkg.parseArkgPubSeed crypto.p256 value ≠ .ok seed)
    (hcoordinates : decodeCoseEc2PublicKey crypto.cbor cose = .ok (key.pubX, key.pubY) ∨
      decodeCoseBls12381G1PublicKey crypto.cbor cose = .ok (key.pubX, key.pubY))
    (harkg : key.arkgKhAndCtx = none) : signer.Backs crypto key := by
  have hreads {x y : List UInt8} (h : Signer.ReadsAs crypto cose x y) :
      (key.pubX, key.pubY) = (x, y) := by
    rcases hcoordinates with hec2 | hbls
    · exact h.ec2 _ hec2
    · exact h.bls12381G1 _ hbls
  have hinput (tbs : List UInt8) : signInput crypto key tbs = ⟨key.keyHandle, tbs, none⟩ := by
    unfold signInput
    rw [harkg]
    rfl
  cases secret with
  | seed skBl skKem =>
    obtain ⟨value, seed, hread, hparse, -⟩ := hpublishes
    exact absurd hparse (hseed value seed hread)
  | p256 sk =>
    obtain ⟨pk, hpair, hcose⟩ := hpublishes
    obtain ⟨hx, hy⟩ := Prod.mk.inj (hreads hcose)
    refine backs_of_p256 hp256 (hpair.trans (by rw [hx, hy])) fun tbs => ?_
    rw [hinput]
    unfold Signer.answer
    dsimp only
    rw [hsecret]
  | bls12381G1 sk =>
    obtain ⟨x, y, hpair, hwidth, hcose⟩ := hpublishes
    obtain ⟨hx, hy⟩ := Prod.mk.inj (hreads hcose)
    refine backs_of_bls12381G1 (hx ▸ hwidth) (by rwa [hx, hy]) fun tbs => ?_
    rw [hinput]
    unfold Signer.answer
    dsimp only
    rw [hsecret]

/-- What a derived key's record is backed by: the seed, with the handle and context kept. -/
theorem backs_of_derived {key : StoredFidoKey} {secret : KeySecret B} {cose ikm kh : List UInt8}
    {value : Cbor} {seed : Arkg.ArkgPublicSeed} {pk : PublicKey}
    (hcrypto : crypto.toCtapCrypto.Lawful) (hsecret : signer.secretOf key.keyHandle = some secret)
    (hpublishes : signer.Publishes crypto cose secret)
    (hread : crypto.cbor.read cose = .ok value)
    (hparse : Arkg.parseArkgPubSeed crypto.p256 value = .ok seed)
    (hderive : Arkg.derivePublicKey crypto.kdf crypto.p256 seed ikm arkgDeriveCtx = .ok (pk, kh))
    (hkey : key.pubX = pk.x ∧ key.pubY = pk.y)
    (harkg : key.arkgKhAndCtx = some (kh, arkgDeriveCtx)) : signer.Backs crypto key := by
  cases secret with
  | seed skBl skKem =>
    obtain ⟨value', seed', hread', hparse', hbl, hkem⟩ := hpublishes
    cases hread.symm.trans hread'
    cases hparse.symm.trans hparse'
    obtain ⟨sk, hsk, hpair⟩ := Arkg.derivePrivateKey_of_derivePublicKey hcrypto.kdf hcrypto.p256
      hbl hkem hderive
    refine backs_of_p256 hcrypto.p256 (hpair.trans (by rw [hkey.1, hkey.2])) fun tbs => ?_
    unfold Signer.answer signInput
    dsimp only
    rw [hsecret, harkg]
    dsimp only [Option.map_some]
    rw [Arkg.decode_encodeArkgSignArgs hcrypto.cbor (by decide)]
    dsimp only [Option.bind_eq_bind, Option.bind_some]
    rw [hsk]
    rfl
  | p256 sk =>
    obtain ⟨pk', -, hcose⟩ := hpublishes
    exact absurd hparse (hcose.not_seed value seed hread)
  | bls12381G1 sk =>
    obtain ⟨x, y, -, -, hcose⟩ := hpublishes
    exact absurd hparse (hcose.not_seed value seed hread)

/-- A seed is not taken for a BLS12-381 key: its curve label holds a key. -/
theorem parseArkgPubSeed_ne_ok_of_bls12381G1 {cose : List UInt8} {c : List UInt8 × List UInt8}
    (h : decodeCoseBls12381G1PublicKey crypto.cbor cose = .ok c) (value : Cbor)
    (seed : Arkg.ArkgPublicSeed) (hread : crypto.cbor.read cose = .ok value) :
    Arkg.parseArkgPubSeed crypto.p256 value ≠ .ok seed := by
  intro hseed
  obtain ⟨entries, hentries, h₁⟩ := exists_of_bind_ok h
  unfold readCoseKey at hentries
  rw [hread] at hentries
  dsimp only at hentries
  unfold Arkg.parseArkgPubSeed at hseed
  cases hmap : value.asMap with
  | none =>
    rw [hmap] at hseed
    cases hseed
  | some entries' =>
    rw [hmap] at hentries hseed
    cases hentries
    dsimp only at hseed
    split at hseed
    · cases hseed
    split at hseed
    · cases hseed
    split at hseed
    · cases hseed
    · cases hseed
    rename_i pkBl pkKem hpkBl hpkKem
    obtain ⟨point, hpoint, -⟩ := exists_of_bind_ok hseed
    rw [hpkBl] at h₁
    -- what reads as a point is a map, and what reads as a curve an integer
    cases pkBl with
    | integer n => cases hpoint
    | _ => cases h₁

theorem generatedRecord_fields {keys : Fido2Crypto} {result : MakeCredentialResult}
    {x y clientDataHash : List UInt8} {khAndCtx : Option (List UInt8 × List UInt8)} {now : Int}
    {stored : StoredFidoKey} {jwk : Json}
    (h : generatedRecord keys result x y khAndCtx clientDataHash now = .ok (stored, jwk)) :
    stored.pubX = x ∧ stored.pubY = y ∧ stored.keyHandle = result.generatedKey.keyHandle ∧
      stored.arkgKhAndCtx = khAndCtx ∧ jwk = buildPublicKeyJwk keys stored ∧
      jwkThumbprint keys.toDigest jwk = .ok stored.kid := by
  unfold generatedRecord at h
  dsimp only at h
  split at h
  · cases h
  · cases h
    exact ⟨rfl, rfl, rfl, rfl, rfl, ‹_›⟩

theorem draw_jwk {keys : Fido2Crypto} {algorithm : Algorithm} {d : Fido2.Draw}
    {stored : StoredFidoKey} {jwk : Json} (h : draw keys algorithm d = .ok (stored, jwk)) :
    jwk = buildPublicKeyJwk keys stored := by
  unfold draw at h
  cases algorithm with
  | edDSA => cases h
  | bls12381G1Schnorr =>
    dsimp only at h
    split at h
    · cases h
    split at h
    · cases h
    obtain ⟨-, -, -, -, hjwk, -⟩ := generatedRecord_fields h
    exact hjwk
  | es256 =>
    dsimp only at h
    split at h
    · cases h
    split at h
    · cases h
    obtain ⟨-, -, -, -, hjwk, -⟩ := generatedRecord_fields h
    exact hjwk

/-- A new record of a ceremony with the authenticator. -/
theorem backs_of_draw (hcrypto : crypto.toCtapCrypto.Lawful) {algorithm : Algorithm}
    {d : Fido2.Draw} (hmade : signer.Made crypto d) {stored : StoredFidoKey} {jwk : Json}
    (h : draw (crypto.forKeys encode) algorithm d = .ok (stored, jwk)) :
    signer.Backs crypto stored := by
  unfold draw at h
  cases hceremony : d.ceremony with
  | error e =>
    rw [hceremony] at h
    cases algorithm <;> cases h
  | ok result =>
    obtain ⟨secret, hsecret, hpublishes⟩ := hmade result hceremony
    rw [hceremony] at h
    cases algorithm with
    | edDSA => cases h
    | bls12381G1Schnorr =>
      dsimp only at h
      split at h
      · cases h
      · rename_i x y hdecode
        obtain ⟨rfl, rfl, hhandle, harkg, -⟩ := generatedRecord_fields h
        exact backs_of_plain hcrypto.p256 (hhandle ▸ hsecret) hpublishes
          (parseArkgPubSeed_ne_ok_of_bls12381G1 hdecode) (.inr hdecode) harkg
    | es256 =>
      dsimp only at h
      split at h
      · cases h
      · rename_i x y khAndCtx hcoordinates
        obtain ⟨rfl, rfl, hhandle, rfl, -⟩ := generatedRecord_fields h
        rw [← hhandle] at hsecret
        unfold p256Coordinates at hcoordinates
        split at hcoordinates
        · cases hcoordinates
        rename_i value hread
        split at hcoordinates
        · rename_i seed hparse
          split at hcoordinates
          · cases hcoordinates
          · rename_i pk kh hderive
            obtain ⟨hx, hy, harkg⟩ : pk.x = stored.pubX ∧ pk.y = stored.pubY ∧
                some (kh, arkgDeriveCtx) = stored.arkgKhAndCtx := by simpa using hcoordinates
            exact backs_of_derived hcrypto hsecret hpublishes hread hparse hderive
              ⟨hx.symm, hy.symm⟩ harkg.symm
        · rename_i e hparse
          split at hcoordinates
          · cases hcoordinates
          · rename_i x y hec2
            obtain ⟨rfl, rfl, harkg⟩ : x = stored.pubX ∧ y = stored.pubY ∧
                none = stored.arkgKhAndCtx := by simpa using hcoordinates
            refine backs_of_plain hcrypto.p256 hsecret hpublishes ?_ (.inl hec2) harkg.symm
            intro value' seed hread' hseed
            cases hread.symm.trans hread'
            cases hparse.symm.trans hseed

end Backed

/-! ## Signatures -/

section Signatures

variable {B : Type} {crypto : Fido2SignCrypto} {signer : Signer B} {encode : List UInt8 → String}
  {decode : String → Except String (List UInt8)}

/-- What is sent for a backed record comes back as a signature that verifies. -/
theorem accepts_of_backs (hlawful : signer.Lawful crypto)
    (hdecode : ∀ octets, decode (encode octets) = .ok octets) {key : StoredFidoKey}
    (hbacks : signer.Backs crypto key) {data tbs answer signature : List UInt8}
    (htbs : toBeSigned crypto (keyAlgorithm key) data = .ok tbs)
    (hanswer : signer.answer crypto (signInput crypto key tbs) = some answer)
    (hsignature : decodeSignature crypto (keyAlgorithm key) answer = .ok signature) :
    (signer.verifier crypto decode).accepts (buildPublicKeyJwk (crypto.forKeys encode) key) data
      signature = true := by
  have hencoded : ∀ octets, (signer.verifier crypto decode).decode
      ((crypto.forKeys encode).encode octets) = .ok octets := hdecode
  unfold Signer.Backs at hbacks
  unfold JwkVerifier.accepts buildPublicKeyJwk
  rcases keyAlgorithm_cases key with halgorithm | halgorithm
  · rw [halgorithm] at hbacks htbs hsignature ⊢
    obtain ⟨sk, hpair, hsigned⟩ := hbacks
    cases htbs
    have hsent := Option.some.inj ((hsigned _).symm.trans hanswer)
    have hraw := derSignatureToRaw_eq_ok hsignature
    rw [← hsent, hlawful.fromDer_toDer] at hraw
    cases hraw
    dsimp only
    rw [JwkVerifier.coordinate_of_encoded hencoded key.pubX rfl,
      JwkVerifier.coordinate_of_encoded hencoded key.pubY rfl]
    exact hlawful.ecdsa.prehash crypto.kdf.sha256 sk ⟨key.pubX, key.pubY⟩ data
      ((hlawful.pair_iff _ _).mpr hpair)
  · rw [halgorithm] at hbacks htbs hsignature ⊢
    obtain ⟨sk, hpair, hsigned⟩ := hbacks
    obtain ⟨-, rfl, -, rfl⟩ := signsAs_of_ok (by decide) htbs hsignature
    have hsent := Option.some.inj ((hsigned _).symm.trans hanswer)
    dsimp only
    rw [JwkVerifier.coordinate_of_encoded hencoded key.pubX rfl,
      JwkVerifier.coordinate_of_encoded hencoded key.pubY rfl, ← hsent]
    exact hlawful.schnorr sk (key.pubX, key.pubY) tbs hpair

/-- Data of a length the algorithm takes is signed for a backed record, and the answer decoded. -/
theorem signable_of_backs (hlawful : signer.Lawful crypto) {key : StoredFidoKey}
    (hbacks : signer.Backs crypto key) (data : List UInt8)
    (hdata : keyAlgorithm key = .bls12381G1Schnorr → data.length = bls12381KeybindTbsLen) :
    ∃ tbs answer bytes, toBeSigned crypto (keyAlgorithm key) data = .ok tbs ∧
      signer.answer crypto (signInput crypto key tbs) = some answer ∧
      decodeSignature crypto (keyAlgorithm key) answer = .ok bytes := by
  unfold Signer.Backs at hbacks
  rcases keyAlgorithm_cases key with halgorithm | halgorithm
  · rw [halgorithm] at hbacks ⊢
    obtain ⟨sk, -, hsigned⟩ := hbacks
    refine ⟨_, _, signer.ecdsa.sign sk (crypto.kdf.sha256 data), rfl, hsigned _, ?_⟩
    show derSignatureToRaw crypto _ = _
    unfold derSignatureToRaw
    rw [hlawful.fromDer_toDer]
  · have hlength := hdata halgorithm
    rw [halgorithm] at hbacks ⊢
    obtain ⟨sk, -, hsigned⟩ := hbacks
    exact ⟨data, _, _, if_neg (not_not.mpr hlength), hsigned data,
      if_neg (not_not.mpr (hlawful.length_schnorr sk data))⟩

/-- A signature by the authenticator on its own transport. -/
theorem sign_on_transport (hcbor : crypto.cbor.Lawful) {W : Type} (host : Fido2Host W)
    (htransport : host.transport = signer.transport crypto) (auth : AuthCallback W)
    (kid : KeyId) {key : StoredFidoKey} {data tbs answer bytes : List UInt8} {w : W}
    (hkey : (host.plugin (host.progress.onProgress (.started "sign") w)).findKey kid = .ok key)
    (htbs : toBeSigned crypto (keyAlgorithm key) data = .ok tbs)
    (hanswer : signer.answer crypto (signInput crypto key tbs) = some answer)
    (hbytes : decodeSignature crypto (keyAlgorithm key) answer = .ok bytes) :
    ∃ w' l, sign crypto host auth kid data w = (.ok ⟨bytes⟩, w', l) ∧ signer.Answers crypto l := by
  have hparse : parseGetAssertionResponse crypto.cbor
      (encodeGetAssertionResponse crypto.cbor ⟨answer, true, none⟩) = .ok ⟨answer, true, none⟩ :=
    parse_encodeGetAssertionResponse hcbor (by rintro f ⟨⟩)
  have hsent (challenge : List UInt8) (w₁ : W) :
      getAssertion crypto.toCtapCrypto host.transport host.rng auth rawSignRpId challenge
          key.credentialId (signInput crypto key tbs) w₁ =
        (.ok ⟨answer, true, none⟩, w₁,
          [.sentCommand (buildGetAssertionRequest crypto.cbor rawSignRpId challenge
            key.credentialId (signInput crypto key tbs) none)
            (.ok (encodeGetAssertionResponse crypto.cbor ⟨answer, true, none⟩))]) := by
    have hresponse : host.transport.ctap2SendCommand (buildGetAssertionRequest crypto.cbor
        rawSignRpId challenge key.credentialId (signInput crypto key tbs) none) w₁ =
          (.ok (encodeGetAssertionResponse crypto.cbor ⟨answer, true, none⟩), w₁) := by
      rw [htransport]
      show (match parseGetAssertionRequest crypto.cbor _ with
        | .error e => _
        | .ok req => _, w₁) = _
      rw [parse_buildGetAssertionRequest hcbor _ _ _ _ (by simp)]
      dsimp only
      rw [hanswer]
    rw [getAssertion_of_verifying (by rw [htransport]; rfl), hresponse]
    exact congrArg (fun r => (r, w₁, _)) hparse
  obtain ⟨w', l, hinner, hanswers⟩ : ∃ w' l, signInner crypto host auth kid data w =
      (.ok (⟨bytes⟩, true, none), w', l) ∧ signer.Answers crypto l := by
    refine ⟨_, _, Traced.bind_of_ok rfl (Traced.bind_of_ok rfl
      (Traced.bind_of_ok (Traced.lift_ok_iff.mpr ⟨hkey, rfl, rfl⟩) (Traced.bind_of_ok rfl
        (Traced.bind_of_ok rfl (Traced.bind_of_ok (Traced.lift_ok_iff.mpr ⟨htbs, rfl, rfl⟩)
          (Traced.bind_of_ok (hsent _ _) (Traced.bind_of_ok rfl
            (Traced.bind_of_ok (Traced.lift_ok_iff.mpr ⟨hbytes, rfl, rfl⟩) rfl)))))))), ?_⟩
    intro command response req r hmem hreq hr
    obtain ⟨rfl, rfl⟩ : command = _ ∧ response = _ := by simpa using hmem
    rw [parse_buildGetAssertionRequest hcbor _ _ _ _ (by simp)] at hreq
    cases hreq
    cases hparse.symm.trans hr
    exact hanswer
  exact ⟨w', _, Traced.bind_of_ok hinner rfl, by simpa using hanswers⟩

end Signatures

/-- After any session, with exports and restores, on the ceremonies of one authenticator: a
signature of it that the plugin returns verifies under the JWK the key is exported with, and this
is the JWK a key generation of the session returned for the kid. That holds of keys derived from
an ARKG seed, of plain P-256 keys and of BLS12-381 keys, whichever algorithm was asked for. -/
theorem fido2_signatures_verify {B W : Type} (crypto : Fido2SignCrypto)
    (hcrypto : crypto.toCtapCrypto.Lawful) (signer : Signer B) (hsigner : signer.Lawful crypto)
    (encode : List UInt8 → String) (decode : String → Except String (List UInt8))
    (hdecode : ∀ octets, decode (encode octets) = .ok octets)
    (codec : Codec ExportedPluginState) (hcodec : codec.Lawful)
    (order : HashMap.IterOrder String StoredFidoKey) (ops : List (SessionOp Fido2.Draw))
    (hmade : ∀ op algorithm d, .call op ∈ ops → keyGeneration op = some (algorithm, d) →
      signer.Made crypto d)
    (host : Fido2Host W) (auth : AuthCallback W) (kid : KeyId) (data : List UInt8) (w w' : W)
    (signature : Signature) (l : List HostEvent)
    (hplugin : host.plugin (host.progress.onProgress (.started "sign") w) =
      afterSession (crypto.forKeys encode) codec order ops)
    (hsign : sign crypto host auth kid data w = (.ok signature, w', l))
    (hanswers : signer.Answers crypto l) :
    ∃ op algorithm d jwk, .call op ∈ ops ∧ keyGeneration op = some (algorithm, d) ∧
      (∀ q : Fido2SignPlugin,
        (q.generateKey (crypto.forKeys encode) algorithm d).1 = .ok ⟨kid, jwk⟩) ∧
      (afterSession (crypto.forKeys encode) codec order ops).exportPublicKey
        (crypto.forKeys encode) kid = .ok jwk ∧
      (signer.verifier crypto decode).accepts jwk data signature.bytes = true := by
  obtain ⟨userVerified, verifiedFactor, hinner⟩ := sign_ok hsign
  obtain ⟨key, tbs, pinUvAuth, r, hkey, htbs, hasserted, hsignature, -, -⟩ := signInner_ok hinner
  rw [hplugin] at hkey
  have hstored : (afterSession (crypto.forKeys encode) codec order ops).keys.lookup kid.asStr =
      some key := by
    unfold findKey at hkey
    split at hkey
    · cases hkey
      assumption
    · cases hkey
  obtain ⟨hkid, op, hop, hgenerated⟩ := origin_afterSession hcodec hstored
  obtain ⟨algorithm, d, jwk, hgeneration, hdraw⟩ := generated_ok hgenerated
  have hbacks := backs_of_draw hcrypto (hmade op algorithm d hop hgeneration) hdraw
  have hjwk : jwk = buildPublicKeyJwk (crypto.forKeys encode) key := draw_jwk hdraw
  -- the request the authenticator reads is the one that was sent
  obtain ⟨challenge, exchange, response, rfl, hverified, hparse⟩ := hasserted
  have hanswer : signer.answer crypto (signInput crypto key tbs) = some r.signature := by
    have hreq := parse_buildGetAssertionRequest hcrypto.cbor rawSignRpId challenge
      key.credentialId (signInput crypto key tbs) hverified.isI64
    refine hanswers _ response _ r ?_ hreq hparse
    exact List.mem_cons_of_mem _ (List.mem_append_right _ (List.mem_singleton_self _))
  refine ⟨op, algorithm, d, jwk, hop, hgeneration, fun q => ?_, ?_, ?_⟩
  · unfold generateKey
    rw [hdraw]
    exact congrArg (fun k => Except.ok (GeneratedKey.mk ⟨k⟩ jwk)) hkid
  · unfold exportPublicKey
    rw [hkey, hjwk]
    rfl
  · rw [hjwk]
    exact accepts_of_backs hsigner hdecode hbacks htbs hanswer hsignature

/-! ## An authenticator with one seed -/

namespace SignerDemo

def crypto : Fido2SignCrypto := { Arkg.demoCrypto with signatureFromDer := .ok }

theorem crypto_lawful : crypto.toCtapCrypto.Lawful := Arkg.demoCrypto_lawful

/-- The COSE key of a scalar's point. -/
def coseKey (sk : Arkg.Scalar) : Cbor :=
  .map [(.integer 1, .integer 2), (.integer 3, .integer (-9)), (.integer (-1), .integer 1),
    (.integer (-2), .bytes (scalarPoint sk).x), (.integer (-3), .bytes (scalarPoint sk).y)]

/-- The ARKG seed of the scalars `2` and `3`. -/
def coseSeedEntries : List (Cbor × Cbor) :=
  [(.integer 1, .integer Arkg.coseKtyArkgPub), (.integer 3, .integer Arkg.coseAlgArkgP256),
    (.integer (-1), coseKey 2), (.integer (-2), coseKey 3)]

def coseSeed : Cbor := .map coseSeedEntries

def signer : Signer Unit where
  secretOf keyHandle := if keyHandle = [2] then some (.seed 2 3) else none
  ecdsa :=
    { pair := fun sk pk => scalarPoints.mul scalarPoints.generator sk = some pk
      sign := fun sk m => (scalarPoint sk).x ++ m
      verify := fun pk m s => s == pk.x ++ m }
  schnorr := ⟨fun _ _ => True, fun _ _ => List.replicate 64 0, fun _ _ _ => true⟩
  toDer raw := raw

theorem signer_lawful : signer.Lawful crypto where
  pair_iff _ _ := Iff.rfl
  ecdsa sk pk m hpair := by
    have hpair : scalarPoints.mul scalarPoints.generator sk = some pk := hpair
    rw [scalarPoints_mul_generator] at hpair
    split at hpair
    · cases hpair
    · rw [← Option.some.inj hpair]
      exact BEq.rfl
  schnorr _ _ _ _ := rfl
  fromDer_toDer _ := rfl
  length_schnorr _ _ := List.length_replicate

def draw : Fido2.Draw where
  ceremony := .ok ⟨[1], ⟨[2], cborWire.intoWriter coseSeed, arkgP256Esp256, []⟩⟩
  clientDataHash := [3]
  ikm := [1, 2, 3]
  now := 0

theorem read_coseSeed : crypto.cbor.read (cborWire.intoWriter coseSeed) = .ok coseSeed :=
  cborWire_read coseSeed

theorem decode_coseKey {sk : Arkg.Scalar} (hsk : sk ≠ 0) :
    Arkg.decodeCoseEc2PublicKey scalarPoints (coseKey sk) = .ok (scalarPoint sk) := by
  have hpoint : scalarPoints.mul scalarPoints.generator sk = some (scalarPoint sk) := by
    rw [scalarPoints_mul_generator, if_neg hsk]
  obtain ⟨hx, hy⟩ := length_scalarPoint sk
  unfold Arkg.decodeCoseEc2PublicKey coseKey
  simp only [Cbor.asMap, Cbor.findBytesByInt, List.findSome?_cons, Cbor.asInteger, Cbor.asBytes]
  simp only [reduceCtorEq, Option.some.injEq, Int.reduceEq, if_false, if_true, Int.reduceNeg]
  rw [if_neg (by simp [hx, hy]), scalarPoints_lawful.fromSec1Bytes_point _ _ hpoint]

theorem parse_coseSeed :
    Arkg.parseArkgPubSeed scalarPoints coseSeed = .ok ⟨scalarPoint 2, scalarPoint 3⟩ := by
  have hkty : Arkg.getI64ByInt coseSeedEntries 1 = some Arkg.coseKtyArkgPub := by rfl
  have halg : Arkg.getI64ByInt coseSeedEntries 3 = some Arkg.coseAlgArkgP256 := by rfl
  have hbl : Cbor.getValueByInt coseSeedEntries (-1) = some (coseKey 2) := by rfl
  have hkem : Cbor.getValueByInt coseSeedEntries (-2) = some (coseKey 3) := by rfl
  unfold Arkg.parseArkgPubSeed coseSeed
  simp only [Cbor.asMap, hkty, halg, hbl, hkem]
  rw [if_neg (not_not.mpr rfl), if_neg (by simp), decode_coseKey (by decide),
    decode_coseKey (by decide)]
  rfl

theorem made_draw : signer.Made crypto draw := by
  rintro result ⟨⟩
  refine ⟨.seed 2 3, rfl, coseSeed, _, read_coseSeed, parse_coseSeed, ?_, ?_⟩
  · exact (scalarPoints_mul_generator 2).trans (if_neg (by decide))
  · exact (scalarPoints_mul_generator 3).trans (if_neg (by decide))

theorem derives : (Arkg.derivePublicKey crypto.kdf crypto.p256 ⟨scalarPoint 2, scalarPoint 3⟩
    [1, 2, 3] arkgDeriveCtx).toBool := by
  decide +kernel

theorem jwkThumbprint_isOk (keys : Fido2Crypto) (key : StoredFidoKey) :
    ∃ kid, jwkThumbprint keys.toDigest (buildPublicKeyJwk keys key) = .ok kid := by
  unfold buildPublicKeyJwk
  cases keyAlgorithm key <;> exact ⟨_, rfl⟩

def keys : Fido2Crypto := crypto.forKeys base64url

def ops : List (SessionOp Fido2.Draw) := [.call (.generateKey .es256 draw)]

def codec : Codec ExportedPluginState := onlyCodec ⟨[], ∅⟩ emptyBlob

theorem made_ops (op : LifecycleOp Fido2.Draw) (algorithm : Algorithm) (d : Fido2.Draw)
    (hop : .call op ∈ ops) (hgeneration : keyGeneration op = some (algorithm, d)) :
    signer.Made crypto d := by
  obtain rfl : op = .generateKey .es256 draw := by simpa [ops] using hop
  cases hgeneration
  exact made_draw

theorem p256Coordinates_of_seed {keys : Fido2Crypto} {publicKeyCose ikm : List UInt8} {v : Cbor}
    {seed : Arkg.ArkgPublicSeed} {pk : PublicKey} {kh : List UInt8}
    (hread : keys.cbor.read publicKeyCose = .ok v)
    (hseed : Arkg.parseArkgPubSeed keys.p256 v = .ok seed)
    (hderive : Arkg.derivePublicKey keys.kdf keys.p256 seed ikm arkgDeriveCtx = .ok (pk, kh)) :
    p256Coordinates keys publicKeyCose ikm = .ok (pk.x, pk.y, some (kh, arkgDeriveCtx)) := by
  unfold p256Coordinates
  rw [hread]
  dsimp only
  rw [hseed]
  dsimp only
  rw [hderive]

/-- A ceremony that ends with coordinates makes a key. -/
theorem draw_of_p256Coordinates {keys : Fido2Crypto} {d : Fido2.Draw}
    {result : PreviewSign.MakeCredentialResult} {x y : List UInt8}
    {arkgKhAndCtx : Option (List UInt8 × List UInt8)} (hceremony : d.ceremony = .ok result)
    (hcoordinates : p256Coordinates keys result.generatedKey.publicKeyCose d.ikm =
      .ok (x, y, arkgKhAndCtx)) :
    ∃ stored jwk, Fido2SignPlugin.draw keys .es256 d = .ok (stored, jwk) := by
  unfold Fido2SignPlugin.draw
  dsimp only
  rw [hceremony]
  dsimp only
  rw [hcoordinates]
  dsimp only [generatedRecord]
  obtain ⟨kid, hkid⟩ := jwkThumbprint_isOk keys
    ⟨"", result.credentialId, result.generatedKey.keyHandle, x, y, result.generatedKey.algorithm,
      result.generatedKey.attestationObject, attestationObjectHasDedicatedHardwareChain keys.cbor
        result.generatedKey.attestationObject, d.clientDataHash, arkgKhAndCtx, d.now⟩
  rw [hkid]
  exact ⟨_, _, rfl⟩

theorem lookup_afterSession_generateKey {keys : Fido2Crypto} (codec : Codec ExportedPluginState)
    (order : HashMap.IterOrder String StoredFidoKey) {algorithm : Algorithm} {d : Fido2.Draw}
    {stored : StoredFidoKey} {jwk : Json}
    (hdraw : Fido2SignPlugin.draw keys algorithm d = .ok (stored, jwk)) :
    (afterSession keys codec order [.call (.generateKey algorithm d)]).keys.lookup stored.kid =
      some stored := by
  show (new.generateKey keys algorithm d).2.keys.lookup stored.kid = some stored
  unfold generateKey
  rw [hdraw]
  exact Finmap.lookup_insert _

/-- The key of the session. -/
theorem session_key : ∃ key, signer.Backs crypto key ∧
    (afterSession keys codec .sorted ops).keys.lookup key.kid = some key := by
  have hderives := derives
  rcases hderive : Arkg.derivePublicKey crypto.kdf crypto.p256 ⟨scalarPoint 2, scalarPoint 3⟩
    [1, 2, 3] arkgDeriveCtx with e | ⟨pk, kh⟩
  · rw [hderive] at hderives
    cases hderives
  obtain ⟨stored, jwk, hdraw⟩ : ∃ stored jwk,
      Fido2SignPlugin.draw keys .es256 draw = .ok (stored, jwk) :=
    draw_of_p256Coordinates rfl (p256Coordinates_of_seed read_coseSeed parse_coseSeed hderive)
  exact ⟨stored, backs_of_draw crypto_lawful made_draw hdraw,
    lookup_afterSession_generateKey codec .sorted hdraw⟩

def auth : AuthCallback Unit :=
  ⟨fun _ w => (.error .authCancelled, w), fun _ _ w => (.error .authCancelled, w),
    fun _ _ _ _ w => (.error .authCancelled, w)⟩

def host (self : Fido2SignPlugin) : Fido2Host Unit where
  plugin _ := self
  transport := signer.transport crypto
  rng := Authenticator.PinDemo.rng
  progress := ⟨fun _ w => w⟩

theorem host_plugin (self : Fido2SignPlugin) (w : Unit) : (host self).plugin w = self := rfl

def self : Fido2SignPlugin := afterSession keys codec .sorted ops

end SignerDemo

theorem fido2_signatures_verify_seed :
    ∃ kid jwk signature w' l,
      sign SignerDemo.crypto (SignerDemo.host SignerDemo.self) SignerDemo.auth kid
        (List.replicate 32 5) () = (.ok signature, w', l) ∧
      (SignerDemo.signer.verifier SignerDemo.crypto base64urlDecode).accepts jwk
        (List.replicate 32 5) signature.bytes = true := by
  obtain ⟨key, hbacks, hstored⟩ := SignerDemo.session_key
  obtain ⟨tbs, answer, bytes, htbs, hanswer, hbytes⟩ := signable_of_backs SignerDemo.signer_lawful
    hbacks (List.replicate 32 5) fun _ => List.length_replicate
  obtain ⟨w', l, hsign, hanswers⟩ := sign_on_transport
    SignerDemo.crypto_lawful.cbor (SignerDemo.host SignerDemo.self) rfl SignerDemo.auth ⟨key.kid⟩
    (by rw [SignerDemo.host_plugin]; exact findKey_of_lookup hstored) htbs hanswer hbytes
  obtain ⟨-, -, -, jwk, -, -, -, -, haccepts⟩ := fido2_signatures_verify SignerDemo.crypto
    SignerDemo.crypto_lawful SignerDemo.signer SignerDemo.signer_lawful base64url base64urlDecode
    base64urlDecode_base64url SignerDemo.codec (onlyCodec_lawful _ _) .sorted
    SignerDemo.ops SignerDemo.made_ops (SignerDemo.host SignerDemo.self) SignerDemo.auth ⟨key.kid⟩
    (List.replicate 32 5) () w' ⟨bytes⟩ l
    (SignerDemo.host_plugin _ _) hsign hanswers
  exact ⟨⟨key.kid⟩, jwk, ⟨bytes⟩, w', l, hsign, haccepts⟩

end Fido2SignPlugin

end Wscd
