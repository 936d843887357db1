import Wscd.CoordinateWidths
import Wscd.Plugins.Fido2Sign
import Wscd.RecordOrigins

/-!
# The algorithm of a fido2 key

The plugin does not record which algorithm a key was made for. It goes by the width of the
key's coordinates whenever the key is listed, exported or used, and an authenticator that ends a
P-256 ceremony with a plain EC2 key has the say in that width.

Results:
1. `treatedAs_iff_keyAlgorithm`: what the inferred algorithm decides.
2. `stays_own_algorithm_iff`: when a key is treated as one of the algorithm it was made for, in
   every later state.
-/

namespace Wscd

open Lib PreviewSign

namespace Fido2SignPlugin

open Fido2

/-! ## Keys of an algorithm -/

/-- The curve in the public JWK of a key. -/
def curveName : Algorithm → String
  | .es256 => "P-256"
  | .edDSA => "Ed25519"
  | .bls12381G1Schnorr => "BLS12381G1"

/-- `sent` is what is signed for `data`, and `signature` what becomes of the answer. -/
def SignsAs (crypto : Fido2SignCrypto) (algorithm : Algorithm)
    (data sent answer signature : List UInt8) : Prop :=
  match algorithm with
  | .es256 => sent = crypto.kdf.sha256 data ∧ crypto.signatureFromDer answer = .ok signature
  | .edDSA => False
  | .bls12381G1Schnorr =>
    data.length = 32 ∧ sent = data ∧ signature.length = 64 ∧ signature = answer

/-- A listing, an export and a signature treat the key as one of the algorithm. -/
structure TreatedAs (crypto : Fido2Crypto) (order : HashMap.IterOrder String StoredFidoKey)
    (algorithm : Algorithm) (kid : KeyId) (p : Fido2SignPlugin) : Prop where
  listed : ∃ info ∈ p.listKeys order, info.kid = kid
  algorithm_listed : ∀ info ∈ p.listKeys order, info.kid = kid → info.algorithm = algorithm
  exported : ∃ jwk, p.exportPublicKey crypto kid = .ok jwk ∧
    jwk.get "crv" = some (.string (curveName algorithm))
  signs : ∀ (W : Type) (signCrypto : Fido2SignCrypto) (host : Fido2Host W) (auth : AuthCallback W)
    (data : List UInt8) (w w' : W) (signature : Signature) (l : List HostEvent),
    host.plugin (host.progress.onProgress (.started "sign") w) = p →
    sign signCrypto host auth kid data w = (.ok signature, w', l) →
    ∃ key sent pinUvAuth r, p.findKey kid = .ok key ∧
      Asserted signCrypto key sent pinUvAuth r l ∧
      SignsAs signCrypto algorithm data sent r.signature signature.bytes
  refuses : algorithm = .bls12381G1Schnorr →
    ∀ (W : Type) (signCrypto : Fido2SignCrypto) (host : Fido2Host W) (auth : AuthCallback W)
    (data : List UInt8) (w : W),
    host.plugin (host.progress.onProgress (.started "sign") w) = p → data.length ≠ 32 →
    ∃ e w' challenge, sign signCrypto host auth kid data w = (.error e, w', [.drewBytes challenge])

/-! ## What the width decides -/

theorem get_crv_buildPublicKeyJwk (crypto : Fido2Crypto) (key : StoredFidoKey) :
    (buildPublicKeyJwk crypto key).get "crv" = some (.string (curveName (keyAlgorithm key))) := by
  unfold buildPublicKeyJwk keyAlgorithm
  by_cases h : key.pubX.length = bls12381G1CoordinateLen
  · rw [if_pos h]
    rfl
  · rw [if_neg h]
    rfl

theorem curveName_injective : Function.Injective curveName := by
  intro a b h
  cases a <;> cases b <;> first | rfl | simp [curveName] at h

/-- Keys with one public JWK are taken for keys of one algorithm. -/
theorem keyAlgorithm_eq_of_jwk {crypto : Fido2Crypto} {key key' : StoredFidoKey}
    (h : buildPublicKeyJwk crypto key = buildPublicKeyJwk crypto key') :
    keyAlgorithm key = keyAlgorithm key' := by
  have hcrv : some (Json.string (curveName (keyAlgorithm key))) =
      some (.string (curveName (keyAlgorithm key'))) := by
    rw [← get_crv_buildPublicKeyJwk crypto, h, get_crv_buildPublicKeyJwk]
  exact curveName_injective (Json.string.inj (Option.some.inj hcrv))

theorem keyAlgorithm_cases (key : StoredFidoKey) :
    keyAlgorithm key = .es256 ∨ keyAlgorithm key = .bls12381G1Schnorr := by
  unfold keyAlgorithm
  split
  · exact .inr rfl
  · exact .inl rfl

variable {signCrypto : Fido2SignCrypto} {algorithm : Algorithm}
  {data tbs answer signature : List UInt8}

theorem derSignatureToRaw_eq_ok (h : derSignatureToRaw signCrypto answer = .ok signature) :
    signCrypto.signatureFromDer answer = .ok signature := by
  unfold derSignatureToRaw at h
  split at h
  · cases h
    assumption
  · cases h

/-- The two steps that go by the algorithm, where both succeed. -/
theorem signsAs_of_ok (halgorithm : algorithm ≠ .edDSA)
    (htbs : toBeSigned signCrypto algorithm data = .ok tbs)
    (hsignature : decodeSignature signCrypto algorithm answer = .ok signature) :
    SignsAs signCrypto algorithm data tbs answer signature := by
  cases algorithm with
  | edDSA => exact absurd rfl halgorithm
  | es256 =>
    cases htbs
    exact ⟨rfl, derSignatureToRaw_eq_ok hsignature⟩
  | bls12381G1Schnorr =>
    have htbs : (if data.length ≠ 32 then _ else Except.ok data) = Except.ok tbs := htbs
    have hsignature : (if answer.length ≠ 64 then _ else Except.ok answer) =
      Except.ok signature := hsignature
    split at htbs
    · cases htbs
    split at hsignature
    · cases hsignature
    cases htbs
    cases hsignature
    exact ⟨not_not.mp ‹_›, rfl, not_not.mp ‹_›, rfl⟩

section Sign

variable {W : Type} {host : Fido2Host W} {auth : AuthCallback W} {kid : KeyId} {w w' : W}
  {key : StoredFidoKey} {l : List HostEvent}

theorem sign_ok {made : Signature} (h : sign signCrypto host auth kid data w = (.ok made, w', l)) :
    ∃ userVerified verifiedFactor, signInner signCrypto host auth kid data w =
      (.ok (made, userVerified, verifiedFactor), w', l) := by
  obtain ⟨⟨signed, userVerified, verifiedFactor⟩, w₁, l₁, l₂, hinner, hpure, rfl⟩ :=
    Traced.bind_ok_iff.mp h
  obtain ⟨rfl, rfl, rfl⟩ := Traced.pure_ok_iff.mp hpure
  rw [List.append_nil]
  exact ⟨userVerified, verifiedFactor, hinner⟩

/-- Data that is not to be signed is refused before anything is sent. -/
theorem sign_of_refused {e : WscdError}
    (hkey : (host.plugin (host.progress.onProgress (.started "sign") w)).findKey kid = .ok key)
    (hrefused : toBeSigned signCrypto (keyAlgorithm key) data = .error e) :
    ∃ w' challenge,
      sign signCrypto host auth kid data w = (.error e, w', [.drewBytes challenge]) := by
  have hlift (w₁ : W) :
      Traced.lift (toBeSigned signCrypto (keyAlgorithm key) data) w₁ =
        (.error e, w₁, ([] : List HostEvent)) := by
    rw [hrefused]
    rfl
  -- up to the challenge every step succeeds
  obtain ⟨w', l, hinner, challenge, rfl⟩ : ∃ w' l, signInner signCrypto host auth kid data w =
      (.error e, w', l) ∧ ∃ challenge, l = [HostEvent.drewBytes challenge] :=
    ⟨_, _, Traced.bind_of_ok rfl (Traced.bind_of_ok rfl
      (Traced.bind_of_ok (Traced.lift_ok_iff.mpr ⟨hkey, rfl, rfl⟩) (Traced.bind_of_ok rfl
        (Traced.bind_of_ok rfl (Traced.bind_of_error (hlift _)))))), _, rfl⟩
  exact ⟨w', challenge, Traced.bind_of_error hinner⟩

end Sign

theorem mem_listKeys (order : HashMap.IterOrder String StoredFidoKey) (p : Fido2SignPlugin)
    (info : KeyInfo) :
    info ∈ p.listKeys order ↔ ∃ k key, p.keys.lookup k = some key ∧ keyInfo key = info := by
  rw [listKeys, List.mem_mergeSort, List.mem_map]
  simp only [order.mem_values]
  constructor
  · rintro ⟨key, ⟨k, hk⟩, rfl⟩
    exact ⟨k, key, hk, rfl⟩
  · rintro ⟨k, key, hk, rfl⟩
    exact ⟨key, ⟨k, hk⟩, rfl⟩

theorem findKey_of_lookup {p : Fido2SignPlugin} {kid : KeyId} {key : StoredFidoKey}
    (h : p.keys.lookup kid.asStr = some key) : p.findKey kid = .ok key := by
  unfold findKey
  rw [h]

/-- A key is treated as one of the algorithm that its coordinates say. -/
theorem treatedAs_iff_keyAlgorithm {crypto : Fido2Crypto}
    {order : HashMap.IterOrder String StoredFidoKey} {p : Fido2SignPlugin} {kid : KeyId}
    {key : StoredFidoKey} (hkeyed : ∀ k key, p.keys.lookup k = some key → key.kid = k)
    (hkey : p.keys.lookup kid.asStr = some key) :
    TreatedAs crypto order algorithm kid p ↔ keyAlgorithm key = algorithm := by
  have hkid : (keyInfo key).kid = kid := congrArg KeyId.mk (hkeyed _ _ hkey)
  have hlisted : keyInfo key ∈ p.listKeys order :=
    (mem_listKeys order p _).mpr ⟨_, key, hkey, rfl⟩
  have hfind := findKey_of_lookup hkey
  constructor
  · intro h
    exact h.algorithm_listed _ hlisted hkid
  rintro rfl
  constructor
  · exact ⟨_, hlisted, hkid⟩
  · intro info hinfo hinfoKid
    obtain ⟨k, key', hkey', rfl⟩ := (mem_listKeys order p info).mp hinfo
    -- the record listed under the kid is the one stored under it
    have hk : kid.asStr = k := (congrArg KeyId.asStr hinfoKid).symm.trans (hkeyed _ _ hkey')
    rw [← hk, hkey] at hkey'
    cases hkey'
    rfl
  · refine ⟨buildPublicKeyJwk crypto key, ?_, get_crv_buildPublicKeyJwk crypto key⟩
    unfold exportPublicKey
    rw [hfind]
    rfl
  · intro W signCrypto host auth data w w' signature l hp hsign
    obtain ⟨userVerified, verifiedFactor, hinner⟩ := sign_ok hsign
    obtain ⟨key', tbs, pinUvAuth, r, hkey', htbs, hasserted, hdecode, -, -⟩ := signInner_ok hinner
    rw [hp, hfind] at hkey'
    cases hkey'
    have halgorithm : keyAlgorithm key ≠ .edDSA := by
      rcases keyAlgorithm_cases key with h | h <;> rw [h] <;> exact nofun
    exact ⟨key, tbs, pinUvAuth, r, hfind, hasserted, signsAs_of_ok halgorithm htbs hdecode⟩
  · intro halgorithm W signCrypto host auth data w hp hlength
    rw [← hp] at hfind
    obtain ⟨e, hrefused⟩ : ∃ e, toBeSigned signCrypto (keyAlgorithm key) data = .error e := by
      rw [halgorithm]
      exact ⟨_, if_pos hlength⟩
    exact ⟨e, sign_of_refused hfind hrefused⟩

/-! ## Whole sessions -/

/-- Public keys that the operations generate and that have one thumbprint are the same. -/
def CollisionFree (crypto : Fido2Crypto) (ops : List (SessionOp Fido2.Draw)) : Prop :=
  ∀ op op' key key', .call op ∈ ops → .call op' ∈ ops → generated crypto op = .ok key →
    generated crypto op' = .ok key' → key.kid = key'.kid →
    buildPublicKeyJwk crypto key = buildPublicKeyJwk crypto key'

/-- In every later state that keeps it, with exports and restores in between, a key is treated
as one of the algorithm it was made for, unless that was ES256 and the ceremony ended with a
plain EC2 key as wide as one of BLS12-381. -/
theorem stays_own_algorithm_iff (crypto : Fido2Crypto) (hp256 : crypto.p256.FieldCoordinates)
    (codec : Codec ExportedPluginState) (hcodec : codec.Lawful)
    (order : HashMap.IterOrder String StoredFidoKey) (before after : List (SessionOp Fido2.Draw))
    (algorithm : Algorithm) (d : Fido2.Draw) (made : GeneratedKey)
    (hmade : ((afterSession crypto codec order before).generateKey crypto algorithm d).1 = .ok made)
    (hcollision : CollisionFree crypto (before ++ .call (.generateKey algorithm d) :: after))
    (hkept : (afterSession crypto codec order
      (before ++ .call (.generateKey algorithm d) :: after)).keys.lookup made.kid.asStr ≠ none) :
    TreatedAs crypto order algorithm made.kid (afterSession crypto codec order
        (before ++ .call (.generateKey algorithm d) :: after)) ↔
      (algorithm = .es256 → plainWidth crypto d ≠ some bls12381G1CoordinateLen) := by
  obtain ⟨key, hdraw, hkid, -⟩ := generateKey_ok hmade
  obtain ⟨stored, hstored⟩ := Option.ne_none_iff_exists'.mp hkept
  obtain ⟨hstoredKid, op, hop, hgenerated⟩ := origin_afterSession hcodec hstored
  have hkey : generated crypto (.generateKey algorithm d) = .ok key := by
    unfold generated
    dsimp only
    rw [hdraw]
    rfl
  -- whichever operation the record stored now is from, it has the public key made then
  have hjwk : buildPublicKeyJwk crypto stored = buildPublicKeyJwk crypto key := by
    refine hcollision op (.generateKey algorithm d) stored key hop ?_ hgenerated hkey ?_
    · exact List.mem_append_right _ List.mem_cons_self
    · rw [hstoredKid, hkid]
  rw [treatedAs_iff_keyAlgorithm (fun k key h => (origin_afterSession hcodec h).1) hstored,
    keyAlgorithm_eq_of_jwk hjwk, keyAlgorithm_draw_iff hp256 hdraw]

open PaddedKeys TwoKeys SoftkeyHost

/-- The codec of the one export of a session below. -/
def baseCodec : Codec ExportedPluginState :=
  onlyCodec ⟨[recordOf (padded 0) kidOne], ∅⟩ (oneKeyBlob (recordOf (padded 0) kidOne))

def basePlugin : Fido2SignPlugin :=
  ⟨Finmap.insert kidOne.asStr (recordOf (padded 0) kidOne) ∅, ∅⟩

theorem exportState_basePlugin : basePlugin.exportState baseCodec .sorted =
    .ok (oneKeyBlob (recordOf (padded 0) kidOne)) := by
  have hkeys : sortedKeys .sorted basePlugin = [recordOf (padded 0) kidOne] := by
    unfold sortedKeys basePlugin
    rw [HashMap.IterOrder.values_insert_empty, List.mergeSort_singleton]
  have hvec : baseCodec.toVec ⟨sortedKeys .sorted basePlugin, basePlugin.lifecycle⟩ =
      .ok (oneKeyBlob (recordOf (padded 0) kidOne)) := by
    rw [hkeys]
    exact onlyCodec_toVec _ _
  unfold exportState
  rw [hvec]

theorem fromState_baseBlob :
    fromState baseCodec (oneKeyBlob (recordOf (padded 0) kidOne)) = .ok basePlugin := by
  have hread : baseCodec.fromSlice (oneKeyBlob (recordOf (padded 0) kidOne)) =
      .ok ⟨[recordOf (padded 0) kidOne], ∅⟩ := onlyCodec_lawful _ _ _ _ (onlyCodec_toVec _ _)
  unfold fromState
  rw [hread]
  rfl

theorem stays_own_algorithm_iff_base :
    TreatedAs PaddedKeys.crypto .sorted .es256 kidOne
      (afterSession PaddedKeys.crypto baseCodec .sorted
        [.call (.generateKey .es256 (PaddedKeys.drawOf 0)), .exportState, .restore 0]) := by
  have hplugin : afterSession PaddedKeys.crypto baseCodec .sorted
      [.call (.generateKey .es256 (PaddedKeys.drawOf 0)), .exportState, .restore 0] =
        basePlugin := by
    have hmade : (new.generateKey PaddedKeys.crypto .es256 (PaddedKeys.drawOf 0)).2 =
        basePlugin := congrArg Prod.snd (generateKey_drawOf draw_base)
    have hexport : (fido2Backend PaddedKeys.crypto baseCodec .sorted).exportState
        (Session.step (fido2Backend PaddedKeys.crypto baseCodec .sorted) (Session.start new)
          (.call (.generateKey .es256 (PaddedKeys.drawOf 0)))).plugin =
            .ok (oneKeyBlob (recordOf (padded 0) kidOne)) := by
      show (new.generateKey PaddedKeys.crypto .es256 (PaddedKeys.drawOf 0)).2.exportState baseCodec
        .sorted = _
      rw [hmade]
      exact exportState_basePlugin
    have hfrom : (fido2Backend PaddedKeys.crypto baseCodec .sorted).fromState =
        fromState baseCodec := rfl
    exact Session.plugin_restore_exportState hexport (by rw [hfrom, fromState_baseBlob])
  refine (stays_own_algorithm_iff PaddedKeys.crypto scalarPoints_fieldCoordinates baseCodec
    (onlyCodec_lawful _ _) .sorted [] [.exportState, .restore 0] .es256 (PaddedKeys.drawOf 0)
    ⟨kidOne, buildPublicKeyJwk PaddedKeys.crypto (recordOf (padded 0) kidOne)⟩
    (congrArg Prod.fst (generateKey_drawOf draw_base)) ?_ ?_).mpr ?_
  · intro op op' key key' hop hop' hkey hkey' _
    obtain rfl : op = .generateKey .es256 (PaddedKeys.drawOf 0) := by simpa using hop
    obtain rfl : op' = .generateKey .es256 (PaddedKeys.drawOf 0) := by simpa using hop'
    rw [Except.ok.inj (hkey.symm.trans hkey')]
  · show (afterSession PaddedKeys.crypto baseCodec .sorted
      [.call (.generateKey .es256 (PaddedKeys.drawOf 0)), .exportState, .restore 0]).keys.lookup
        kidOne.asStr ≠ none
    rw [hplugin]
    nofun
  · intro _
    rw [plainWidth_base]
    decide

/-- A key with 16 zero octets in front of its coordinates, made for ES256. -/
theorem wide_key_is_taken_for_bls12381 :
    (new.generateKey PaddedKeys.crypto .es256 (PaddedKeys.drawOf 16)).1 =
      .ok ⟨kidWide, buildPublicKeyJwk PaddedKeys.crypto (recordOf (padded 16) kidWide)⟩ ∧
    (new.generateKey PaddedKeys.crypto .es256 (PaddedKeys.drawOf 16)).2.listKeys .sorted =
      [⟨kidWide, .bls12381G1Schnorr, "fido2", 0⟩] ∧
    ¬TreatedAs PaddedKeys.crypto .sorted .es256 kidWide
      (new.generateKey PaddedKeys.crypto .es256 (PaddedKeys.drawOf 16)).2 := by
  have hlisted : listKeys .sorted
      ⟨Finmap.insert kidWide.asStr (recordOf (padded 16) kidWide) ∅, ∅⟩ =
        [⟨kidWide, .bls12381G1Schnorr, "fido2", 0⟩] := by
    unfold listKeys
    rw [HashMap.IterOrder.values_insert_empty]
    exact List.mergeSort_singleton _
  rw [generateKey_drawOf draw_wide]
  refine ⟨rfl, hlisted, fun h => ?_⟩
  have halgorithm := h.algorithm_listed ⟨kidWide, .bls12381G1Schnorr, "fido2", 0⟩
    (by rw [hlisted]; exact List.mem_cons_self) rfl
  cases halgorithm

end Fido2SignPlugin

end Wscd
