import Mathlib.Data.List.Nodup
import Wscd.AuthenticatorInfo
import Wscd.PreviewSign.Ceremonies

/-!
# Canonical CBOR

CTAP2 orders the keys of a map by their major type, then by how long they are written, then
by their octets, and strict authenticators refuse a command with a key out of place. Here are
the order, what it is for a value to keep it at every depth, and that every command does.

Results:
1. `Canonical.nodup_keys`: a canonical map has no key twice.
2. `commands_are_canonical`: the parameters of every command, for all inputs.
3. `makeCredential_sends`, `getAssertion_sends`, `describeAuthenticator_sends`: whatever the
   authenticator and the user answer, a run sends nothing else.
-/

namespace Wscd

open Lib

namespace Cbor

/-! ## The order of keys -/

def majorType : Cbor → Nat
  | .integer n => if 0 ≤ n then 0 else 1
  | .bytes _ => 2
  | .text _ => 3
  | .array _ => 4
  | .map _ => 5
  | .tag _ _ => 6
  | .float _ | .bool _ | .null => 7

/-- The lower major type first, then what is written shorter, then octet by octet; `encode`
writes in the fewest octets. -/
def KeyBefore (a b : Cbor) : Prop :=
  a.majorType < b.majorType ∨ a.majorType = b.majorType ∧
    (a.encode.length < b.encode.length ∨
      a.encode.length = b.encode.length ∧ a.encode < b.encode)

instance (a b : Cbor) : Decidable (KeyBefore a b) := inferInstanceAs (Decidable (_ ∨ _))

/-- Every map in the value, at every depth, lists its keys in strictly increasing order. -/
inductive Canonical : Cbor → Prop
  | integer (n : Int) : Canonical (.integer n)
  | bytes (b : List UInt8) : Canonical (.bytes b)
  | float (bits : UInt64) : Canonical (.float bits)
  | text (s : String) : Canonical (.text s)
  | bool (b : Bool) : Canonical (.bool b)
  | null : Canonical .null
  | tag (n : Nat) {v : Cbor} : Canonical v → Canonical (.tag n v)
  | array {vs : List Cbor} : (∀ v ∈ vs, Canonical v) → Canonical (.array vs)
  | map {entries : List (Cbor × Cbor)} : (entries.map Prod.fst).Pairwise KeyBefore →
      (∀ e ∈ entries, Canonical e.1) → (∀ e ∈ entries, Canonical e.2) → Canonical (.map entries)

attribute [simp] Canonical.integer Canonical.bytes Canonical.text

theorem KeyBefore.irrefl (a : Cbor) : ¬ KeyBefore a a := by
  rintro (h | ⟨-, h | ⟨-, h⟩⟩)
  · exact Nat.lt_irrefl _ h
  · exact Nat.lt_irrefl _ h
  · exact List.lt_irrefl _ h

namespace Canonical

variable {entries : List (Cbor × Cbor)}

theorem keys_pairwise (h : Canonical (.map entries)) :
    (entries.map Prod.fst).Pairwise KeyBefore := by
  cases h with
  | map hkeys _ _ => exact hkeys

/-- No key is there twice. -/
theorem nodup_keys (h : Canonical (.map entries)) : (entries.map Prod.fst).Nodup := by
  refine h.keys_pairwise.imp ?_
  rintro a b hab rfl
  exact KeyBefore.irrefl a hab

/-- A map under integers. -/
theorem of_integers (keys : List Int) (hkeys : entries.map Prod.fst = keys.map .integer)
    (hsorted : (keys.map Cbor.integer).Pairwise KeyBefore)
    (hvalues : ∀ e ∈ entries, Canonical e.2) : Canonical (.map entries) := by
  refine .map (hkeys ▸ hsorted) (fun e he => ?_) hvalues
  obtain ⟨n, -, hn⟩ := List.mem_map.mp (hkeys ▸ List.mem_map_of_mem he : e.1 ∈ keys.map .integer)
  exact hn ▸ .integer n

/-- A map under texts. -/
theorem of_texts (keys : List String) (hkeys : entries.map Prod.fst = keys.map .text)
    (hsorted : (keys.map Cbor.text).Pairwise KeyBefore)
    (hvalues : ∀ e ∈ entries, Canonical e.2) : Canonical (.map entries) := by
  refine .map (hkeys ▸ hsorted) (fun e he => ?_) hvalues
  obtain ⟨s, -, hs⟩ := List.mem_map.mp (hkeys ▸ List.mem_map_of_mem he : e.1 ∈ keys.map .text)
  exact hs ▸ .text s

end Canonical

/-- The longer text comes later, whatever its letters. -/
example : KeyBefore (.text "name") (.text "displayName") ∧
    ¬ KeyBefore (.text "type") (.text "alg") := by
  decide

end Cbor

/-! ## The previewSign commands -/

namespace PreviewSign

open Cbor

theorem canonical_buildGenerateKeyExtension (algorithms : List Int) (requireUv : Bool) :
    Canonical (buildGenerateKeyExtension algorithms requireUv) := by
  refine .of_texts ["previewSign"] rfl (by decide) fun e he => ?_
  obtain rfl := List.mem_singleton.mp he
  have halgorithms : Canonical (.array (algorithms.map .integer)) := .array (by simp)
  exact .of_integers [3, 4] rfl (by decide) (by simp [halgorithms])

theorem canonical_buildSignByCredentialExtension (sign : SignInput) :
    Canonical (buildSignByCredentialExtension sign) := by
  refine .of_texts ["previewSign"] rfl (by decide) fun e he => ?_
  obtain rfl := List.mem_singleton.mp he
  obtain ⟨keyHandle, tbs, additionalArgs⟩ := sign
  have hvalues : ∀ e ∈ [(Cbor.integer 2, Cbor.bytes keyHandle), (.integer 6, .bytes tbs)] ++
      (additionalArgs.map fun args => (Cbor.integer 7, Cbor.bytes args)).toList,
      Canonical e.2 := by
    cases additionalArgs <;> simp
  cases additionalArgs with
  | none => exact .of_integers [2, 6] rfl (by decide) hvalues
  | some args => exact .of_integers [2, 6, 7] rfl (by decide) hvalues

theorem canonical_pinUvAuthEntries {paramKey protocolKey : Int}
    {pinUvAuth : Option (List UInt8 × Int)} {e : Cbor × Cbor}
    (he : e ∈ pinUvAuthEntries paramKey protocolKey pinUvAuth) : Canonical e.2 := by
  rcases pinUvAuth with - | ⟨param, protocol⟩
  · cases he
  · simp only [pinUvAuthEntries, List.mem_cons, List.not_mem_nil, or_false] at he
    rcases he with rfl | rfl
    · exact .bytes param
    · exact .integer protocol

theorem canonical_makeCredentialParams (rpId : String) (userId clientDataHash : List UInt8)
    (generateKey : GenerateKeyInput) (pinUvAuth : Option (List UInt8 × Int)) :
    Canonical (.map (makeCredentialParams rpId userId clientDataHash generateKey pinUvAuth)) := by
  have hvalues : ∀ e ∈ makeCredentialParams rpId userId clientDataHash generateKey pinUvAuth,
      Canonical e.2 := by
    intro e he
    rcases List.mem_append.mp he with he | he
    · simp only [List.mem_cons, List.not_mem_nil, or_false] at he
      rcases he with rfl | rfl | rfl | rfl | rfl
      · exact .bytes _
      · exact .of_texts ["id", "name"] rfl (by decide) (by simp)
      · exact .of_texts ["id", "name", "displayName"] rfl (by decide) (by simp)
      · refine .array fun v hv => ?_
        obtain ⟨alg, -, rfl⟩ := List.mem_map.mp hv
        exact .of_texts ["alg", "type"] rfl (by decide) (by simp)
      · exact canonical_buildGenerateKeyExtension _ _
    · exact canonical_pinUvAuthEntries he
  cases pinUvAuth with
  | none => exact .of_integers [1, 2, 3, 4, 6] rfl (by decide) hvalues
  | some auth => exact .of_integers [1, 2, 3, 4, 6, 8, 9] rfl (by decide) hvalues

theorem canonical_getAssertionParams (rpId : String) (challenge credentialId : List UInt8)
    (sign : SignInput) (pinUvAuth : Option (List UInt8 × Int)) :
    Canonical (.map (getAssertionParams rpId challenge credentialId sign pinUvAuth)) := by
  have hvalues : ∀ e ∈ getAssertionParams rpId challenge credentialId sign pinUvAuth,
      Canonical e.2 := by
    intro e he
    rcases List.mem_append.mp he with he | he
    · simp only [List.mem_cons, List.not_mem_nil, or_false] at he
      rcases he with rfl | rfl | rfl | rfl
      · exact .text _
      · exact .bytes _
      · refine .array fun v hv => ?_
        obtain rfl := List.mem_singleton.mp hv
        exact .of_texts ["id", "type"] rfl (by decide) (by simp)
      · exact canonical_buildSignByCredentialExtension sign
    · exact canonical_pinUvAuthEntries he
  cases pinUvAuth with
  | none => exact .of_integers [1, 2, 3, 4] rfl (by decide) hvalues
  | some auth => exact .of_integers [1, 2, 3, 4, 6, 7] rfl (by decide) hvalues

end PreviewSign

/-! ## The ClientPin commands and the signing arguments -/

namespace ClientPin

open Cbor

theorem canonical_encodePlatformCoseKey (key : PublicKey) :
    Canonical (encodePlatformCoseKey key) :=
  .of_integers [1, 3, -1, -2, -3] rfl (by decide) (by simp)

theorem canonical_subcommandParams (protocol : PinUvAuthProtocol) (subcommand : Int) :
    Canonical (.map (subcommandParams protocol subcommand)) :=
  .of_integers [1, 2] rfl (by decide) (by simp [subcommandParams])

theorem canonical_setPinParams (protocol : PinUvAuthProtocol) (platform : PublicKey)
    (newPinEnc pinUvAuthParam : List UInt8) :
    Canonical (.map (subcommandParams protocol subcmdSetPin ++
      [(.integer 3, encodePlatformCoseKey platform), (.integer 4, .bytes pinUvAuthParam),
        (.integer 5, .bytes newPinEnc)])) :=
  .of_integers [1, 2, 3, 4, 5] rfl (by decide)
    (by simp [subcommandParams, canonical_encodePlatformCoseKey])

theorem canonical_tokenParams (protocol : PinUvAuthProtocol) (platform : PublicKey)
    (pinHashEnc : List UInt8) (permissions : UInt8) (rpId : Option String) :
    Canonical (.map (subcommandParams protocol subcmdGetPinUvAuthTokenUsingPinWithPermissions ++
      [(.integer 3, encodePlatformCoseKey platform), (.integer 6, .bytes pinHashEnc),
        (.integer 9, .integer permissions.toNat)] ++
      (rpId.map fun rpId => (.integer 0x0a, .text rpId)).toList)) := by
  cases rpId with
  | none =>
    exact .of_integers [1, 2, 3, 6, 9] rfl (by decide)
      (by simp [subcommandParams, canonical_encodePlatformCoseKey])
  | some rpId =>
    exact .of_integers [1, 2, 3, 6, 9, 0x0a] rfl (by decide)
      (by simp [subcommandParams, canonical_encodePlatformCoseKey])

end ClientPin

open Cbor PreviewSign ClientPin

/-- Every command is its code and one value, the same whatever writes it, that is canonical:
for all inputs, with and without what is optional. The signing arguments, which travel inside
a command as octets, are such a value too. No canonical map has a key twice. -/
theorem commands_are_canonical :
    (∀ rpId userId clientDataHash generateKey pinUvAuth, ∃ params, Canonical params ∧
      ∀ cbor, buildMakeCredentialRequest cbor rpId userId clientDataHash generateKey pinUvAuth =
        encodeCommand cbor ctap2MakeCredential params) ∧
    (∀ rpId challenge credentialId sign pinUvAuth, ∃ params, Canonical params ∧
      ∀ cbor, buildGetAssertionRequest cbor rpId challenge credentialId sign pinUvAuth =
        encodeCommand cbor ctap2GetAssertion params) ∧
    (∀ protocol, ∃ params, Canonical params ∧
      ∀ crypto, AuthenticatorInfo.pinRetriesCommand crypto protocol =
        encodeCommand crypto.cbor ctap2ClientPin params) ∧
    (∀ protocol, ∃ params, Canonical params ∧
      ∀ crypto, keyAgreementCommand crypto protocol =
        encodeCommand crypto.cbor ctap2ClientPin params) ∧
    (∀ protocol platform newPinEnc pinUvAuthParam, ∃ params, Canonical params ∧
      ∀ crypto, setPinCommand crypto protocol platform newPinEnc pinUvAuthParam =
        encodeCommand crypto.cbor ctap2ClientPin params) ∧
    (∀ protocol platform pinHashEnc permissions rpId, ∃ params, Canonical params ∧
      ∀ crypto, tokenCommand crypto protocol platform pinHashEnc permissions rpId =
        encodeCommand crypto.cbor ctap2ClientPin params) ∧
    (∀ alg kh ctx, ∃ args, Canonical args ∧
      ∀ cbor, Arkg.encodeArkgSignArgs cbor alg kh ctx = cbor.intoWriter args) ∧
    ∀ entries, Canonical (.map entries) → (entries.map Prod.fst).Nodup := by
  refine ⟨?_, ?_, ?_, ?_, ?_, ?_, ?_, fun _ => Canonical.nodup_keys⟩
  · intro rpId userId clientDataHash generateKey pinUvAuth
    exact ⟨_, canonical_makeCredentialParams rpId userId clientDataHash generateKey pinUvAuth,
      fun _ => rfl⟩
  · intro rpId challenge credentialId sign pinUvAuth
    exact ⟨_, canonical_getAssertionParams rpId challenge credentialId sign pinUvAuth,
      fun _ => rfl⟩
  · exact fun protocol => ⟨_, canonical_subcommandParams protocol _, fun _ => rfl⟩
  · exact fun protocol => ⟨_, canonical_subcommandParams protocol _, fun _ => rfl⟩
  · intro protocol platform newPinEnc pinUvAuthParam
    exact ⟨_, canonical_setPinParams protocol platform newPinEnc pinUvAuthParam, fun _ => rfl⟩
  · intro protocol platform pinHashEnc permissions rpId
    exact ⟨_, canonical_tokenParams protocol platform pinHashEnc permissions rpId, fun _ => rfl⟩
  · intro alg kh ctx
    exact ⟨_, .of_integers [3, -1, -2] rfl (by decide) (by simp), fun _ => rfl⟩

/-! ## Runs -/

section Runs

variable {W α β : Type} {crypto : CtapCrypto} {transport : Ctap2Transport W} {rng : Rng W}
  {auth : AuthCallback W}

/-- If a command is sent, it is a request for information, which has no parameters, or one
with canonical parameters. -/
def SendsCanonical (cbor : CborCodec) (e : HostEvent) : Prop :=
  ∀ command answer, e = .sentCommand command answer → command = [ctap2GetInfo] ∨
    ∃ code params, Canonical params ∧ command = encodeCommand cbor code params

/-- A computation that sends nothing else. -/
abbrev Sends (crypto : CtapCrypto) (x : HostM W α) : Prop :=
  Traced.Logs (SendsCanonical crypto.cbor) x

theorem sends_getInfo : Sends crypto (HostM.sendCommand transport [ctap2GetInfo]) := by
  intro w e he command answer heq
  obtain rfl := List.mem_singleton.mp he
  cases heq
  exact .inl rfl

theorem sends_command {code : UInt8} {params : Cbor} (h : Canonical params) :
    Sends crypto (HostM.sendCommand transport (encodeCommand crypto.cbor code params)) := by
  intro w e he command answer heq
  obtain rfl := List.mem_singleton.mp he
  cases heq
  exact .inr ⟨code, params, h, rfl⟩

theorem sends_lift (r : Except WscdError α) :
    Sends crypto (Traced.lift r : HostM W α) := Traced.logs_of_silent fun _ => rfl

theorem sends_pure (a : α) : Sends crypto (pure a : HostM W α) :=
  Traced.logs_of_silent fun _ => rfl

theorem sends_get (g : W → α) : Sends crypto (Traced.get g : HostM W α) :=
  Traced.logs_of_silent fun _ => rfl

theorem sends_generateSecret : Sends crypto (HostM.generateSecret rng) := by
  intro w e he command answer heq
  obtain rfl := List.mem_singleton.mp he
  cases heq

theorem sends_randomBytes (n : Nat) : Sends crypto (HostM.randomBytes rng n) := by
  intro w e he command answer heq
  obtain rfl := List.mem_singleton.mp he
  cases heq

theorem sends_requestPinFor (pluginId : String) (kind : PinRequestKind) :
    Sends crypto (HostM.requestPinFor auth pluginId kind) := by
  intro w e he command answer heq
  obtain rfl := List.mem_singleton.mp he
  cases heq

theorem sends_getKeyAgreement (protocol : PinUvAuthProtocol) :
    Sends crypto (getKeyAgreement crypto transport protocol) :=
  (sends_command (canonical_subcommandParams protocol _)).bind fun _ => sends_lift _

theorem sends_setPin (protocol : PinUvAuthProtocol) (pin : List UInt8) :
    Sends crypto (setPin crypto transport rng protocol pin) := by
  refine sends_generateSecret.bind fun secret => ?_
  refine (sends_getKeyAgreement protocol).bind fun peer => ?_
  refine (sends_lift _).bind fun sharedX => ?_
  refine (sends_randomBytes 16).bind fun iv => ?_
  refine (sends_command (canonical_setPinParams protocol _ _ _)).bind fun response => ?_
  exact (sends_lift _).bind fun _ => sends_pure _

theorem sends_tokenWithPin (protocol : PinUvAuthProtocol) (pin : List UInt8) (permissions : UInt8)
    (rpId : Option String) :
    Sends crypto (tokenWithPin crypto transport rng protocol pin permissions rpId) := by
  have hiv : Sends crypto (freshIv rng protocol) := by
    cases protocol with
    | one => exact sends_pure _
    | two => exact sends_randomBytes 16
  refine sends_generateSecret.bind fun secret => ?_
  refine (sends_getKeyAgreement protocol).bind fun peer => ?_
  refine (sends_lift _).bind fun sharedX => ?_
  refine hiv.bind fun iv => ?_
  refine (sends_command (canonical_tokenParams protocol _ _ _ _)).bind fun response => ?_
  refine (sends_lift _).bind fun tokenEnc => ?_
  exact (sends_lift _).bind fun _ => sends_pure _

theorem sends_acquirePinUvAuthToken (pluginId : String) (permissions : UInt8)
    (rpId : Option String) :
    Sends crypto (acquirePinUvAuthToken crypto transport rng auth pluginId permissions rpId) := by
  have hentered (info : AuthenticatorPinInfo) : Sends crypto
      (tokenWithEnteredPin crypto transport rng auth pluginId info permissions rpId) := by
    refine (sends_requestPinFor pluginId _).bind fun raw => ?_
    split
    · exact sends_lift _
    · exact sends_tokenWithPin _ _ _ _
  have hinfo : Sends crypto (readPinInfo crypto transport) :=
    sends_getInfo.bind fun _ => (sends_lift _).bind fun _ => sends_lift _
  refine hinfo.bind fun info => ?_
  split
  · refine (sends_requestPinFor pluginId _).bind fun raw => ?_
    refine (sends_lift _).bind fun pin => ?_
    exact (sends_setPin _ _).bind fun _ => sends_tokenWithPin _ _ _ _
  · exact hentered info
  · exact hentered info

theorem sends_ceremonyPinUvAuth (permission : UInt8) (rpId : String) (message : List UInt8) :
    Sends crypto (ceremonyPinUvAuth crypto transport rng auth permission rpId message) := by
  refine (sends_get _).bind fun verifies => ?_
  split
  · exact sends_pure _
  · exact (sends_acquirePinUvAuthToken _ _ _).bind fun _ => sends_pure _

/-- A key generation sends canonical commands only, whatever it is answered. -/
theorem makeCredential_sends (rpId : String) (userId clientDataHash : List UInt8)
    (generateKey : GenerateKeyInput) :
    Sends crypto
      (makeCredential crypto transport rng auth rpId userId clientDataHash generateKey) := by
  refine (sends_ceremonyPinUvAuth _ _ _).bind fun pinUvAuth => ?_
  refine (sends_command ?_).bind fun _ => sends_lift _
  exact canonical_makeCredentialParams rpId userId clientDataHash generateKey pinUvAuth

theorem getAssertion_sends (rpId : String) (challenge credentialId : List UInt8)
    (sign : SignInput) :
    Sends crypto (getAssertion crypto transport rng auth rpId challenge credentialId sign) := by
  refine (sends_ceremonyPinUvAuth _ _ _).bind fun pinUvAuth => ?_
  refine (sends_command ?_).bind fun _ => sends_lift _
  exact canonical_getAssertionParams rpId challenge credentialId sign pinUvAuth

theorem describeAuthenticator_sends :
    Sends crypto (AuthenticatorInfo.describeAuthenticator crypto transport) := by
  refine sends_getInfo.bind fun response => ?_
  refine (sends_lift _).bind fun body => (sends_lift _).bind fun parsed => ?_
  refine Traced.Logs.bind ?_ fun info => (sends_get _).bind fun _ => sends_pure _
  unfold AuthenticatorInfo.withPinRetries
  split
  · refine Traced.Logs.bind ?_ fun _ => sends_pure _
    exact (sends_command (canonical_subcommandParams _ _)).bind fun _ => sends_lift _
  · exact sends_pure _

end Runs

end Wscd
