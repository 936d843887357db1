import Wscd.Cancellation

/-!
# What stands behind a level

`generate_key_for_level` returns a key whose plugin says that its level is high enough. Behind
a level other than `Unattested` is something that can be shown to others: the attestation object
the authenticator answered with, or the chain the Keystore gave for the alias it created. This
is what `attestation_chain` hands out for that key.

Results:
1. `fido2GenerateKey_ok`, `androidGenerateKey_ok`: what a new record was copied from.
2. `level_is_witnessed`: the key that is returned has a chain, and the chain was obtained in this
   operation, at the level that was asked for.
-/

namespace Wscd

open Lib PreviewSign

def AndroidKeystorePlugin.attestationChain (kid : KeyId) (self : AndroidKeystorePlugin) :
    Except WscdError (Option AttestationChain) :=
  match self.findKey kid with
  | .error e => .error e
  | .ok key =>
    if key.certificates.length < 2 then .ok none
    else .ok (some ⟨.x509Chain, key.certificates, key.clientDataHash, []⟩)

variable {W : Type}

/-- Software keys, Secure Enclave keys and remote keys have nothing to show. -/
def Backend.attestationChain (kid : KeyId) :
    Backend W → Except WscdError (Option AttestationChain)
  | .fido2 _ p => p.attestationChain kid
  | .androidKeystore _ p => p.attestationChain kid
  | .softkey _ | .appleSecureEnclave _ _ | .other _ => .ok none

/-- The chain comes from the calls in the log, and they are good for the level. -/
inductive Witnessed (host : PluginHost W) (required : CertificationLevel) (log : List PluginEvent)
    (chain : AttestationChain) : Prop
  /-- The attestation object an authenticator answered with, over the hash it was sent; it
  carries a certificate chain. -/
  | authenticator {userId response : List UInt8} {generateKey : GenerateKeyInput}
      {pinUvAuth : Option (List UInt8 × Int)} {result : MakeCredentialResult} :
      chain = ⟨.opaqueFormat, [], chain.clientDataHash, result.generatedKey.attestationObject⟩ →
      PluginEvent.host (.sentCommand (buildMakeCredentialRequest host.ctap.cbor
        Fido2SignPlugin.rawSignRpId userId chain.clientDataHash generateKey pinUvAuth)
        (.ok response)) ∈ log →
      parseMakeCredentialResponse host.ctap.cbor response = .ok result →
      CarriesChain host.ctap.cbor result.generatedKey.attestationObject →
      Witnessed host required log chain
  /-- The chain the Keystore gave for an alias under which it created a key at that level. -/
  | keystore {keyAlias : String} {strongBox : Bool} {level : AndroidKeystoreSecurityLevel} :
      chain = ⟨.x509Chain, chain.certificates, chain.clientDataHash, []⟩ →
      PluginEvent.keystore (.generated keyAlias strongBox (.ok level)) ∈ log →
      PluginEvent.keystore (.certified keyAlias (.ok chain.certificates)) ∈ log →
      2 ≤ chain.certificates.length →
      Sys.certificationRank required ≤ Sys.certificationRank level.asCertificationLevel →
      Witnessed host required log chain

theorem Witnessed.mono {host : PluginHost W} {required : CertificationLevel}
    {log log' : List PluginEvent} {chain : AttestationChain} (hsub : ∀ e ∈ log, e ∈ log')
    (h : Witnessed host required log chain) : Witnessed host required log' chain := by
  cases h with
  | authenticator hchain hsent hparse hcarries =>
    exact .authenticator hchain (hsub _ hsent) hparse hcarries
  | keystore hchain hgenerated hcertified hlength hlevel =>
    exact .keystore hchain (hsub _ hgenerated) (hsub _ hcertified) hlength hlevel

/-! ## What a record was copied from -/

namespace Fido2SignPlugin

open Fido2

variable {crypto : Fido2Crypto}

/-- A record has what the ceremony yielded, and its flag is that of its attestation object. -/
structure CopiedFrom (crypto : Fido2Crypto) (result : MakeCredentialResult)
    (clientDataHash : List UInt8) (key : StoredFidoKey) : Prop where
  attestationObject : key.attestationObject = result.generatedKey.attestationObject
  clientDataHash : key.clientDataHash = clientDataHash
  hasChain : key.hasDedicatedHardwareChain =
    attestationObjectHasDedicatedHardwareChain crypto.cbor result.generatedKey.attestationObject

theorem copiedFrom_generatedRecord {result : MakeCredentialResult} {x y clientDataHash : List UInt8}
    {khAndCtx : Option (List UInt8 × List UInt8)} {now : Int} {stored : StoredFidoKey} {jwk : Json}
    (h : generatedRecord crypto result x y khAndCtx clientDataHash now = .ok (stored, jwk)) :
    CopiedFrom crypto result clientDataHash stored := by
  unfold generatedRecord at h
  dsimp only at h
  split at h
  · cases h
  · cases h
    exact ⟨rfl, rfl, rfl⟩

theorem copiedFrom_draw {algorithm : Algorithm} {result : MakeCredentialResult}
    {clientDataHash ikm : List UInt8} {now : Int} {stored : StoredFidoKey} {jwk : Json}
    (h : draw crypto algorithm ⟨.ok result, clientDataHash, ikm, now⟩ = .ok (stored, jwk)) :
    CopiedFrom crypto result clientDataHash stored := by
  unfold draw at h
  cases algorithm with
  | edDSA => cases h
  | bls12381G1Schnorr =>
    dsimp only at h
    split at h
    · cases h
    · exact copiedFrom_generatedRecord h
  | es256 =>
    dsimp only at h
    split at h
    · cases h
    · exact copiedFrom_generatedRecord h

end Fido2SignPlugin

section Fido2

variable {host : PluginHost W} {algorithm : Algorithm} {w w' : W} {p p' : Fido2SignPlugin}
  {l : List HostEvent} {generated : GeneratedKey}

theorem onSelf_ok {P α : Type} {f : P → Except WscdError α × P} {s s' : W × P} {a : α}
    {l : List HostEvent} (h : Backend.onSelf f s = (.ok a, s', l)) :
    f s.2 = (.ok a, s'.2) ∧ l = [] := by
  unfold Backend.onSelf at h
  obtain ⟨answer, s₁, l₁, l₂, hupdate, hlift, rfl⟩ := Traced.bind_ok_iff.mp h
  obtain ⟨hf, rfl⟩ := Traced.update_ok_iff.mp hupdate
  obtain ⟨rfl, rfl, rfl⟩ := Traced.lift_ok_iff.mp hlift
  obtain ⟨hanswer, rfl⟩ := Prod.mk.inj hf
  exact ⟨Prod.ext hanswer rfl, rfl⟩

/-- What follows the ceremony files its result. -/
theorem fileKey_ok {result : MakeCredentialResult} {clientDataHash ikm : List UInt8}
    {s s' : W × Fido2SignPlugin}
    (h : (do
      let now ← Backend.outside (Traced.get host.nowUnix)
      let generated ← Backend.onSelf (Fido2SignPlugin.generateKey host.fido2 algorithm
        ⟨.ok result, clientDataHash, ikm, now⟩)
      Backend.outside (HostM.onProgress host.progress .complete)
      return generated : HostM (W × Fido2SignPlugin) GeneratedKey) s = (.ok generated, s', l)) :
    ∃ key, s'.2.findKey generated.kid = .ok key ∧
      Fido2SignPlugin.CopiedFrom host.fido2 result clientDataHash key := by
  obtain ⟨now, s₁, l₁, l₂, -, h₁, rfl⟩ := Traced.bind_ok_iff.mp h
  obtain ⟨made, s₂, l₃, l₄, hmade, h₂, rfl⟩ := Traced.bind_ok_iff.mp h₁
  obtain ⟨_, s₃, l₅, l₆, hcomplete, h₃, rfl⟩ := Traced.bind_ok_iff.mp h₂
  obtain ⟨hgenerate, rfl⟩ := onSelf_ok hmade
  obtain ⟨l₇, -, hsame, -⟩ := Traced.embed_cases hcomplete
  obtain ⟨rfl, rfl, rfl⟩ := Traced.pure_ok_iff.mp h₃
  unfold Fido2SignPlugin.generateKey at hgenerate
  split at hgenerate
  · cases hgenerate
  · rename_i stored jwk hdraw
    obtain ⟨hgenerated, hplugin⟩ := Prod.mk.inj hgenerate
    obtain rfl := Except.ok.inj hgenerated
    refine ⟨stored, ?_, Fido2SignPlugin.copiedFrom_draw hdraw⟩
    rw [hsame, ← hplugin, Fido2SignPlugin.findKey]
    dsimp only
    rw [HashMap.lookup_insert_eq_ite, if_pos rfl]

/-- A key of the fido2 plugin was made by one ceremony, which its record is a copy of. -/
theorem fido2GenerateKey_ok
    (h : Backend.fido2GenerateKey host algorithm (w, p) = (.ok generated, (w', p'), l)) :
    ∃ key userId pinUvAuth response result,
      p'.findKey generated.kid = .ok key ∧
      Fido2SignPlugin.CopiedFrom host.fido2 result key.clientDataHash key ∧
      .sentCommand (buildMakeCredentialRequest host.ctap.cbor Fido2SignPlugin.rawSignRpId userId
        key.clientDataHash ⟨Fido2SignPlugin.requestedAlgorithms algorithm⟩ pinUvAuth)
        (.ok response) ∈ l ∧
      parseMakeCredentialResponse host.ctap.cbor response = .ok result := by
  unfold Backend.fido2GenerateKey at h
  split at h
  · obtain ⟨herror, -, -⟩ := Traced.lift_ok_iff.mp h
    cases herror
  obtain ⟨_, s₁, l₁, l₂, -, h₁, rfl⟩ := Traced.bind_ok_iff.mp h
  obtain ⟨userId, s₂, l₃, l₄, -, h₂, rfl⟩ := Traced.bind_ok_iff.mp h₁
  obtain ⟨clientDataHash, s₃, l₅, l₆, -, h₃, rfl⟩ := Traced.bind_ok_iff.mp h₂
  obtain ⟨_, s₄, l₇, l₈, -, h₄, rfl⟩ := Traced.bind_ok_iff.mp h₃
  obtain ⟨result, s₅, l₉, l₁₀, hceremony, h₅, rfl⟩ := Traced.bind_ok_iff.mp h₄
  obtain ⟨events, hmake, -, rfl⟩ := Traced.embed_cases hceremony
  obtain ⟨pinUvAuth, exchange, response, rfl, -, hparse⟩ := makeCredential_ok hmake
  have hfiled : ∃ key, p'.findKey generated.kid = .ok key ∧
      Fido2SignPlugin.CopiedFrom host.fido2 result clientDataHash key := by
    dsimp only at h₅
    split at h₅
    · obtain ⟨ikm, s₆, l₁₁, l₁₂, -, h₆, rfl⟩ := Traced.bind_ok_iff.mp h₅
      exact fileKey_ok h₆
    · exact fileKey_ok h₅
  obtain ⟨key, hkey, hcopied⟩ := hfiled
  refine ⟨key, userId, pinUvAuth, response, result, hkey, ?_, ?_, hparse⟩
  · rw [hcopied.clientDataHash]
    exact hcopied
  · rw [hcopied.clientDataHash]
    simp only [List.map_id', List.mem_append]
    exact .inr (.inr (.inr (.inr (.inl (.inr (List.mem_singleton_self _))))))

end Fido2

section Android

open AndroidKeystorePlugin AndroidKeystore

variable {host : AndroidKeystorePlugin.Host W} {s s' : W × AndroidKeystorePlugin}
  {l : List KeystoreEvent} {keyAlias : String} {level : AndroidKeystoreSecurityLevel}
  {challenge : List UInt8} {generated : GeneratedKey}

theorem outside_ok {α : Type} {f : W → α × W} {a : α}
    (h : AndroidKeystorePlugin.outside f s = (.ok a, s', l)) : (f s.1).1 = a ∧ s'.2 = s.2 := by
  obtain ⟨hf, -⟩ := Traced.update_ok_iff.mp h
  obtain ⟨hanswer, rfl⟩ := Prod.mk.inj hf
  exact ⟨hanswer, rfl⟩

/-- The level that is passed on is what the Keystore said of the alias. -/
theorem bestEffortGenerate_ok
    (h : bestEffortGenerate host challenge s = (.ok (keyAlias, level), s', l)) :
    ∃ strongBox, .generated keyAlias strongBox (.ok level) ∈ l := by
  unfold bestEffortGenerate at h
  obtain ⟨first, s₁, l₁, l₂, -, h₁, rfl⟩ := Traced.bind_ok_iff.mp h
  obtain ⟨answer, s₂, l₃, l₄, hgenerate, h₂, rfl⟩ := Traced.bind_ok_iff.mp h₁
  obtain ⟨-, rfl⟩ := Traced.ask_cases (Traced.attempt_ok_iff.mp hgenerate)
  split at h₂
  · obtain ⟨heq, -, rfl⟩ := Traced.pure_ok_iff.mp h₂
    cases heq
    exact ⟨true, by simp⟩
  · obtain ⟨deletion, s₃, l₅, l₆, -, h₃, rfl⟩ := Traced.bind_ok_iff.mp h₂
    split at h₃
    · obtain ⟨herror, -, -⟩ := Traced.lift_ok_iff.mp h₃
      cases herror
    · obtain ⟨tee, s₄, l₇, l₈, -, h₄, rfl⟩ := Traced.bind_ok_iff.mp h₃
      obtain ⟨answer', s₅, l₉, l₁₀, hgenerate', h₅, rfl⟩ := Traced.bind_ok_iff.mp h₄
      obtain ⟨-, rfl⟩ := Traced.ask_cases (Traced.attempt_ok_iff.mp hgenerate')
      split at h₅
      · obtain ⟨heq, -, rfl⟩ := Traced.pure_ok_iff.mp h₅
        cases heq
        exact ⟨false, by simp⟩
      · obtain ⟨e, s₆, l₁₁, l₁₂, -, h₆, rfl⟩ := Traced.bind_ok_iff.mp h₅
        obtain ⟨herror, -, -⟩ := Traced.lift_ok_iff.mp h₆
        cases herror
  · obtain ⟨e, s₃, l₅, l₆, -, h₃, rfl⟩ := Traced.bind_ok_iff.mp h₂
    obtain ⟨herror, -, -⟩ := Traced.lift_ok_iff.mp h₃
    cases herror

/-- A record has the level and the chain of its alias. -/
theorem finishGenerateKey_ok
    (h : finishGenerateKey host keyAlias level challenge s = (.ok generated, s', l)) :
    ∃ key, s'.2.findKey generated.kid = .ok key ∧ key.securityLevel = level ∧
      .certified keyAlias (.ok key.certificates) ∈ l := by
  unfold finishGenerateKey at h
  obtain ⟨certificates, s₂, l₁, l₂, hchain, h₂, rfl⟩ := Traced.bind_ok_iff.mp h
  obtain ⟨answer, s₃, l₅, l₆, -, h₃, rfl⟩ := Traced.bind_ok_iff.mp h₂
  obtain ⟨jwk, s₄, l₇, l₈, -, h₄, rfl⟩ := Traced.bind_ok_iff.mp h₃
  obtain ⟨kid, s₅, l₉, l₁₀, -, h₅, rfl⟩ := Traced.bind_ok_iff.mp h₄
  obtain ⟨createdAt, s₆, l₁₁, l₁₂, -, h₆, rfl⟩ := Traced.bind_ok_iff.mp h₅
  obtain ⟨_, s₇, l₁₃, l₁₄, hfile, h₇, rfl⟩ := Traced.bind_ok_iff.mp h₆
  obtain ⟨-, rfl⟩ := Traced.ask_cases hchain
  obtain ⟨rfl, -⟩ := Traced.modify_ok_iff.mp hfile
  obtain ⟨rfl, rfl, -⟩ := Traced.pure_ok_iff.mp h₇
  refine ⟨⟨kid, keyAlias, jwk, certificates, challenge, level, [], createdAt⟩, ?_, rfl,
    List.mem_cons_self⟩
  rw [AndroidKeystorePlugin.findKey]
  dsimp only
  rw [HashMap.lookup_insert_eq_ite, if_pos rfl]

theorem androidGenerateKey_ok {algorithm : Algorithm}
    (h : AndroidKeystorePlugin.generateKey host algorithm s = (.ok generated, s', l)) :
    ∃ key keyAlias strongBox, s'.2.findKey generated.kid = .ok key ∧
      .generated keyAlias strongBox (.ok key.securityLevel) ∈ l ∧
      .certified keyAlias (.ok key.certificates) ∈ l := by
  unfold AndroidKeystorePlugin.generateKey at h
  obtain ⟨challenge, s₁, l₁, l₂, -, h₁, rfl⟩ := Traced.bind_ok_iff.mp h
  unfold generateKeyWithChallenge at h₁
  split at h₁
  · obtain ⟨herror, -, -⟩ := Traced.lift_ok_iff.mp h₁
    cases herror
  split at h₁
  · obtain ⟨herror, -, -⟩ := Traced.lift_ok_iff.mp h₁
    cases herror
  obtain ⟨_, s₂, l₃, l₄, -, h₂, rfl⟩ := Traced.bind_ok_iff.mp h₁
  obtain ⟨⟨keyAlias, level⟩, s₃, l₅, l₆, hgenerate, h₃, rfl⟩ := Traced.bind_ok_iff.mp h₂
  obtain ⟨strongBox, hevent⟩ := bestEffortGenerate_ok hgenerate
  obtain ⟨answer, s₄, l₇, l₈, hfinish, h₄, rfl⟩ := Traced.bind_ok_iff.mp h₃
  split at h₄
  · obtain ⟨_, s₅, l₉, l₁₀, hcomplete, h₅, rfl⟩ := Traced.bind_ok_iff.mp h₄
    obtain ⟨-, hsame⟩ := outside_ok hcomplete
    obtain ⟨rfl, rfl, -⟩ := Traced.pure_ok_iff.mp h₅
    obtain ⟨key, hkey, rfl, hcertified⟩ := finishGenerateKey_ok (Traced.attempt_ok_iff.mp hfinish)
    rw [← hsame] at hkey
    simp only [List.mem_append]
    exact ⟨key, keyAlias, strongBox, hkey, .inr (.inr (.inl hevent)),
      .inr (.inr (.inr (.inl hcertified)))⟩
  · obtain ⟨e, s₅, l₉, l₁₀, -, h₅, rfl⟩ := Traced.bind_ok_iff.mp h₄
    obtain ⟨herror, -, -⟩ := Traced.lift_ok_iff.mp h₅
    cases herror

end Android

/-! ## Behind a plugin's level -/

section Plugins

variable {required : CertificationLevel} {algorithm : Algorithm} {self self' : Backend W}
  {env env' : PluginEnv W} {generated : GeneratedKey} {props : SecurityProperties}

/-- Each call leaves the host alone and adds to the log. -/
def PluginEnv.Extends (env env' : PluginEnv W) : Prop :=
  env'.host = env.host ∧ ∃ l, env'.log = env.log ++ l

theorem extends_perform {E P α : Type} (event : E → PluginEvent) (rebuild : P → Backend W)
    (x : PluginHost W → Traced E (W × P) WscdError α) (p : P) (env : PluginEnv W) :
    env.Extends (Backend.perform event rebuild x p env).2.2 := ⟨rfl, _, rfl⟩

theorem perform_ok {E P α : Type} {event : E → PluginEvent} {rebuild : P → Backend W}
    {x : PluginHost W → Traced E (W × P) WscdError α} {p : P} {a : α}
    (h : Backend.perform event rebuild x p env = (.ok a, self', env')) :
    ∃ w' p' l, x env.host (env.world, p) = (.ok a, (w', p'), l) ∧ self' = rebuild p' ∧
      env'.log = env.log ++ l.map event := by
  unfold Backend.perform at h
  rcases hrun : x env.host (env.world, p) with ⟨r, ⟨w', p'⟩, l⟩
  rw [hrun] at h
  cases h
  exact ⟨w', p', l, rfl, rfl, rfl⟩

theorem not_unattested (hrequired : required ≠ .unattested)
    (hlevel : Sys.certificationRank required ≤ Sys.certificationRank .unattested) : False := by
  cases required with
  | unattested => exact hrequired rfl
  | attestedSharedEnvironment => exact absurd hlevel (by decide)
  | attestedDedicatedHardware => exact absurd hlevel (by decide)

/-- Nothing is no attestation object. -/
theorem hasNoChain_nil {cbor : CborCodec} (hcbor : cbor.Lawful) :
    attestationObjectHasDedicatedHardwareChain cbor [] ≠ true := by
  obtain ⟨e, heof⟩ := hcbor.eof
  unfold attestationObjectHasDedicatedHardwareChain CborCodec.read
  rw [heof]
  exact Bool.false_ne_true

/-- A fresh key that its plugin says is attested has a chain, and the chain comes from the call
that made the key. -/
theorem witnessed_of_generateKey (hcbor : env.host.ctap.cbor.Lawful)
    (hrequired : required ≠ .unattested)
    (h : Backend.generateKey algorithm self env = (.ok generated, self', env'))
    (hprops : Backend.securityProperties generated.kid self' = .ok props)
    (hlevel : Sys.certificationRank required ≤ Sys.certificationRank props.certification) :
    ∃ chain l, Backend.attestationChain generated.kid self' = .ok (some chain) ∧
      env'.log = env.log ++ l ∧ Witnessed env.host required l chain := by
  unfold Backend.generateKey at h
  cases self with
  | softkey p =>
    obtain ⟨w', p', l, -, rfl, -⟩ := perform_ok h
    unfold Backend.securityProperties SoftkeyPlugin.securityProperties at hprops
    dsimp only at hprops
    split at hprops
    · cases hprops
    · cases hprops
      exact absurd hlevel (not_unattested hrequired)
  | fido2 transport p =>
    obtain ⟨w', p', l, hrun, rfl, hlog⟩ := perform_ok h
    obtain ⟨key, userId, pinUvAuth, response, result, hkey, hcopied, hsent, hparse⟩ :=
      fido2GenerateKey_ok hrun
    unfold Backend.securityProperties Fido2SignPlugin.securityProperties at hprops
    dsimp only at hprops
    rw [hkey] at hprops
    cases hprops
    dsimp only at hlevel
    split at hlevel
    · rename_i hflag
      rw [hcopied.hasChain] at hflag
      have hsome : key.attestationObject ≠ [] := by
        intro hnil
        rw [← hcopied.attestationObject, hnil] at hflag
        exact absurd hflag (hasNoChain_nil hcbor)
      refine ⟨⟨.opaqueFormat, [], key.clientDataHash, key.attestationObject⟩, l.map .host, ?_, hlog,
        .authenticator (by rw [hcopied.attestationObject]) (List.mem_map_of_mem hsent) hparse
          ((attestationObjectHasDedicatedHardwareChain_iff ..).mp hflag)⟩
      unfold Backend.attestationChain Fido2SignPlugin.attestationChain
      dsimp only
      rw [hkey]
      dsimp only
      rw [if_neg hsome]
    · exact absurd hlevel (not_unattested hrequired)
  | androidKeystore callback p =>
    obtain ⟨w', p', l, hrun, rfl, hlog⟩ := perform_ok h
    obtain ⟨key, keyAlias, strongBox, hkey, hgenerated, hcertified⟩ := androidGenerateKey_ok hrun
    unfold Backend.securityProperties AndroidKeystorePlugin.securityProperties at hprops
    dsimp only at hprops
    rw [hkey] at hprops
    cases hprops
    dsimp only at hlevel
    split at hlevel
    · exact absurd hlevel (not_unattested hrequired)
    · rename_i hlength
      refine ⟨⟨.x509Chain, key.certificates, key.clientDataHash, []⟩, l.map .keystore, ?_, hlog,
        .keystore rfl (List.mem_map_of_mem hgenerated) (List.mem_map_of_mem hcertified)
          (not_lt.mp hlength) hlevel⟩
      unfold Backend.attestationChain AndroidKeystorePlugin.attestationChain
      dsimp only
      rw [hkey]
      dsimp only
      rw [if_neg hlength]
  | appleSecureEnclave callback p =>
    obtain ⟨w', p', l, -, rfl, -⟩ := perform_ok h
    unfold Backend.securityProperties AppleSecureEnclavePlugin.securityProperties at hprops
    dsimp only at hprops
    split at hprops
    · cases hprops
    · cases hprops
      exact absurd hlevel (not_unattested hrequired)
  | other p =>
    obtain ⟨w', p', l, -, rfl, -⟩ := perform_ok h
    cases hprops
    exact absurd hlevel (not_unattested hrequired)

end Plugins

/-! ## Behind the manager's -/

section Manager

variable {required : CertificationLevel} {algorithm : Algorithm}
  {sys sys' sys₁ sys₂ : Sys (Backend W) (PluginEnv W)}

theorem PluginEnv.Extends.refl (env : PluginEnv W) : env.Extends env :=
  ⟨rfl, [], (List.append_nil _).symm⟩

theorem PluginEnv.Extends.trans {env env' env'' : PluginEnv W} (h : env.Extends env')
    (h' : env'.Extends env'') : env.Extends env'' := by
  obtain ⟨hhost, l, hlog⟩ := h
  obtain ⟨hhost', l', hlog'⟩ := h'
  exact ⟨hhost'.trans hhost, l ++ l', by rw [hlog', hlog, List.append_assoc]⟩

theorem extends_generateKey (algorithm : Algorithm) (self : Backend W) (env : PluginEnv W) :
    env.Extends (Backend.generateKey algorithm self env).2.2 := by
  cases self <;> exact extends_perform _ _ _ _ _

theorem extends_deleteKey (kid : KeyId) (self : Backend W) (env : PluginEnv W) :
    env.Extends (Backend.deleteKey kid self env).2.2 := by
  cases self <;> exact extends_perform _ _ _ _ _

theorem extends_of_call {α : Type} {p : Plugin (Backend W)} {method : Method}
    {f : PluginM (Backend W) (PluginEnv W) α} {r : Except WscdError α}
    (hf : ∀ self (env : PluginEnv W), env.Extends (f self env).2.2)
    (h : sys.call p method f = (r, sys')) : sys.env.Extends sys'.env := by
  have henv : sys'.env = (f (sys.current p) sys.env).2.2 := by
    rw [show sys' = (sys.call p method f).2 by rw [h]]
    rfl
  rw [henv]
  exact hf _ _

theorem extends_of_attempted {c : String} {o : Outcome}
    (h : Sys.Attempted required algorithm c sys o sys') : sys.env.Extends sys'.env := by
  have hquery : ∀ (kid : KeyId) (self : Backend W) (env : PluginEnv W),
      env.Extends (Sys.query (WscdPlugin.securityProperties kid) self env).2.2 :=
    fun _ _ env => .refl env
  cases h with
  | unresolved _ => exact .refl _
  | generateFailed _ hg => exact extends_of_call (extends_generateKey algorithm) hg
  | collided _ hg _ _ => exact extends_of_call (extends_generateKey algorithm) hg
  | kept _ hg _ hs _ =>
    have hgenerated := extends_of_call (extends_generateKey algorithm) hg
    have hasked := extends_of_call (hquery _) hs
    exact hgenerated.trans hasked
  | discarded _ hg _ hs _ hd | undeletable _ hg _ hs _ hd =>
    have hgenerated := extends_of_call (extends_generateKey algorithm) hg
    have hasked := extends_of_call (hquery _) hs
    have hdeleted := extends_of_call (extends_deleteKey _) hd
    exact (hgenerated.trans hasked).trans hdeleted

theorem extends_of_passedOver {visited : List (String × Outcome)}
    (h : Sys.PassedOver required algorithm visited sys sys') : sys.env.Extends sys'.env := by
  induction h with
  | nil => exact .refl _
  | @cons c o visited sys sys₁ sys₂ hc _ _ ih =>
    have hone := extends_of_attempted (Sys.attempt_attempted required algorithm c sys)
    rw [hc] at hone
    exact hone.trans ih

/-- The plugin a kept key is bound to is the one that made it and confirmed its level. -/
theorem plugin_of_kept {c : String} {generated : GeneratedKey}
    (h : Sys.Attempted required algorithm c sys (.kept generated) sys') :
    ∃ p plugin env props, sys'.manager.plugins.lookup c = some plugin ∧ plugin.id = c ∧
      Backend.generateKey algorithm p sys.env = (.ok generated, plugin.self, env) ∧
      env = sys'.env ∧ Backend.securityProperties generated.kid plugin.self = .ok props ∧
      Sys.certificationRank required ≤ Sys.certificationRank props.certification := by
  cases h with
  | @kept p _ props sys₁ _ hl hg hfree hs hrank =>
    have hid : p.id = c := sys.manager.id_eq _ _ hl
    subst hid
    -- the call that made the key left the plugin as it is now
    have hmade : Backend.generateKey algorithm p.self sys.env =
        (.ok generated, sys₁.current p, sys₁.env) := by
      have hcurrent := Sys.current_of_lookup hl
      have hafter := Sys.call_lookup sys p (.generateKey algorithm)
        (WscdPlugin.generateKey algorithm) p.id
      rw [hg, if_pos rfl] at hafter
      rw [Sys.current_of_lookup hafter, ← hcurrent]
      have hout := congrArg (fun out => (out.1, out.2.env)) hg
      exact Prod.ext (Prod.mk.inj hout).1 (Prod.ext rfl (Prod.mk.inj hout).2)
    have hlast := Sys.call_lookup (sys₁.bind generated.kid p.id) p (.securityProperties
      generated.kid) (Sys.query (WscdPlugin.securityProperties generated.kid)) p.id
    rw [hs, if_pos rfl] at hlast
    have hanswer := Sys.fst_of_call hs
    have henv : sys₁.env = sys'.env := by
      rw [show sys' = _ from (congrArg Prod.snd hs).symm]
      rfl
    exact ⟨p.self, _, sys₁.env, props, hlast, rfl, hmade, henv, hanswer, hrank⟩

end Manager

/-- A key that `generate_key_for_level` returns for a level other than `Unattested` can be shown
to have it, whatever the candidates and the manager's tables are and however many candidates were
tried: the key's plugin is one of them, it hands out a chain for the key, and the chain comes from
the calls of this operation, from an authenticator whose attestation object carries certificates
or from the Keystore, which gave the level and the certificates for the alias it created. -/
theorem level_is_witnessed (sys sys' : Sys (Backend W) (PluginEnv W))
    (hcbor : sys.env.host.ctap.cbor.Lawful) (required : CertificationLevel)
    (hrequired : required ≠ .unattested) (candidates : List String) (algorithm : Algorithm)
    (generated : GeneratedKey)
    (h : sys.generateKeyForLevel required candidates algorithm = (.ok generated, sys')) :
    ∃ plugin chain l,
      sys'.manager.resolveForKey generated.kid "attestation" = .ok plugin ∧
      plugin.id ∈ candidates ∧
      Backend.attestationChain generated.kid plugin.self = .ok (some chain) ∧
      sys'.env.log = sys.env.log ++ l ∧ Witnessed sys.env.host required l chain := by
  obtain ⟨-, hnone⟩ | ⟨visited, c, post, sys₁, o, sys₂, hcandidates, hpassed, hattempted, -,
    hresult, hbound, -⟩ := sys.generateKeyForLevel_walk required candidates algorithm
  · rw [hnone] at h
    cases h
  rw [hresult] at h
  obtain ⟨hkept, rfl⟩ := Prod.mk.inj h
  cases o with
  | kept g =>
    obtain rfl := Except.ok.inj hkept
    obtain ⟨p, plugin, env, props, hlookup, hid, hmade, rfl, hprops, hrank⟩ :=
      plugin_of_kept hattempted
    obtain ⟨hhost, l, hlog⟩ := extends_of_passedOver hpassed
    obtain ⟨chain, l', hchain, hlog', hwitnessed⟩ :=
      witnessed_of_generateKey (hhost ▸ hcbor) hrequired hmade hprops hrank
    refine ⟨plugin, chain, l ++ l', ?_, ?_, hchain, ?_, ?_⟩
    · rw [WscdManager.resolveForKey_of_bound (hbound g rfl),
        WscdManager.getPlugin_of_lookup hlookup]
    · rw [hcandidates, hid]
      simp
    · rw [hlog', hlog, List.append_assoc]
    · rw [← hhost]
      exact hwitnessed.mono fun e he => List.mem_append_right _ he
  | unresolved id => cases hkept
  | generateFailed e => cases hkept
  | collided id g existing => cases hkept
  | discarded g e => cases hkept
  | undeletable g msg => cases hkept

/-! ## A device with StrongBox -/

namespace StrongBoxDemo

/-- The Keystore has a chain of two certificates for every alias. -/
def host : PluginHost (Unit × List Raise) :=
  { FfiWscdManager.refusingHost.bridged with
    keystore :=
      { generate := fun _ _ _ _ _ w => (.ok .strongBox, w)
        certificateChain := fun _ w => (.ok [[1], [2]], w)
        publicKeyJwk := fun _ w => (.ok (SoftkeyHost.pointJwk SoftkeyHost.basePoint), w)
        delete := fun _ w => (.ok (), w) } }

def sys : Sys (Backend (Unit × List Raise)) (PluginEnv (Unit × List Raise)) where
  manager := (WscdManager.new ⟨"softkey", ∅, ∅⟩).registerPlugin
    ⟨AndroidKeystorePlugin.id, .androidKeystore () .new⟩
  env := ⟨host, ((), []), []⟩
  calls := []

end StrongBoxDemo

theorem level_is_witnessed_strongBox :
    ∃ generated sys' chain l,
      StrongBoxDemo.sys.generateKeyForLevel .attestedDedicatedHardware
        ["softkey", "android-keystore"] .es256 = (.ok generated, sys') ∧
      Witnessed StrongBoxDemo.host .attestedDedicatedHardware l chain := by
  have hkid : (StrongBoxDemo.sys.generateKeyForLevel .attestedDedicatedHardware
      ["softkey", "android-keystore"] .es256).1.map GeneratedKey.kid = .ok SoftkeyHost.kidOne := by
    decide +kernel
  obtain ⟨⟨result, sys'⟩, hrun⟩ : ∃ out, StrongBoxDemo.sys.generateKeyForLevel
      .attestedDedicatedHardware ["softkey", "android-keystore"] .es256 = out := ⟨_, rfl⟩
  rw [hrun] at hkid
  obtain ⟨generated, rfl⟩ := exists_of_map_ok hkid
  obtain ⟨plugin, chain, l, -, -, -, -, hwitnessed⟩ := level_is_witnessed StrongBoxDemo.sys _
    cborWire_lawful .attestedDedicatedHardware (by decide) ["softkey", "android-keystore"] .es256
    generated hrun
  exact ⟨generated, _, chain, l, hrun, hwitnessed⟩

end Wscd
