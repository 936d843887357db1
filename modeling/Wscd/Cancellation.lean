import Wscd.Bridges
import Wscd.CryptoLaws
import Wscd.Level

/-!
# A user who says no

The user may cancel in the middle of a candidate's ceremony. The host raises `AuthCancelled`
from whatever callback the ceremony is in, a bridge turns that into an internal error, the
plugin passes the error on, and the candidate loop stops at a cancellation. The bridge of the
CTAP2 transport turns it into text, so there the loop goes on to the next candidate.

Results:
1. `generateKey_passesOn`: a key generation ends with the error a callback raised in it.
2. `cancellation_ends_iff`: exactly without a cancellation inside `ctap2_send_command`, a
   cancellation ends the whole call.
3. `cancelled_touch_goes_on`: a cancellation there, and a key from the next candidate.
-/

namespace Wscd

open Lib PreviewSign ClientPin

variable {W : Type}

/-! ## Ceremonies pass errors on -/

/-- What the outside has raised so far. -/
def raises (w : W × List Raise) : List Raise := w.2

/-- A computation on the outside ends with the error a callback raised in it. -/
abbrev PassesOnRaises {α : Type} (x : HostM (W × List Raise) α) : Prop :=
  Traced.PassesOn raises Raise.bridged x

section Ceremony

variable (host : FfiHost W)

theorem passesOn_recording {E α : Type} {raise : FfiWscdError → Raise}
    {mapErr : FfiWscdError → WscdError} (hraise : ∀ e, (raise e).bridged = mapErr e)
    (f : W → Except FfiWscdError α × W) (event : Except WscdError α → E) :
    Traced.PassesOn raises Raise.bridged (Traced.ask (recording raise mapErr f) event) := by
  intro w
  unfold Traced.ask recording raises
  rcases f w.1 with ⟨e | a, w'⟩
  · exact .inr ⟨raise e, rfl, by rw [hraise]⟩
  · exact .inl rfl

theorem passesOn_lift {α : Type} (r : Except WscdError α) :
    PassesOnRaises (Traced.lift r : HostM (W × List Raise) α) :=
  Traced.Keeps.passesOn fun _ => rfl

theorem passesOn_pure {α : Type} (a : α) :
    PassesOnRaises (pure a : HostM (W × List Raise) α) :=
  Traced.Keeps.passesOn fun _ => rfl

theorem passesOn_randomBytes (n : Nat) :
    PassesOnRaises (HostM.randomBytes host.bridged.rng n) :=
  Traced.Keeps.passesOn fun _ => rfl

theorem passesOn_generateSecret : PassesOnRaises (HostM.generateSecret host.bridged.rng) :=
  Traced.Keeps.passesOn fun _ => rfl

theorem passesOn_onProgress (p : OperationProgress) :
    PassesOnRaises (HostM.onProgress host.bridged.progress p) :=
  Traced.Keeps.passesOn fun _ => rfl

theorem passesOn_sendCommand (command : List UInt8) :
    PassesOnRaises (HostM.sendCommand host.bridged.transport command) :=
  passesOn_recording (fun _ => rfl) _ _

theorem passesOn_requestPinFor (pluginId : String) (kind : PinRequestKind) :
    PassesOnRaises (HostM.requestPinFor host.bridged.auth pluginId kind) := by
  cases kind with
  | enterPin => exact passesOn_recording (fun _ => rfl) _ _
  | setNewPin minLength => exact passesOn_recording (fun _ => rfl) _ _

theorem passesOn_getKeyAgreement (crypto : CtapCrypto) (protocol : PinUvAuthProtocol) :
    PassesOnRaises (getKeyAgreement crypto host.bridged.transport protocol) :=
  (passesOn_sendCommand host _).bind fun _ => passesOn_lift _

theorem passesOn_setPin (crypto : CtapCrypto) (protocol : PinUvAuthProtocol) (pin : List UInt8) :
    PassesOnRaises (setPin crypto host.bridged.transport host.bridged.rng protocol pin) := by
  unfold setPin
  refine (passesOn_generateSecret host).bind fun secret => ?_
  refine (passesOn_getKeyAgreement host crypto protocol).bind fun peer => ?_
  refine (passesOn_lift _).bind fun sharedX => ?_
  refine (passesOn_randomBytes host 16).bind fun iv => ?_
  refine (passesOn_sendCommand host _).bind fun response => ?_
  exact (passesOn_lift _).bind fun _ => passesOn_pure _

theorem passesOn_tokenWithPin (crypto : CtapCrypto) (protocol : PinUvAuthProtocol)
    (pin : List UInt8) (permissions : UInt8) (rpId : Option String) :
    PassesOnRaises (tokenWithPin crypto host.bridged.transport host.bridged.rng protocol pin
      permissions rpId) := by
  unfold tokenWithPin
  refine (passesOn_generateSecret host).bind fun secret => ?_
  refine (passesOn_getKeyAgreement host crypto protocol).bind fun peer => ?_
  refine (passesOn_lift _).bind fun sharedX => ?_
  have hiv : PassesOnRaises (freshIv host.bridged.rng protocol) := by
    cases protocol with
    | one => exact passesOn_pure _
    | two => exact passesOn_randomBytes host 16
  refine hiv.bind fun iv => ?_
  refine (passesOn_sendCommand host _).bind fun response => ?_
  refine (passesOn_lift _).bind fun tokenEnc => ?_
  exact (passesOn_lift _).bind fun token => passesOn_pure _

theorem passesOn_acquirePinUvAuthToken (crypto : CtapCrypto) (pluginId : String)
    (permissions : UInt8) (rpId : Option String) :
    PassesOnRaises (acquirePinUvAuthToken crypto host.bridged.transport host.bridged.rng
      host.bridged.auth pluginId permissions rpId) := by
  unfold acquirePinUvAuthToken readPinInfo
  refine Traced.PassesOn.bind ?_ fun info => ?_
  · refine (passesOn_sendCommand host _).bind fun response => ?_
    exact (passesOn_lift _).bind fun body => passesOn_lift _
  have hentered : PassesOnRaises (tokenWithEnteredPin crypto host.bridged.transport
      host.bridged.rng host.bridged.auth pluginId info permissions rpId) := by
    unfold tokenWithEnteredPin
    refine (passesOn_requestPinFor host _ _).bind fun raw => ?_
    split
    · exact passesOn_lift _
    · exact passesOn_tokenWithPin host _ _ _ _ _
  have hnew : PassesOnRaises (tokenWithNewPin crypto host.bridged.transport host.bridged.rng
      host.bridged.auth pluginId info permissions rpId) := by
    unfold tokenWithNewPin
    refine (passesOn_requestPinFor host _ _).bind fun raw => ?_
    refine (passesOn_lift _).bind fun pin => ?_
    refine (passesOn_setPin host _ _ _).bind fun _ => ?_
    exact passesOn_tokenWithPin host _ _ _ _ _
  cases info.pinState with
  | notSet => exact hnew
  | set => exact hentered
  | unsupported => exact hentered

theorem passesOn_makeCredential (crypto : CtapCrypto) (rpId : String)
    (userId clientDataHash : List UInt8) (input : GenerateKeyInput) :
    PassesOnRaises (makeCredential crypto host.bridged.transport host.bridged.rng
      host.bridged.auth rpId userId clientDataHash input) := by
  unfold makeCredential ceremonyPinUvAuth
  refine Traced.PassesOn.bind ?_ fun pinUvAuth => ?_
  · refine Traced.Keeps.bind_passesOn (fun _ => rfl) fun verifies => ?_
    split
    · exact passesOn_pure _
    · exact (passesOn_acquirePinUvAuthToken host _ _ _ _).bind fun _ => passesOn_pure _
  · exact (passesOn_sendCommand host _).bind fun _ => passesOn_lift _

end Ceremony

/-! ## Key generations pass errors on -/

/-- The same for a call of a plugin, whose state stands beside that of the outside. -/
abbrev PassesOnBeside {E P α : Type} (x : Traced E ((W × List Raise) × P) WscdError α) : Prop :=
  Traced.PassesOn (fun s => raises s.1) Raise.bridged x

section Plugins

variable (host : FfiHost W) (algorithm : Algorithm)

theorem passesOn_onSelf {P α : Type} (f : P → Except WscdError α × P) :
    PassesOnBeside (Backend.onSelf f : HostM ((W × List Raise) × P) α) :=
  Traced.Keeps.passesOn fun _ => rfl

theorem passesOn_softkeyGenerateKey :
    PassesOnBeside (Backend.softkeyGenerateKey host.bridged algorithm) := by
  unfold Backend.softkeyGenerateKey
  refine (passesOn_onProgress host _).embed.bind fun _ => ?_
  refine Traced.Keeps.bind_passesOn (fun _ => rfl) fun secret => ?_
  refine Traced.Keeps.bind_passesOn (fun _ => rfl) fun now => ?_
  refine (passesOn_onSelf _).bind fun generated => ?_
  exact (passesOn_onProgress host _).embed.bind fun _ => Traced.Keeps.passesOn fun _ => rfl

theorem passesOn_fido2GenerateKey :
    PassesOnBeside (Backend.fido2GenerateKey host.bridged algorithm) := by
  unfold Backend.fido2GenerateKey
  split
  · exact Traced.Keeps.passesOn fun _ => rfl
  refine (passesOn_onProgress host _).embed.bind fun _ => ?_
  refine (passesOn_randomBytes host 32).embed.bind fun userId => ?_
  refine (passesOn_randomBytes host 32).embed.bind fun clientDataHash => ?_
  refine (passesOn_onProgress host _).embed.bind fun _ => ?_
  refine (passesOn_makeCredential host _ _ _ _ _).embed.bind fun result => ?_
  have hrest : ∀ ikm, PassesOnBeside (do
      let now ← Backend.outside (Traced.get host.bridged.nowUnix)
      let generated ← Backend.onSelf (Fido2SignPlugin.generateKey host.bridged.fido2 algorithm
        ⟨.ok result, clientDataHash, ikm, now⟩)
      Backend.outside (HostM.onProgress host.bridged.progress .complete)
      pure generated) := by
    intro ikm
    refine Traced.Keeps.bind_passesOn (fun _ => rfl) fun now => ?_
    refine (passesOn_onSelf _).bind fun generated => ?_
    exact (passesOn_onProgress host _).embed.bind fun _ => Traced.Keeps.passesOn fun _ => rfl
  dsimp only
  split
  · exact (passesOn_randomBytes host 32).embed.bind hrest
  · exact hrest []

theorem passesOn_enclaveGenerate (keyTag : String) :
    PassesOnBeside (AppleSecureEnclavePlugin.generate host.bridged.appleSecureEnclave keyTag) :=
  fun s => passesOn_recording (fun _ => rfl) (host.enclave.generateKey keyTag)
    (AppleSecureEnclavePlugin.EnclaveEvent.generated keyTag) s.1

theorem passesOn_enclaveGenerateKey :
    PassesOnBeside
      (AppleSecureEnclavePlugin.generateKey host.bridged.appleSecureEnclave algorithm) := by
  unfold AppleSecureEnclavePlugin.generateKey
  split
  · exact Traced.Keeps.passesOn fun _ => rfl
  refine Traced.Keeps.bind_passesOn (fun _ => rfl) fun _ => ?_
  refine Traced.Keeps.bind_passesOn (fun _ => rfl) fun keyTag => ?_
  refine (passesOn_enclaveGenerate host keyTag).bind fun publicKey => ?_
  refine Traced.Keeps.bind_passesOn (fun _ => rfl) fun kid => ?_
  refine Traced.Keeps.bind_passesOn (fun _ => rfl) fun _ => ?_
  exact Traced.Keeps.bind_passesOn (fun _ => rfl) fun _ =>
    Traced.Keeps.passesOn fun _ => rfl

theorem passesOn_r2psGenerateKey :
    PassesOnBeside (Backend.outside (R2psPlugin.generateKey host.bridged.r2ps host.bridged.spki
      host.bridged.softkey.toDigest host.bridged.r2psClient host.bridged.progress) :
        HostM ((W × List Raise) × R2psPlugin (W × List Raise)) GeneratedKey) := by
  refine Traced.PassesOn.embed (g := raises) ?_
  unfold R2psPlugin.generateKey
  refine (passesOn_onProgress host _).bind fun _ => ?_
  refine (passesOn_onProgress host _).bind fun _ => ?_
  refine Traced.Keeps.bind_passesOn (fun _ => rfl) fun answer => ?_
  refine (passesOn_lift _).bind fun kidBytes => ?_
  refine (passesOn_lift _).bind fun kid => ?_
  refine Traced.Keeps.bind_passesOn (fun _ => rfl) fun listed => ?_
  refine (passesOn_lift _).bind fun keys => ?_
  refine (passesOn_lift _).bind fun info => ?_
  refine (passesOn_lift _).bind fun jwk => ?_
  exact (passesOn_onProgress host _).bind fun _ => passesOn_pure _

/-- No ceremony waits in the Keystore's callbacks. -/
abbrev KeepsRaises {E P α : Type} (x : Traced E ((W × List Raise) × P) WscdError α) : Prop :=
  Traced.Keeps (fun s => raises s.1) x

section AndroidKeystore

open AndroidKeystorePlugin

theorem keeps_publicKeyJwk (keyAlias : String) :
    KeepsRaises (outside (host.bridged.androidKeystore.callback.publicKeyJwk keyAlias)) := by
  intro s
  have hanswer := AndroidKeystoreCallbackBridge.snd_publicKeyJwk host.jsonFromStr host.keystore
    keyAlias s.1
  have hbridging :
      raises (bridging callbackError (host.keystore.publicKeyJwk keyAlias) s.1).2 =
        raises s.1 := rfl
  exact (congrArg raises hanswer).trans hbridging

theorem keeps_deleteAfterFailedGenerate (keyAlias : String) (originalErr : WscdError) :
    KeepsRaises
      (deleteAfterFailedGenerate host.bridged.androidKeystore keyAlias originalErr) := by
  unfold deleteAfterFailedGenerate
  refine Traced.Keeps.bind (fun _ => rfl) fun answer => ?_
  cases answer with
  | ok u => exact fun _ => rfl
  | error deleteErr => exact fun _ => rfl

theorem keeps_cleanUp {α : Type} (keyAlias : String) (e : WscdError) :
    KeepsRaises (deleteAfterFailedGenerate host.bridged.androidKeystore keyAlias e >>=
      fun err => (Traced.lift (.error err) : KeystoreM (W × List Raise) α)) :=
  (keeps_deleteAfterFailedGenerate host keyAlias e).bind fun _ _ => rfl

theorem keeps_bestEffortGenerate (attestationChallenge : List UInt8) :
    KeepsRaises (bestEffortGenerate host.bridged.androidKeystore attestationChallenge) := by
  unfold bestEffortGenerate
  refine Traced.Keeps.bind (fun _ => rfl) fun keyAlias => ?_
  refine Traced.Keeps.bind (fun _ => rfl) fun answer => ?_
  cases answer with
  | ok level => exact fun _ => rfl
  | error e =>
    cases e with
    | strongBoxUnavailable =>
      refine Traced.Keeps.bind (fun _ => rfl) fun deleted => ?_
      cases deleted with
      | error deleteErr => exact fun _ => rfl
      | ok u =>
        refine Traced.Keeps.bind (fun _ => rfl) fun teeAlias => ?_
        refine Traced.Keeps.bind (fun _ => rfl) fun second => ?_
        cases second with
        | ok level => exact fun _ => rfl
        | error e => exact keeps_cleanUp host teeAlias e
    | _ => exact keeps_cleanUp host keyAlias _

theorem keeps_finishGenerateKey (keyAlias : String)
    (securityLevel : AndroidKeystoreSecurityLevel) (attestationChallenge : List UInt8) :
    KeepsRaises (finishGenerateKey host.bridged.androidKeystore keyAlias securityLevel
      attestationChallenge) := by
  unfold finishGenerateKey
  refine Traced.Keeps.bind (fun _ => rfl) fun certificates => ?_
  refine (keeps_publicKeyJwk host keyAlias).bind fun jwk => ?_
  refine Traced.Keeps.bind (fun _ => rfl) fun publicKeyJwk => ?_
  refine Traced.Keeps.bind (fun _ => rfl) fun kid => ?_
  refine Traced.Keeps.bind (fun _ => rfl) fun createdAt => ?_
  exact Traced.Keeps.bind (fun _ => rfl) fun _ _ => rfl

theorem keeps_keystoreGenerateKey :
    KeepsRaises (generateKey host.bridged.androidKeystore algorithm) := by
  unfold generateKey generateKeyWithChallenge
  refine Traced.Keeps.bind (fun _ => rfl) fun challenge => ?_
  split
  · exact fun _ => rfl
  split
  · exact fun _ => rfl
  refine Traced.Keeps.bind (fun _ => rfl) fun _ => ?_
  refine (keeps_bestEffortGenerate host challenge).bind fun ⟨keyAlias, securityLevel⟩ => ?_
  refine (keeps_finishGenerateKey host keyAlias securityLevel challenge).attempt.bind
    fun answer => ?_
  cases answer with
  | ok result => exact Traced.Keeps.bind (fun _ => rfl) fun _ _ => rfl
  | error e => exact keeps_cleanUp host keyAlias e

end AndroidKeystore

/-- The outside has raised nothing more, or one error, and that is the call's. -/
theorem perform_passesOn {E P α : Type} {event : E → PluginEvent}
    {rebuild : P → Backend (W × List Raise)}
    {x : PluginHost (W × List Raise) → Traced E ((W × List Raise) × P) WscdError α} {p : P}
    {env : PluginEnv (W × List Raise)} (hhost : env.host = host.bridged)
    (hx : PassesOnBeside (x host.bridged)) :
    raises (Backend.perform event rebuild x p env).2.2.world = raises env.world ∨
      ∃ r, raises (Backend.perform event rebuild x p env).2.2.world = raises env.world ++ [r] ∧
        (Backend.perform event rebuild x p env).1 = .error r.bridged := by
  rw [← hhost] at hx
  exact hx (env.world, p)

theorem generateKey_passesOn (self : Backend (W × List Raise))
    {env : PluginEnv (W × List Raise)} (hhost : env.host = host.bridged) :
    raises (Backend.generateKey algorithm self env).2.2.world = raises env.world ∨
      ∃ r, raises (Backend.generateKey algorithm self env).2.2.world = raises env.world ++ [r] ∧
        (Backend.generateKey algorithm self env).1 = .error r.bridged := by
  cases self with
  | softkey p => exact perform_passesOn host hhost (passesOn_softkeyGenerateKey host algorithm)
  | fido2 _ p => exact perform_passesOn host hhost (passesOn_fido2GenerateKey host algorithm)
  | androidKeystore _ p =>
    exact perform_passesOn host hhost (keeps_keystoreGenerateKey host algorithm).passesOn
  | appleSecureEnclave _ p =>
    exact perform_passesOn host hhost (passesOn_enclaveGenerateKey host algorithm)
  | other p => exact perform_passesOn host hhost (passesOn_r2psGenerateKey host)

end Plugins

/-! ## A host that stays -/

section Host

variable {required : CertificationLevel} {algorithm : Algorithm} {sys sys' : FfiSys W}

theorem generateKey_host (self : Backend (W × List Raise)) (env : PluginEnv (W × List Raise)) :
    (Backend.generateKey algorithm self env).2.2.host = env.host := by
  cases self <;> rfl

theorem deleteKey_host (kid : KeyId) (self : Backend (W × List Raise))
    (env : PluginEnv (W × List Raise)) : (Backend.deleteKey kid self env).2.2.host = env.host := by
  cases self <;> rfl

theorem host_of_call {α : Type} {p : Plugin (Backend (W × List Raise))} {method : Method}
    {f : PluginM (Backend (W × List Raise)) (PluginEnv (W × List Raise)) α}
    {r : Except WscdError α} (h : sys.call p method f = (r, sys'))
    (hf : ∀ self env, (f self env).2.2.host = env.host) : sys'.env.host = sys.env.host := by
  have hs : sys' = (sys.call p method f).2 := by rw [h]
  rw [hs]
  exact hf _ _

theorem host_of_attempted {c : String} {o : Outcome}
    (h : Sys.Attempted required algorithm c sys o sys') : sys'.env.host = sys.env.host := by
  -- the level is read off the plugin, with nothing of the outside
  have hproperties : ∀ (kid : KeyId) (self : Backend (W × List Raise))
      (env : PluginEnv (W × List Raise)),
      (Sys.query (WscdPlugin.securityProperties kid) self env).2.2.host = env.host :=
    fun _ _ _ => rfl
  have hgenerated : ∀ {p r sys₁}, sys.call p (.generateKey algorithm)
      (WscdPlugin.generateKey algorithm) = (r, sys₁) → sys₁.env.host = sys.env.host :=
    fun hg => host_of_call hg generateKey_host
  cases h with
  | unresolved _ => rfl
  | generateFailed _ hg => exact hgenerated hg
  | collided _ hg _ _ => exact hgenerated hg
  | kept _ hg _ hs _ =>
    have hfirst := hgenerated hg
    exact (host_of_call hs (hproperties _)).trans hfirst
  | discarded _ hg _ hs _ hd =>
    have hfirst := hgenerated hg
    have hsecond := (host_of_call hs (hproperties _)).trans hfirst
    exact (host_of_call hd (deleteKey_host _)).trans hsecond
  | undeletable _ hg _ hs _ hd =>
    have hfirst := hgenerated hg
    have hsecond := (host_of_call hs (hproperties _)).trans hfirst
    exact (host_of_call hd (deleteKey_host _)).trans hsecond

end Host

/-! ## Cancellation -/

/-- The error itself, as the host raised it. -/
def Raise.error : Raise → FfiWscdError
  | requestPin e | requestNewPin e | requestWebauthnAssertion e => e
  | ctap2SendCommand e => e
  | secureEnclaveGenerateKey e => e

namespace FfiWscdManager

/-- The walk over the candidates comes to the plugin `p`, in the state `sys₁`. -/
def Reaches (sys : FfiSys W) (required : CertificationLevel) (candidates : List String)
    (algorithm : Algorithm) (p : Plugin (Backend (W × List Raise))) (sys₁ : FfiSys W) : Prop :=
  ∃ pre post lastErr, candidates = pre ++ p.id :: post ∧
    Passes (Sys.tryCandidate required algorithm) pre (sys, none) (sys₁, lastErr) ∧
    sys₁.manager.plugins.lookup p.id = some p

/-- What the callbacks raise while `p` generates a key. -/
def raisedBy (algorithm : Algorithm) (p : Plugin (Backend (W × List Raise))) (sys₁ : FfiSys W) :
    List Raise :=
  (raises (Backend.generateKey algorithm p.self sys₁.env).2.2.world).drop
    (raises sys₁.env.world).length

/-- A cancellation in a candidate's ceremony ends the call and is its error, and no later
candidate is asked for a key. -/
def CancellationEnds (host : FfiHost W) (required : CertificationLevel)
    (candidates : List String) (algorithm : Algorithm) (sys : FfiSys W) : Prop :=
  ∀ p sys₁, Reaches (inCall host sys) required candidates algorithm p sys₁ →
    (∃ r ∈ raisedBy algorithm p sys₁, r.error.isAuthCancelled = true) →
    (∃ msg, (generateKeyForLevel host required candidates algorithm sys).1 =
      .error (.authCancelled msg)) ∧
    (generateKeyForLevel host required candidates algorithm sys).2.generateCalls =
      sys₁.generateCalls ++ [p.id]

variable {host : FfiHost W} {required : CertificationLevel} {candidates : List String}
  {algorithm : Algorithm} {sys sys₁ : FfiSys W} {p : Plugin (Backend (W × List Raise))}

theorem Reaches.host_eq (h : Reaches (inCall host sys) required candidates algorithm p sys₁) :
    sys₁.env.host = host.bridged := by
  obtain ⟨pre, post, lastErr, -, hpasses, -⟩ := h
  refine hpasses.invariant (I := fun st => st.1.env.host = host.bridged) ?_ rfl
  intro c st st' _ hst hnext
  have hattempt := Sys.attempt_attempted required algorithm c st.1
  rw [(Sys.attempt_of_next hnext).2] at hattempt
  exact (host_of_attempted hattempt).trans hst

/-- A plugin in whose ceremony a callback raised an error fails with it. -/
theorem Reaches.failed (h : Reaches (inCall host sys) required candidates algorithm p sys₁)
    {r : Raise} (hr : r ∈ raisedBy algorithm p sys₁) :
    (Sys.attempt required algorithm p.id sys₁).1 = .generateFailed r.bridged := by
  have hlookup : sys₁.manager.plugins.lookup p.id = some p := by
    obtain ⟨pre, post, lastErr, -, -, hlookup⟩ := h
    exact hlookup
  -- there is one error at most, and it is the one the call fails with
  unfold raisedBy at hr
  rcases generateKey_passesOn host algorithm p.self h.host_eq with hnone | ⟨r', hone, herror⟩
  · rw [hnone, List.drop_length] at hr
    cases hr
  · rw [hone, List.drop_left, List.mem_singleton] at hr
    subst hr
    exact Sys.attempt_of_error hlookup herror

/-- An attempt of a registered plugin is one call of its `generate_key`. -/
theorem Reaches.generateCalls (h : Reaches sys required candidates algorithm p sys₁) :
    (Sys.attempt required algorithm p.id sys₁).2.generateCalls = sys₁.generateCalls ++ [p.id] := by
  obtain ⟨pre, post, lastErr, -, -, hlookup⟩ := h
  rw [(Sys.attempt_attempted required algorithm p.id sys₁).generated.calls]
  have hregistered : sys₁.registered p.id = true := by simp [Sys.registered, hlookup]
  simp [hregistered]

/-- A call that ends with a cancellation has asked some plugin for a key. -/
theorem generateCalls_of_authCancelled
    (h : (sys.generateKeyForLevel required candidates algorithm).1 = .error .authCancelled) :
    sys.generateCalls.length <
      (sys.generateKeyForLevel required candidates algorithm).2.generateCalls.length := by
  rcases Sys.generateKeyForLevel_walk sys required candidates algorithm with
    ⟨-, heq⟩ | ⟨visited, c, post, sys₂, o, sys₃, -, hpassed, hattempt, -, heq, -, hcalls⟩
  · rw [heq] at h
    cases h
  rw [heq] at h ⊢
  -- a candidate that is not registered ends the walk with another error
  have hregistered : sys₂.registered c = true := by
    cases hl : sys₂.manager.plugins.lookup c with
    | some q => simp [Sys.registered, hl]
    | none =>
      cases hattempt with
      | unresolved _ => cases h
      | _ hl' => cases hl.symm.trans hl'
  rw [hpassed.generated.registered] at hregistered
  dsimp only
  rw [hcalls, List.length_append, List.filter_append, List.length_append]
  simp [hregistered]

theorem mapError_authCancelled {α : Type} {r : Except WscdError α} {msg : String}
    (h : r.mapError FfiWscdError.ofWscdError = .error (.authCancelled msg)) :
    r = .error .authCancelled := by
  rcases r with e | a
  · cases e with
    | authCancelled => rfl
    | _ => cases h
  · cases h

/-- Every bridge of a ceremony but one keeps a cancellation. -/
theorem bridged_of_cancelled {r : Raise} (hr : r.error.isAuthCancelled = true)
    (htransport : ∀ e, r = .ctap2SendCommand e → e.isAuthCancelled = false) :
    r.bridged = .authCancelled := by
  have hmsg : ∃ msg, r.error = .authCancelled msg := by
    cases he : r.error with
    | authCancelled msg => exact ⟨msg, rfl⟩
    | _ =>
      rw [he] at hr
      cases hr
  obtain ⟨msg, hmsg⟩ := hmsg
  cases r with
  | ctap2SendCommand e => exact absurd (htransport e rfl) (by simp [show e = _ from hmsg,
      FfiWscdError.isAuthCancelled])
  | _ e =>
    obtain rfl : e = .authCancelled msg := hmsg
    rfl

theorem Reaches.generateKeyForLevel_eq
    (h : Reaches sys required candidates algorithm p sys₁) :
    ∃ post, sys.generateKeyForLevel required candidates algorithm =
      sys₁.generateKeyForLevel required (p.id :: post) algorithm := by
  obtain ⟨pre, post, lastErr, rfl, hpasses, -⟩ := h
  exact ⟨post, Sys.generateKeyForLevel_of_passes hpasses⟩

/-- A call that passes over a candidate and ends with a cancellation has gone on to ask
another one for a key. -/
theorem Reaches.goes_past (h : Reaches sys required candidates algorithm p sys₁) {e : WscdError}
    (hfailed : (Sys.attempt required algorithm p.id sys₁).1 = .generateFailed e)
    (hgoesOn : Sys.stopsOperation e = false)
    (hcancelled : (sys.generateKeyForLevel required candidates algorithm).1 =
      .error .authCancelled) :
    (sys₁.generateCalls ++ [p.id]).length <
      (sys.generateKeyForLevel required candidates algorithm).2.generateCalls.length := by
  obtain ⟨post, hresume⟩ := h.generateKeyForLevel_eq
  have hgoes : (Sys.attempt required algorithm p.id sys₁).1.goesOn = true := by
    rw [hfailed]
    simpa [Outcome.goesOn] using hgoesOn
  rw [hresume, Sys.generateKeyForLevel_of_goesOn post hgoes] at hcancelled ⊢
  by_cases hpost : post = []
  · rw [if_pos hpost, hfailed] at hcancelled
    obtain rfl : e = .authCancelled := Except.error.inj hcancelled
    cases hgoesOn
  · rw [if_neg hpost] at hcancelled ⊢
    rw [← h.generateCalls]
    exact generateCalls_of_authCancelled hcancelled

/-- A cancellation ends every call it comes up in if and only if none comes up in
`ctap2_send_command`. -/
theorem cancellation_ends_iff (host : FfiHost W) (required : CertificationLevel)
    (candidates : List String) (algorithm : Algorithm) (sys : FfiSys W) :
    CancellationEnds host required candidates algorithm sys ↔
      ∀ p sys₁, Reaches (inCall host sys) required candidates algorithm p sys₁ →
        ∀ e, .ctap2SendCommand e ∈ raisedBy algorithm p sys₁ → e.isAuthCancelled = false := by
  constructor
  · intro hends p sys₁ hreaches e hraised
    cases hcancelled : e.isAuthCancelled with
    | false => rfl
    | true =>
      obtain ⟨⟨msg, hmsg⟩, hcalls⟩ :=
        hends p sys₁ hreaches ⟨.ctap2SendCommand e, hraised, hcancelled⟩
      -- the error that is returned is another candidate's
      have hpast := hreaches.goes_past (hreaches.failed hraised) rfl (mapError_authCancelled hmsg)
      exact absurd (congrArg List.length hcalls).symm hpast.ne
  · rintro htransport p sys₁ hreaches ⟨r, hraised, hcancelled⟩
    have hbridged : r.bridged = .authCancelled :=
      bridged_of_cancelled hcancelled fun e he => htransport p sys₁ hreaches e (he ▸ hraised)
    obtain ⟨post, hresume⟩ := hreaches.generateKeyForLevel_eq
    have hattempt : (Sys.attempt required algorithm p.id sys₁).1 =
        .generateFailed .authCancelled := by rw [hreaches.failed hraised, hbridged]
    have hstops : (Sys.attempt required algorithm p.id sys₁).1.goesOn = false := by
      rw [hattempt]
      rfl
    unfold generateKeyForLevel
    rw [hresume, Sys.generateKeyForLevel_of_stops post hstops, hattempt]
    exact ⟨⟨_, rfl⟩, hreaches.generateCalls⟩

/-! ## A refusal at the security key -/

/-- The user refuses at the security key. Nothing else has a user. -/
def refusingHost : FfiHost Unit where
  auth := ⟨fun _ w => (.ok [], w), fun _ _ w => (.ok [], w), fun _ _ _ _ w => (.ok [], w)⟩
  progress := ⟨fun _ w => w⟩
  transport := ⟨fun _ w => (.error (.authCancelled "auth cancelled"), w)⟩
  keystore := ⟨fun _ _ _ _ _ w => (.error (.plugin ""), w), fun _ w => (.error (.plugin ""), w),
    fun _ w => (.error (.plugin ""), w), fun _ w => (.error (.plugin ""), w)⟩
  enclave := ⟨fun _ w => (.error (.plugin ""), w), fun _ w => (.error (.plugin ""), w)⟩
  r2psClient := ⟨fun w => (.error (.other ""), w), fun _ w => (.error (.other ""), w)⟩
  rng := ⟨fun n w => (List.replicate n 0, w), fun w => (⟨1, Arkg.scalar_one_ne_zero⟩, w),
    Rng.length_zeros⟩
  softkeySecret _ w := (SoftkeyHost.secretOne, w)
  nowUnix _ := 0
  softkey := SoftkeyHost.secretOneHost.crypto
  ctap := scalarCrypto
  r2ps := ⟨cborWire, base64urlDecode, fun _ => .error "", fun _ => .error "", fun _ => ""⟩
  spki := ⟨base64urlDecode, fun _ => .error "", fun _ => ""⟩
  jsonFromStr _ := .error ""
  other :=
    { sign := fun _ _ _ self w => (.error .authRequired, self, w)
      listKeys := fun self w => (.ok [], self, w)
      attestationChain := fun _ self w => (.ok none, self, w)
      exportPublicKey := fun kid self w => (.error (.keyNotFound kid.asStr), self, w)
      supportsImport := fun _ _ => false
      importKey := fun _ self w => (.error .authRequired, self, w)
      lifecycleStatus := fun id self w => (.error (.keyNotFound id), self, w)
      registerLifecycle := fun _ self w => (.error .authRequired, self, w)
      activateLifecycle := fun _ self w => (.error .authRequired, self, w)
      rotateLifecycle := fun _ self w => (.error .authRequired, self, w)
      destroyLifecycle := fun _ self w => (.error .authRequired, self, w) }

/-- A security key and a softkey, both without keys. -/
def twoPlugins : FfiSys Unit where
  manager := ((WscdManager.new ⟨"fido2", ∅, ∅⟩).registerPlugin
    ⟨Fido2SignPlugin.id, .fido2 (.ctap2TransportBridge ()) ⟨∅, ∅⟩⟩).registerPlugin
      ⟨SoftkeyPlugin.id, .softkey .new⟩
  env := ⟨refusingHost.bridged, ((), []), []⟩
  calls := []

/-- The user cancels at the security key and is given a softkey. -/
theorem cancelled_touch_goes_on :
    ¬ CancellationEnds refusingHost .unattested ["fido2", "softkey"] .es256 twoPlugins ∧
      (generateKeyForLevel refusingHost .unattested ["fido2", "softkey"] .es256
        twoPlugins).1.map GeneratedKey.kid = .ok SoftkeyHost.kidOne := by
  have hkey : (generateKeyForLevel refusingHost .unattested ["fido2", "softkey"] .es256
      twoPlugins).1.map GeneratedKey.kid = .ok SoftkeyHost.kidOne := by decide +kernel
  refine ⟨fun hends => ?_, hkey⟩
  have hreaches : Reaches (inCall refusingHost twoPlugins) .unattested ["fido2", "softkey"] .es256
      ⟨Fido2SignPlugin.id, .fido2 (.ctap2TransportBridge ()) ⟨∅, ∅⟩⟩ twoPlugins :=
    ⟨[], ["softkey"], none, rfl, .nil, rfl⟩
  obtain ⟨⟨msg, hmsg⟩, -⟩ := hends _ _ hreaches
    ⟨.ctap2SendCommand (.authCancelled "auth cancelled"), List.mem_singleton.mpr rfl, rfl⟩
  rw [hmsg] at hkey
  cases hkey

end FfiWscdManager

end Wscd
