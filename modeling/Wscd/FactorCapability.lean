import Wscd.FactorSoundness
import Wscd.Manager
import Wscd.Plugins.AndroidKeystore
import Wscd.Plugins.AppleSecureEnclave
import Wscd.Plugins.Softkey

/-!
# What a plugin says it can report

Before the user consents, the host asks whether a signature with a key could reach two
categories of factors, and by whose means. Each plugin answers from what it is, without asking
anyone. The answer is here compared with what a signature with that key reports afterwards.

Results:
1. `deriveFactors_eq`: the factors of a signature and the reason, in one.
2. `signWithFactors_ok` for both plugins that report factors: what the factors are derived from.
3. `capability_is_kept`: a plugin that cannot reports nothing, one that can reports a PIN of that
   very call and needs no word of the host, and one that needs it never asks for a PIN.
-/

namespace Wscd

open Lib

/-- Could a signature reach two categories, and with whose help? -/
structure FactorCapability where
  canReachTwoCategories : Bool
  /-- Only with a factor that the host vouches for. -/
  requiresHostVerifiedFactor : Bool
  reason : Option String
  deriving DecidableEq, Repr

namespace FactorCapability

def cannot (reason : String) : FactorCapability := ⟨false, false, some reason⟩

def can : FactorCapability := ⟨true, false, none⟩

def withHostFactor (reason : String) : FactorCapability := ⟨false, true, some reason⟩

end FactorCapability

/-- No factor can be established. -/
def AuthFactors.noneFor (reason : String) : AuthFactors := .new [] (some reason)

/-! ## The plugins -/

variable {W : Type}

def reportsNoFactors (id : String) : String :=
  s!"plugin {id} does not report TS12 authentication factors"

/-- The trait's own `sign_with_factors`, around the `sign` of the plugin. -/
def WscdPlugin.signWithFactors (id : String) (sign : HostM W Signature) (options : SignOptions) :
    HostM W SignOutcome := do
  Traced.lift options.validate
  if options.requireFreshUserAuthentication then
    Traced.lift (.error (.unsupported id "require_fresh_user_authentication"))
  else
    let signature ← sign
    return ⟨signature, .noneFor (reportsNoFactors id)⟩

/-- The trait's own `authentication_capability`. -/
def WscdPlugin.authenticationCapability (id : String) : Except WscdError FactorCapability :=
  .ok (.cannot (reportsNoFactors id))

def SoftkeyPlugin.authenticationCapability (kid : KeyId) (self : SoftkeyPlugin) :
    Except WscdError FactorCapability :=
  match self.keys.lookup kid.asStr with
  | none => .error (.keyNotFound kid.asStr)
  | some _ => .ok (.cannot
      "a software key applies no user verification and has no TS12 possession method")

/-- Whether an authenticator says how it verified the user is only known once it has signed. -/
def Fido2SignPlugin.authenticationCapability (verifies : Bool) (kid : KeyId)
    (self : Fido2SignPlugin) : Except WscdError FactorCapability :=
  match self.findKey kid with
  | .error e => .error e
  | .ok _ => .ok (if verifies then .withHostFactor
      ("the transport performs user verification itself; if the authenticator " ++
        "supports WebAuthn's uvm extension the manager may derive the factor itself, " ++
        "but that is only known once the sign runs - until then, or if it doesn't, " ++
        "the host must supply host_verified_factor")
    else .can)

def R2psPlugin.authenticationCapability (config : R2psConfig) :
    Except WscdError FactorCapability :=
  .ok (if config.authMode = "opaque" then .can
    else if config.authMode = "webauthn" then .withHostFactor
      ("WebAuthn user verification does not say how the user was verified unless " ++
        "the host's ceremony requested the uvm extension and it classifies cleanly " ++
        "(known only once the sign runs); until then, or if it doesn't, " ++
        "the host must supply host_verified_factor")
    else .cannot s!"unknown R2PS auth mode: {config.authMode}")

/-- What signs behind a plugin of hardware keys: alias or tag, and data. -/
abbrev HardwareSign (W : Type) : Type :=
  String → List UInt8 → W → Except WscdError (List UInt8) × W

/-- A plugin with what is around it, as far as signing goes. Where it has a state of its own this
is the one its lock shows at the moment. -/
inductive SigningPlugin (W : Type) where
  | softkey (crypto : SoftkeyCrypto) (self : W → SoftkeyPlugin) (progress : ProgressCallback W)
  | fido2 (crypto : Fido2SignCrypto) (host : Fido2Host W)
  | r2ps (wire : R2psWire) (config : R2psConfig) (host : R2psHost W) (nfc : String → String)
  | androidKeystore (self : W → AndroidKeystorePlugin) (sign : HardwareSign W)
      (progress : ProgressCallback W)
  | appleSecureEnclave (self : W → AppleSecureEnclavePlugin) (sign : HardwareSign W)
      (progress : ProgressCallback W)

namespace SigningPlugin

def softkeySign (crypto : SoftkeyCrypto) (self : W → SoftkeyPlugin)
    (progress : ProgressCallback W) (kid : KeyId) (data : List UInt8) : HostM W Signature := do
  HostM.onProgress progress (.started "sign")
  let plugin ← Traced.get self
  let signature ← Traced.lift (plugin.sign crypto kid data)
  HostM.onProgress progress .complete
  return signature

/-- The hardware's answer under the name it knows the key by. -/
def hardwareSign (sign : HardwareSign W) (name : String) (data : List UInt8) :
    HostM W Signature := do
  let answer ← Traced.update (sign name data)
  let bytes ← Traced.lift answer
  return ⟨bytes⟩

def androidSign (self : W → AndroidKeystorePlugin) (sign : HardwareSign W)
    (progress : ProgressCallback W) (kid : KeyId) (data : List UInt8) : HostM W Signature := do
  let plugin ← Traced.get self
  let key ← Traced.lift (plugin.findKey kid)
  HostM.onProgress progress (.started "sign")
  let signature ← hardwareSign sign key.keyAlias data
  HostM.onProgress progress .complete
  return signature

def appleSign (self : W → AppleSecureEnclavePlugin) (sign : HardwareSign W)
    (progress : ProgressCallback W) (kid : KeyId) (data : List UInt8) (algorithm : Algorithm) :
    HostM W Signature := do
  if algorithm ≠ .es256 then
    Traced.lift (.error (.unsupported AppleSecureEnclavePlugin.id s!"sign({algorithm.asStr})"))
  else
    HostM.onProgress progress (.started "sign")
    let plugin ← Traced.get self
    let keyTag ← Traced.lift (match plugin.keys.lookup kid.asStr with
      | none => .error (.keyNotFound kid.asStr)
      | some key => .ok key.keyTag)
    let signature ← hardwareSign sign keyTag data
    HostM.onProgress progress .complete
    return signature

def signWithFactors (auth : AuthCallback W) (kid : KeyId) (data : List UInt8)
    (algorithm : Algorithm) (options : SignOptions) : SigningPlugin W → HostM W SignOutcome
  | softkey crypto self progress => WscdPlugin.signWithFactors SoftkeyPlugin.id
      (softkeySign crypto self progress kid data) options
  | fido2 crypto host => Fido2SignPlugin.signWithFactors crypto host auth kid data options
  | r2ps wire config host nfc =>
    R2psPlugin.signWithFactors wire config auth host nfc kid data options
  | androidKeystore self sign progress => WscdPlugin.signWithFactors AndroidKeystorePlugin.id
      (androidSign self sign progress kid data) options
  | appleSecureEnclave self sign progress => WscdPlugin.signWithFactors
      AppleSecureEnclavePlugin.id (appleSign self sign progress kid data algorithm) options

def authenticationCapability (kid : KeyId) (w : W) :
    SigningPlugin W → Except WscdError FactorCapability
  | softkey _ self _ => (self w).authenticationCapability kid
  | fido2 _ host =>
    (host.plugin w).authenticationCapability (host.transport.performsUserVerification w) kid
  | r2ps _ config _ _ => R2psPlugin.authenticationCapability config
  | androidKeystore _ _ _ => WscdPlugin.authenticationCapability AndroidKeystorePlugin.id
  | appleSecureEnclave _ _ _ => WscdPlugin.authenticationCapability AppleSecureEnclavePlugin.id

/-- The class of a PIN the plugin authenticated with. -/
def pinMethod (raw : Secret) : SigningPlugin W → Option String
  | fido2 crypto _ => classifySecret (ClientPin.normalizePin crypto.nfc raw)
  | _ => classifySecret raw

/-- A transport leads to raw authenticators or to a browser, and does not change its mind. -/
def Steady : SigningPlugin W → Prop
  | fido2 _ host => ∃ verifies, ∀ w, host.transport.performsUserVerification w = verifies
  | _ => True

end SigningPlugin

namespace WscdManager

def signWithFactors (m : WscdManager (SigningPlugin W)) (auth : AuthCallback W) (kid : KeyId)
    (data : List UInt8) (algorithm : Algorithm) (options : SignOptions) :
    HostM W SignOutcome := do
  let plugin ← Traced.lift (m.resolveForKey kid "sign")
  plugin.self.signWithFactors auth kid data algorithm options

def authenticationCapability (m : WscdManager (SigningPlugin W)) (kid : KeyId) (w : W) :
    Except WscdError FactorCapability := do
  let plugin ← m.resolveForKey kid "sign"
  plugin.self.authenticationCapability kid w

end WscdManager

/-! ## The factors and the reason -/

/-- Why a signature has no second factor. -/
def missingReason (pin : Option (Option String)) (uvObservedUnspecified : Bool)
    (reason : String) : String :=
  match pin with
  | some _ => "the PIN entered for this sign could not be classified"
  | none =>
    if uvObservedUnspecified then
      "user verification was performed but its method is not reported; " ++
        "the host must supply host_verified_factor"
    else reason

section Derive

variable {possession : String} (pin : Option (Option String)) (uvObservedUnspecified : Bool)
  (pluginVerifiedFactor : Option AuthFactor) (options : SignOptions) (reason : String)

theorem AuthFactors.new_possessed (hpossession : possession ∈ FactorCategory.possession.methods)
    (reason : String) :
    AuthFactors.new [⟨.possession, possession⟩] (some reason) =
      ⟨[⟨.possession, possession⟩], some reason⟩ := by
  have hvocabulary : AuthFactor.InVocabulary ⟨.possession, possession⟩ := hpossession
  have hcount : [(⟨.possession, possession⟩ : AuthFactor)].foldl AuthFactors.count
      ([], some reason) = ([⟨.possession, possession⟩], some reason) :=
    AuthFactors.count_of_not_mem hvocabulary List.not_mem_nil
  unfold AuthFactors.new
  simp only [hcount]
  rfl

theorem AuthFactors.new_verified (hpossession : possession ∈ FactorCategory.possession.methods)
    {f : AuthFactor} (hf : Verifies f) :
    AuthFactors.new [⟨.possession, possession⟩, f] none =
      ⟨[⟨.possession, possession⟩, f], none⟩ := by
  have hvocabulary : AuthFactor.InVocabulary ⟨.possession, possession⟩ := hpossession
  have hne : f ≠ ⟨.possession, possession⟩ := by
    rintro rfl
    exact hf.1 rfl
  have htwo : AuthFactors.satisfiesTwoCategories [⟨.possession, possession⟩, f] = true := by
    simp [AuthFactors.satisfiesTwoCategories, hf.1]
  have hcount : [⟨.possession, possession⟩, f].foldl AuthFactors.count ([], none) =
      ([⟨.possession, possession⟩, f], none) := by
    rw [List.foldl_cons, AuthFactors.count_of_not_mem hvocabulary List.not_mem_nil]
    exact AuthFactors.count_of_not_mem hf.2 (by simpa using hne)
  unfold AuthFactors.new
  simp only [hcount]
  exact if_pos htwo

theorem deriveFactors_eq (hpossession : possession ∈ FactorCategory.possession.methods)
    (hpin : ∀ m, pin = some (some m) → m ∈ FactorCategory.knowledge.methods)
    (hplugin : ∀ f, pluginVerifiedFactor = some f → Verifies f)
    (hvalid : options.validate = .ok ()) :
    deriveFactors possession pin uvObservedUnspecified pluginVerifiedFactor options reason =
      match secondFactor pin uvObservedUnspecified pluginVerifiedFactor options with
      | some f => ⟨[⟨.possession, possession⟩, f], none⟩
      | none => ⟨[⟨.possession, possession⟩],
          some (missingReason pin uvObservedUnspecified reason)⟩ := by
  have hverifies := (deriveFactors_factors pin uvObservedUnspecified pluginVerifiedFactor options
    reason hpossession hpin hplugin hvalid).2
  rcases pin with - | - | m
  · cases uvObservedUnspecified with
    | false => exact AuthFactors.new_possessed hpossession reason
    | true =>
      unfold deriveFactors secondFactor
      dsimp only
      rw [if_pos rfl, if_pos rfl]
      cases hor : pluginVerifiedFactor.or options.hostVerifiedFactor with
      | none => exact AuthFactors.new_possessed hpossession _
      | some f => exact AuthFactors.new_verified hpossession (hverifies f hor)
  · exact AuthFactors.new_possessed hpossession _
  · exact AuthFactors.new_verified hpossession (hverifies _ rfl)

end Derive

/-! ## The fido2 plugin -/

/-- What a call has asked of the user: one PIN, or none. -/
def AskedPin (pluginId : String) (asks : Bool) (l : List HostEvent) : Prop :=
  match asks with
  | true => ∃ raw, givenPins l = [(pluginId, raw)]
  | false => ∀ e ∈ l, e.isPinRequest = false

theorem givenPins_of_quiet {l : List HostEvent} (h : ∀ e ∈ l, e.isPinRequest = false) :
    givenPins l = [] := by
  rw [givenPins, List.filterMap_eq_nil_iff]
  intro e he
  have hquiet := h e he
  cases e <;> first | rfl | cases hquiet

section Fido2

open PreviewSign Fido2SignPlugin

/-- An assertion asks for a PIN exactly where the transport does not verify the user. -/
theorem PreviewSign.getAssertion_asked {crypto : CtapCrypto} {transport : Ctap2Transport W}
    {rng : Rng W} {auth : AuthCallback W} {rpId : String} {challenge credentialId : List UInt8}
    {sign : SignInput} {w w' : W} {l : List HostEvent} {r : SignResult}
    (h : PreviewSign.getAssertion crypto transport rng auth rpId challenge credentialId sign w =
      (.ok r, w', l)) :
    AskedPin "fido2" (!transport.performsUserVerification w) l := by
  obtain ⟨pinUvAuth, exchange, response, rfl, hverified, hverifies, -⟩ := getAssertion_ok h
  cases hverified with
  | byTransport =>
    rw [hverifies.mpr rfl]
    intro e he
    obtain rfl := List.mem_singleton.mp he
    rfl
  | @byPin session raw exchange htoken =>
    have hnot : transport.performsUserVerification w = false :=
      Bool.eq_false_iff.mpr fun htrue => nomatch hverifies.mp htrue
    rw [hnot]
    show ∃ raw, givenPins _ = [("fido2", raw)]
    rw [givenPins_append, htoken.givenPins]
    exact ⟨raw, rfl⟩

variable {crypto : Fido2SignCrypto} {host : Fido2Host W} {auth : AuthCallback W} {kid : KeyId}
  {data : List UInt8} {verifies : Bool} {options : SignOptions} {w w' : W} {l : List HostEvent}

/-- So does a signature, which asks for nothing else. -/
theorem Fido2SignPlugin.signInner_asked
    (hsteady : ∀ w, host.transport.performsUserVerification w = verifies)
    {result : Signature × Bool × Option AuthFactor}
    (h : signInner crypto host auth kid data w = (.ok result, w', l)) :
    AskedPin "fido2" (!verifies) l := by
  unfold signInner at h
  obtain ⟨_, w₁, l₁, l₂, hstarted, h₁, rfl⟩ := Traced.bind_ok_iff.mp h
  obtain ⟨self, w₂, l₃, l₄, hself, h₂, rfl⟩ := Traced.bind_ok_iff.mp h₁
  obtain ⟨key, w₃, l₅, l₆, hkey, h₃, rfl⟩ := Traced.bind_ok_iff.mp h₂
  obtain ⟨_, w₄, l₇, l₈, hwaiting, h₄, rfl⟩ := Traced.bind_ok_iff.mp h₃
  obtain ⟨challenge, w₅, l₉, l₁₀, hchallenge, h₅, rfl⟩ := Traced.bind_ok_iff.mp h₄
  obtain ⟨tbs, w₆, l₁₁, l₁₂, htbs, h₆, rfl⟩ := Traced.bind_ok_iff.mp h₅
  obtain ⟨r, w₇, l₁₃, l₁₄, hassertion, h₇, rfl⟩ := Traced.bind_ok_iff.mp h₆
  obtain ⟨_, w₈, l₁₅, l₁₆, hcomplete, h₈, rfl⟩ := Traced.bind_ok_iff.mp h₇
  obtain ⟨bytes, w₉, l₁₇, l₁₈, hdecode, h₉, rfl⟩ := Traced.bind_ok_iff.mp h₈
  obtain ⟨-, rfl⟩ := Traced.modify_ok_iff.mp hstarted
  obtain ⟨-, -, rfl⟩ := Traced.get_ok_iff.mp hself
  obtain ⟨-, -, rfl⟩ := Traced.lift_ok_iff.mp hkey
  obtain ⟨-, rfl⟩ := Traced.modify_ok_iff.mp hwaiting
  obtain ⟨-, rfl⟩ := Traced.draw_ok_iff.mp hchallenge
  obtain ⟨-, -, rfl⟩ := Traced.lift_ok_iff.mp htbs
  obtain ⟨-, rfl⟩ := Traced.modify_ok_iff.mp hcomplete
  obtain ⟨-, -, rfl⟩ := Traced.lift_ok_iff.mp hdecode
  obtain ⟨-, -, rfl⟩ := Traced.pure_ok_iff.mp h₉
  have hasked := getAssertion_asked hassertion
  rw [hsteady] at hasked
  simp only [List.nil_append, List.append_nil, List.singleton_append]
  cases verifies with
  | true =>
    intro e he
    rcases List.mem_cons.mp he with rfl | he
    · rfl
    · exact hasked e he
  | false => exact hasked

theorem Fido2SignPlugin.signWithFactors_ok
    (hsteady : ∀ w, host.transport.performsUserVerification w = verifies) {outcome : SignOutcome}
    (h : Fido2SignPlugin.signWithFactors crypto host auth kid data options w =
      (.ok outcome, w', l)) :
    options.validate = .ok () ∧ (options.requireFreshUserAuthentication && verifies) = false ∧
      AskedPin "fido2" (!verifies) l ∧
      ∃ (userVerified : Bool) (verifiedFactor : Option AuthFactor),
        (∀ f, verifiedFactor = some f → Verifies f) ∧ outcome.factors =
          if userVerified then
            deriveFactors "key_in_local_external_wscd"
              ((givenPins l).map fun (pluginId, raw) =>
                classifyPin crypto.nfc pluginId raw).getLast?
              verifies verifiedFactor options
              ("no PIN was requested for this sign and the transport did not perform " ++
                "user verification")
          else
            deriveFactors "key_in_local_external_wscd" none false none options
              "the assertion did not carry the user-verified flag" := by
  unfold Fido2SignPlugin.signWithFactors at h
  obtain ⟨_, w₁, l₁, l₂, hvalidRun, h₁, rfl⟩ := Traced.bind_ok_iff.mp h
  obtain ⟨hvalid, rfl, rfl⟩ := Traced.lift_ok_iff.mp hvalidRun
  obtain ⟨verifies₁, w₂, l₃, l₄, hverifies, h₂, rfl⟩ := Traced.bind_ok_iff.mp h₁
  obtain ⟨rfl, rfl, rfl⟩ := Traced.get_ok_iff.mp hverifies
  rw [hsteady] at h₂
  split at h₂
  · obtain ⟨herror, -, -⟩ := Traced.lift_ok_iff.mp h₂
    cases herror
  rename_i hfresh
  obtain ⟨⟨⟨signature, userVerified, verifiedFactor⟩, pins⟩, w₃, l₅, l₆, hlocal, h₃, rfl⟩ :=
    Traced.bind_ok_iff.mp h₂
  obtain ⟨verifies₂, w₄, l₇, l₈, hverifies', h₄, rfl⟩ := Traced.bind_ok_iff.mp h₃
  obtain ⟨rfl, rfl, rfl⟩ := Traced.get_ok_iff.mp hverifies'
  obtain ⟨rfl, rfl, rfl⟩ := Traced.pure_ok_iff.mp h₄
  have hinner := Traced.withLocal_ok_iff.mp hlocal
  have hpins := (records_signInner crypto host auth kid data).pins_eq _ hinner
  have hasked : AskedPin "fido2" (!verifies) _ :=
    signInner_asked (by exact fun w => hsteady w.1) hinner
  obtain ⟨key, tbs, pinUvAuth, r, -, -, ⟨_, _, _, -, -, hparse⟩, -, rfl, rfl⟩ := signInner_ok hinner
  simp only [List.nil_append, List.append_nil]
  refine ⟨hvalid, Bool.eq_false_iff.mpr hfresh, hasked, r.userVerified, r.verifiedFactor,
    fun f hf => parseGetAssertionResponse_verifies hparse hf, ?_⟩
  rw [hpins, hsteady]

/-- Over a raw transport the host's factor is not looked at. -/
theorem Fido2SignPlugin.signWithFactors_congr
    (hsteady : ∀ w, host.transport.performsUserVerification w = false) {options' : SignOptions}
    (hvalid : options.validate = .ok ()) (hvalid' : options'.validate = .ok ())
    (hfresh : options'.requireFreshUserAuthentication = options.requireFreshUserAuthentication) :
    Fido2SignPlugin.signWithFactors crypto host auth kid data options' w =
      Fido2SignPlugin.signWithFactors crypto host auth kid data options w := by
  have hget : host.transport.performsUserVerification = fun _ => false := funext hsteady
  have hread : ∀ {α : Type} (f : Bool → HostM W α), (Traced.get (fun _ => false) >>= f) = f false :=
    fun _ => rfl
  unfold Fido2SignPlugin.signWithFactors
  rw [hvalid, hvalid', hfresh, hget]
  simp only [hread]
  rfl

end Fido2

/-! ## The R2PS plugin -/

section R2ps

open R2psPlugin

variable {wire : R2psWire} {config : R2psConfig} {auth : AuthCallback W} {host : R2psHost W}
  {nfc : String → String} {kid : KeyId} {data : List UInt8} {options : SignOptions} {w w' : W}
  {l : List HostEvent} {outcome : SignOutcome}

/-- In WebAuthn mode no PIN is asked for, and what is known of the verification is what the
record of the ceremony knows. In OPAQUE mode there is the PIN of this call, if there is one. -/
theorem R2psPlugin.signWithFactors_ok
    (h : R2psPlugin.signWithFactors wire config auth host nfc kid data options w =
      (.ok outcome, w', l)) :
    options.validate = .ok () ∧
      ((config.authMode = "webauthn" ∧ options.requireFreshUserAuthentication = false ∧
          AskedPin "r2ps" false l ∧
          ∃ (userVerified : Bool) (verifiedFactor : Option AuthFactor),
            (∀ f, verifiedFactor = some f → Verifies f) ∧ outcome.factors =
              deriveFactors "key_in_remote_wscd" none userVerified verifiedFactor options
                "the WebAuthn assertion did not carry the user-verified flag") ∨
        (config.authMode = "opaque" ∧
          ∃ pin : Option Secret, givenPins l = (pin.map fun raw => ("r2ps", raw)).toList ∧
            (pin = none → options.requireFreshUserAuthentication = false) ∧ outcome.factors =
              deriveFactors "key_in_remote_wscd" (pin.map classifySecret) false none options
                ("no PIN was entered for this sign: a cached session was reused " ++
                  "(set require_fresh_user_authentication)"))) := by
  unfold R2psPlugin.signWithFactors at h
  obtain ⟨_, w₁, l₁, l₂, hvalidRun, h₁, rfl⟩ := Traced.bind_ok_iff.mp h
  obtain ⟨hvalid, rfl, rfl⟩ := Traced.lift_ok_iff.mp hvalidRun
  split at h₁
  · obtain ⟨herror, -, -⟩ := Traced.lift_ok_iff.mp h₁
    cases herror
  rename_i hfresh
  obtain ⟨_, w₂, l₃, l₄, hstarted, h₂, rfl⟩ := Traced.bind_ok_iff.mp h₁
  obtain ⟨_, w₃, l₅, l₆, hwaiting, h₃, rfl⟩ := Traced.bind_ok_iff.mp h₂
  obtain ⟨-, rfl⟩ := Traced.modify_ok_iff.mp hstarted
  obtain ⟨-, rfl⟩ := Traced.modify_ok_iff.mp hwaiting
  simp only [List.nil_append]
  refine ⟨hvalid, ?_⟩
  split at h₃
  · rename_i hmode
    obtain ⟨_, w₄, l₇, l₈, hround, h₄, rfl⟩ := Traced.bind_ok_iff.mp h₃
    obtain ⟨⟨signature, record⟩, w₅, l₉, l₁₀, hsad, h₅, rfl⟩ := Traced.bind_ok_iff.mp h₄
    obtain ⟨_, w₆, l₁₁, l₁₂, hamr, h₆, rfl⟩ := Traced.bind_ok_iff.mp h₅
    obtain ⟨_, w₇, l₁₃, l₁₄, hcomplete, h₇, rfl⟩ := Traced.bind_ok_iff.mp h₆
    obtain ⟨-, rfl⟩ := Traced.modify_ok_iff.mp hround
    obtain ⟨-, rfl⟩ := Traced.modify_ok_iff.mp hamr
    obtain ⟨-, rfl⟩ := Traced.modify_ok_iff.mp hcomplete
    obtain ⟨rfl, -, rfl⟩ := Traced.pure_ok_iff.mp h₇
    simp only [List.nil_append, List.append_nil]
    obtain ⟨rfl, hquiet⟩ := signWithSad_ok hsad
    exact .inl ⟨hmode, by simpa [hmode] using hfresh, hquiet, _, _,
      fun _ hf => verifies_of_agreedVerifiedFactor wire hf, rfl⟩
  · obtain ⟨⟨signature, pins⟩, w₄, l₇, l₈, hlocal, h₄, rfl⟩ := Traced.bind_ok_iff.mp h₃
    obtain ⟨_, w₅, l₉, l₁₀, hcomplete, h₅, rfl⟩ := Traced.bind_ok_iff.mp h₄
    obtain ⟨-, rfl⟩ := Traced.modify_ok_iff.mp hcomplete
    obtain ⟨rfl, -, rfl⟩ := Traced.pure_ok_iff.mp h₅
    simp only [List.append_nil]
    have hopaque := Traced.withLocal_ok_iff.mp hlocal
    have hpins := (records_signOpaque nfc host.client.toR2psSession host.progress host.setLastAmr
      options.requireFreshUserAuthentication).pins_eq _ hopaque
    obtain ⟨hmode, ⟨raw, rfl⟩ | ⟨hcached, rfl⟩⟩ := signOpaque_ok hopaque
    · exact .inr ⟨hmode, some raw, rfl, by simp, by rw [hpins]; rfl⟩
    · exact .inr ⟨hmode, none, rfl, fun _ => hcached, by rw [hpins]; rfl⟩

theorem R2psPlugin.signWithFactors_congr (hmode : config.authMode = "opaque")
    {options' : SignOptions} (hvalid : options.validate = .ok ())
    (hvalid' : options'.validate = .ok ())
    (hfresh : options'.requireFreshUserAuthentication = options.requireFreshUserAuthentication) :
    R2psPlugin.signWithFactors wire config auth host nfc kid data options' w =
      R2psPlugin.signWithFactors wire config auth host nfc kid data options w := by
  have hother : config.authMode ≠ "webauthn" := by
    rw [hmode]
    decide
  unfold R2psPlugin.signWithFactors
  rw [hvalid, hvalid', hfresh]
  simp only [if_neg hother]
  rfl

end R2ps

/-! ## The promise -/

namespace SigningPlugin

/-- Why a PIN of this call does not make a second factor. -/
def pinReasons : List String :=
  ["the PIN entered for this sign could not be classified",
    "the assertion did not carry the user-verified flag"]

/-- Why a verification that the host vouches for does not. -/
def verificationReasons : List String :=
  ["the assertion did not carry the user-verified flag",
    "the WebAuthn assertion did not carry the user-verified flag"]

/-- Possession and the PIN of this very call, or possession alone. A caller that asks for a fresh
authentication is not told that there was none. -/
def FromPin (plugin : SigningPlugin W) (options : SignOptions) (l : List HostEvent)
    (factors : AuthFactors) : Prop :=
  ∃ possession : AuthFactor, possession.category = .possession ∧
    ((∃ pluginId raw method, givenPins l = [(pluginId, raw)] ∧
        plugin.pinMethod raw = some method ∧
        factors = ⟨[possession, ⟨.knowledge, method⟩], none⟩) ∨
      ∃ reason, factors = ⟨[possession], some reason⟩ ∧
        (options.requireFreshUserAuthentication = true → reason ∈ pinReasons))

/-- Possession and a verification that was observed, or possession alone. No PIN is asked for,
and with the host's word only an assertion without verification falls short. -/
def FromVerification (options : SignOptions) (l : List HostEvent) (factors : AuthFactors) : Prop :=
  (∀ e ∈ l, e.isPinRequest = false) ∧ options.requireFreshUserAuthentication = false ∧
    ∃ possession : AuthFactor, possession.category = .possession ∧
      ((∃ f, Verifies f ∧ factors = ⟨[possession, f], none⟩) ∨
        ∃ reason, factors = ⟨[possession], some reason⟩ ∧
          (options.hostVerifiedFactor.isSome = true → reason ∈ verificationReasons))

/-- A signature keeps what was announced for its key. -/
structure Keeps (plugin : SigningPlugin W) (capability : FactorCapability)
    (sign : SignOptions → HostM W SignOutcome) (options : SignOptions) (w w' : W)
    (l : List HostEvent) (outcome : SignOutcome) : Prop where
  cannot : capability.canReachTwoCategories = false →
    capability.requiresHostVerifiedFactor = false →
    outcome.factors.factors = [] ∧ outcome.factors.shortfall.isSome = true
  fromPin : capability.canReachTwoCategories = true →
    plugin.FromPin options l outcome.factors
  /-- The host's factor makes no difference. -/
  withoutHost : capability.canReachTwoCategories = true →
    ∀ options' : SignOptions, options'.validate = .ok () →
      options'.requireFreshUserAuthentication = options.requireFreshUserAuthentication →
      sign options' w = (.ok outcome, w', l)
  fromVerification : capability.requiresHostVerifiedFactor = true →
    FromVerification options l outcome.factors

section Promises

variable {auth : AuthCallback W} {kid : KeyId} {data : List UInt8} {options : SignOptions}
  {w w' : W} {l : List HostEvent} {outcome : SignOutcome}

/-- The trait's own methods promise nothing and report nothing. -/
theorem keeps_default {plugin : SigningPlugin W} {id : String} {sign : HostM W Signature}
    {reason : String}
    (h : WscdPlugin.signWithFactors id sign options w = (.ok outcome, w', l)) :
    plugin.Keeps (.cannot reason) (WscdPlugin.signWithFactors id sign) options w w' l outcome := by
  unfold WscdPlugin.signWithFactors at h
  obtain ⟨_, w₁, l₁, l₂, hvalid, h₁, rfl⟩ := Traced.bind_ok_iff.mp h
  split at h₁
  · obtain ⟨herror, -, -⟩ := Traced.lift_ok_iff.mp h₁
    cases herror
  obtain ⟨signature, w₂, l₃, l₄, hsign, h₂, rfl⟩ := Traced.bind_ok_iff.mp h₁
  obtain ⟨rfl, rfl, rfl⟩ := Traced.pure_ok_iff.mp h₂
  exact ⟨fun _ _ => ⟨rfl, rfl⟩, nofun, nofun, nofun⟩

theorem fromPin_of_derive (plugin : SigningPlugin W) {pluginId possession reason : String}
    {raw : Secret} {verifiedFactor : Option AuthFactor}
    (hpossession : possession ∈ FactorCategory.possession.methods)
    (hvalid : options.validate = .ok ()) (hgiven : givenPins l = [(pluginId, raw)])
    (hplugin : ∀ f, verifiedFactor = some f → Verifies f) :
    plugin.FromPin options l (deriveFactors possession (some (plugin.pinMethod raw)) false
      verifiedFactor options reason) := by
  have hpin : ∀ m, some (plugin.pinMethod raw) = some (some m) →
      m ∈ FactorCategory.knowledge.methods := by
    intro m hm
    cases plugin with
    | fido2 crypto host => exact classifySecret_mem (Option.some.inj hm)
    | _ => exact classifySecret_mem (Option.some.inj hm)
  rw [deriveFactors_eq _ _ _ _ _ hpossession hpin hplugin hvalid]
  refine ⟨⟨.possession, possession⟩, rfl, ?_⟩
  cases hmethod : plugin.pinMethod raw with
  | none => exact .inr ⟨_, rfl, fun _ => List.mem_cons_self⟩
  | some method => exact .inl ⟨pluginId, raw, method, hgiven, hmethod, rfl⟩

/-- Without a PIN there is possession alone, and the reason given. -/
theorem derive_unobserved {possession : String} (verifiedFactor : Option AuthFactor)
    (options : SignOptions) (reason : String)
    (hpossession : possession ∈ FactorCategory.possession.methods) :
    deriveFactors possession none false verifiedFactor options reason =
      ⟨[⟨.possession, possession⟩], some reason⟩ :=
  AuthFactors.new_possessed hpossession reason

theorem fromVerification_of_derive {possession reason : String}
    {verifiedFactor : Option AuthFactor} (userVerified : Bool)
    (hpossession : possession ∈ FactorCategory.possession.methods)
    (hvalid : options.validate = .ok ())
    (hplugin : ∀ f, verifiedFactor = some f → Verifies f)
    (hquiet : ∀ e ∈ l, e.isPinRequest = false)
    (hfresh : options.requireFreshUserAuthentication = false)
    (hreason : userVerified = false → reason ∈ verificationReasons) :
    FromVerification options l (deriveFactors possession none userVerified verifiedFactor options
      reason) := by
  refine ⟨hquiet, hfresh, ⟨.possession, possession⟩, rfl, ?_⟩
  have hpin : ∀ m, (none : Option (Option String)) = some (some m) →
      m ∈ FactorCategory.knowledge.methods := nofun
  have hverifies := (deriveFactors_factors none userVerified verifiedFactor options reason
    hpossession hpin hplugin hvalid).2
  rw [deriveFactors_eq _ _ _ _ _ hpossession hpin hplugin hvalid]
  cases hsecond : secondFactor none userVerified verifiedFactor options with
  | some f => exact .inl ⟨f, hverifies f hsecond, rfl⟩
  | none =>
    refine .inr ⟨_, rfl, fun hhost => ?_⟩
    cases userVerified with
    | false => exact hreason rfl
    | true =>
      -- the host's factor would have been taken
      have hor : verifiedFactor.or options.hostVerifiedFactor = none := hsecond
      rw [Option.or_eq_none_iff] at hor
      rw [hor.2] at hhost
      cases hhost

theorem keeps_fido2 {crypto : Fido2SignCrypto} {host : Fido2Host W} {verifies : Bool}
    (hsteady : ∀ w, host.transport.performsUserVerification w = verifies) {reason : String}
    (h : Fido2SignPlugin.signWithFactors crypto host auth kid data options w =
      (.ok outcome, w', l)) :
    (fido2 crypto host).Keeps (if verifies then .withHostFactor reason else .can)
      (Fido2SignPlugin.signWithFactors crypto host auth kid data) options w w' l outcome := by
  have hlocal : "key_in_local_external_wscd" ∈ FactorCategory.possession.methods := by decide
  obtain ⟨hvalid, hfresh, hasked, userVerified, verifiedFactor, hplugin, hfactors⟩ :=
    Fido2SignPlugin.signWithFactors_ok hsteady h
  cases verifies with
  | true =>
    refine ⟨nofun, nofun, nofun, fun _ => ?_⟩
    rw [Bool.and_true] at hfresh
    have hgiven : givenPins l = [] := givenPins_of_quiet hasked
    rw [hfactors, hgiven]
    cases userVerified with
    | true =>
      rw [if_pos rfl]
      exact fromVerification_of_derive true hlocal hvalid hplugin hasked hfresh nofun
    | false =>
      rw [if_neg Bool.false_ne_true]
      exact fromVerification_of_derive false hlocal hvalid (by rintro f ⟨⟩) hasked hfresh
        fun _ => by decide
  | false =>
    refine ⟨nofun, fun _ => ?_, fun _ options' hvalid' hfresh' => ?_, nofun⟩
    · obtain ⟨raw, hgiven⟩ := hasked
      rw [hfactors, hgiven]
      cases userVerified with
      | true =>
        exact fromPin_of_derive (fido2 crypto host) hlocal hvalid hgiven hplugin
      | false =>
        refine ⟨⟨.possession, _⟩, rfl,
          .inr ⟨_, derive_unobserved none options _ hlocal, fun _ => ?_⟩⟩
        decide
    · rw [Fido2SignPlugin.signWithFactors_congr hsteady hvalid hvalid' hfresh', h]

theorem keeps_r2ps {wire : R2psWire} {config : R2psConfig} {host : R2psHost W}
    {nfc : String → String} {capability : FactorCapability}
    (hcapability : R2psPlugin.authenticationCapability config = .ok capability)
    (h : R2psPlugin.signWithFactors wire config auth host nfc kid data options w =
      (.ok outcome, w', l)) :
    (r2ps wire config host nfc).Keeps capability
      (R2psPlugin.signWithFactors wire config auth host nfc kid data) options w w' l outcome := by
  unfold R2psPlugin.authenticationCapability at hcapability
  obtain ⟨hvalid, ⟨hmode, hfresh, hquiet, userVerified, verifiedFactor, hplugin, hfactors⟩ |
    ⟨hmode, pin, hgiven, hfresh, hfactors⟩⟩ := R2psPlugin.signWithFactors_ok h
  · rw [hmode, if_neg (by decide), if_pos rfl] at hcapability
    obtain rfl := Except.ok.inj hcapability
    refine ⟨nofun, nofun, nofun, fun _ => ?_⟩
    rw [hfactors]
    exact fromVerification_of_derive userVerified remoteWscd_vocabulary hvalid hplugin hquiet
      hfresh fun _ => by decide
  · rw [hmode, if_pos rfl] at hcapability
    obtain rfl := Except.ok.inj hcapability
    refine ⟨nofun, fun _ => ?_, fun _ options' hvalid' hfresh' => ?_, nofun⟩
    · rw [hfactors]
      cases pin with
      | some raw =>
        exact fromPin_of_derive (r2ps wire config host nfc) remoteWscd_vocabulary hvalid
          hgiven (by rintro f ⟨⟩)
      | none =>
        refine ⟨⟨.possession, _⟩, rfl, .inr ⟨_, derive_unobserved none options _
          remoteWscd_vocabulary, fun hrequired => ?_⟩⟩
        rw [hfresh rfl] at hrequired
        cases hrequired
    · rw [R2psPlugin.signWithFactors_congr hmode hvalid hvalid' hfresh', h]

end Promises

end SigningPlugin

/-- Whatever the manager answers when it is asked what a signature could reach, every signature
with that key keeps it. A key that cannot has no factor at all. A key that can reports the PIN
that was given in that call, whatever the host claims, and falls short only for a reason of the
PIN or the authenticator where a fresh authentication was asked for. A key that needs the host
never asks for a PIN, and with the host's word falls short only where the user was not verified. -/
theorem capability_is_kept (m : WscdManager (SigningPlugin W)) (auth : AuthCallback W)
    (kid : KeyId) (data : List UInt8) (algorithm : Algorithm) (options : SignOptions)
    (asked w w' : W) (l : List HostEvent) (capability : FactorCapability) (outcome : SignOutcome)
    (hsteady : ∀ plugin, m.resolveForKey kid "sign" = .ok plugin → plugin.self.Steady)
    (hasked : m.authenticationCapability kid asked = .ok capability)
    (h : m.signWithFactors auth kid data algorithm options w = (.ok outcome, w', l)) :
    ∃ plugin, m.resolveForKey kid "sign" = .ok plugin ∧
      plugin.self.Keeps capability (m.signWithFactors auth kid data algorithm) options w w' l
        outcome := by
  unfold WscdManager.authenticationCapability at hasked
  cases hresolve : m.resolveForKey kid "sign" with
  | error e =>
    rw [hresolve] at hasked
    cases hasked
  | ok plugin =>
    have hself := hsteady plugin hresolve
    have hsign : m.signWithFactors auth kid data algorithm =
        fun options => plugin.self.signWithFactors auth kid data algorithm options := by
      funext options
      unfold WscdManager.signWithFactors
      rw [hresolve]
      rfl
    have hcapability : plugin.self.authenticationCapability kid asked = .ok capability := by
      rw [hresolve] at hasked
      exact hasked
    rw [hsign] at h ⊢
    refine ⟨plugin, rfl, ?_⟩
    obtain ⟨id, self⟩ := plugin
    cases self with
    | softkey crypto self progress =>
      unfold SigningPlugin.authenticationCapability SoftkeyPlugin.authenticationCapability
        at hcapability
      dsimp only at hcapability
      split at hcapability
      · cases hcapability
      · obtain rfl := Except.ok.inj hcapability
        exact SigningPlugin.keeps_default h
    | fido2 crypto host =>
      obtain ⟨verifies, hverifies⟩ := hself
      unfold SigningPlugin.authenticationCapability Fido2SignPlugin.authenticationCapability
        at hcapability
      dsimp only at hcapability
      split at hcapability
      · cases hcapability
      · obtain rfl := Except.ok.inj hcapability
        rw [hverifies]
        exact SigningPlugin.keeps_fido2 hverifies h
    | r2ps wire config host nfc => exact SigningPlugin.keeps_r2ps hcapability h
    | androidKeystore self sign progress =>
      obtain rfl := Except.ok.inj hcapability
      exact SigningPlugin.keeps_default h
    | appleSecureEnclave self sign progress =>
      obtain rfl := Except.ok.inj hcapability
      exact SigningPlugin.keeps_default h

/-! ## A remote key under a PIN and a passkey under a pattern -/

namespace CapabilityDemo

def wire : R2psWire :=
  ⟨cborWire, base64urlDecode, fun _ => .error "", fun _ => .error "", fun _ => ""⟩

def auth : AuthCallback Unit :=
  ⟨fun _ w => (.ok (utf8 "123456"), w), fun _ _ w => (.error .authCancelled, w),
    fun _ _ _ _ w => (.error .authCancelled, w)⟩

def host : R2psHost Unit :=
  ⟨⟨⟨fun _ => false, fun _ w => (.ok (), w), fun _ _ w => (.ok [1], w)⟩,
    fun _ _ _ _ => .done fun w => (.error (.other ""), w)⟩, ⟨fun _ w => w⟩, fun _ w => w⟩

/-- The session opens with a PIN of six digits. -/
def remote : SigningPlugin Unit := .r2ps wire ⟨"opaque", "", []⟩ host id

def passkey : SigningPlugin Unit := .fido2 PatternDemo.crypto PatternDemo.host

theorem steady_passkey : passkey.Steady := ⟨true, fun _ => rfl⟩

/-- A manager of one plugin. -/
def managerOf (id : String) (plugin : SigningPlugin Unit) : WscdManager (SigningPlugin Unit) :=
  (WscdManager.new ⟨id, ∅, ∅⟩).registerPlugin ⟨id, plugin⟩

theorem resolveForKey_managerOf (id : String) (plugin : SigningPlugin Unit) (kid : KeyId) :
    (managerOf id plugin).resolveForKey kid "sign" = .ok ⟨id, plugin⟩ := by
  have hunbound : (managerOf id plugin).config.keyBindings.lookup kid = none :=
    Finmap.lookup_empty kid
  rw [WscdManager.resolveForKey_of_unbound hunbound]
  exact WscdManager.getPlugin_of_lookup (Finmap.lookup_insert _)

theorem authenticationCapability_managerOf (id : String) (plugin : SigningPlugin Unit)
    (kid : KeyId) (w : Unit) : (managerOf id plugin).authenticationCapability kid w =
      plugin.authenticationCapability kid w := by
  unfold WscdManager.authenticationCapability
  rw [resolveForKey_managerOf]
  rfl

theorem signWithFactors_managerOf (id : String) (plugin : SigningPlugin Unit)
    (auth : AuthCallback Unit) (kid : KeyId) (data : List UInt8) (algorithm : Algorithm)
    (options : SignOptions) :
    (managerOf id plugin).signWithFactors auth kid data algorithm options =
      plugin.signWithFactors auth kid data algorithm options := by
  unfold WscdManager.signWithFactors
  rw [resolveForKey_managerOf]
  rfl

def outcome : SignOutcome :=
  ⟨⟨[1]⟩, ⟨[⟨.possession, "key_in_remote_wscd"⟩, ⟨.knowledge, "pin_6_or_more_digits"⟩], none⟩⟩

end CapabilityDemo

open CapabilityDemo in
set_option maxRecDepth 4000 in
theorem capability_is_kept_pattern_and_pin :
    (∃ reason l, passkey.Keeps (.withHostFactor reason)
      ((managerOf "fido2" passkey).signWithFactors PatternDemo.auth ⟨"kid"⟩
        (List.replicate 32 0) .bls12381G1Schnorr)
      .default () () l PatternDemo.outcome) ∧
    ∃ l, remote.Keeps .can
      ((managerOf "r2ps" remote).signWithFactors auth ⟨"kid"⟩ [7] .es256) ⟨true, none⟩ () () l
      outcome := by
  constructor
  · obtain ⟨plugin, hplugin, hkeeps⟩ := capability_is_kept (managerOf "fido2" passkey)
      PatternDemo.auth ⟨"kid"⟩ (List.replicate 32 0) .bls12381G1Schnorr .default () () () _
      (.withHostFactor _) PatternDemo.outcome
      (fun plugin hplugin => by
        rw [resolveForKey_managerOf] at hplugin
        obtain rfl := Except.ok.inj hplugin
        exact steady_passkey)
      (by
        rw [authenticationCapability_managerOf]
        rfl)
      (by
        rw [signWithFactors_managerOf]
        rfl)
    rw [resolveForKey_managerOf] at hplugin
    obtain rfl := Except.ok.inj hplugin
    exact ⟨_, _, hkeeps⟩
  · obtain ⟨plugin, hplugin, hkeeps⟩ := capability_is_kept (managerOf "r2ps" remote) auth ⟨"kid"⟩
      [7] .es256 ⟨true, none⟩ () () () _ .can outcome
      (fun plugin hplugin => by
        rw [resolveForKey_managerOf] at hplugin
        obtain rfl := Except.ok.inj hplugin
        exact trivial)
      (by
        rw [authenticationCapability_managerOf]
        rfl)
      (by
        rw [signWithFactors_managerOf]
        rfl)
    rw [resolveForKey_managerOf] at hplugin
    obtain rfl := Except.ok.inj hplugin
    exact ⟨_, hkeeps⟩

end Wscd
