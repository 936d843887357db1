import Wscd.ClientPin
import Wscd.Types

/-!
# Authentication factors

Which factors were applied to a signature, in the vocabulary of TS12: categories with their
methods, the factors of one signature with the reason when they are too few, and the options
of a signature. The class of a PIN is measured from the secret the user gave
(`classifySecret`), by a wrapper around the authentication callback (`recordingAuth`).

Results:
1. `deriveFactors_factors`: the possession factor first, then at most one more, of the
   measured PIN or of a verification that was only observed.
2. `Records.pins_eq`: the recorder holds the class of every PIN the
   log says was given.
-/

namespace Wscd

open Lib

inductive FactorCategory where
  | knowledge
  | possession
  | inherence
  deriving DecidableEq, Repr

namespace FactorCategory

def asStr : FactorCategory → String
  | .knowledge => "knowledge"
  | .possession => "possession"
  | .inherence => "inherence"

/-- The methods TS12 defines for a category. -/
def methods : FactorCategory → List String
  | .knowledge =>
    ["pin_less_than_6_digits", "pin_6_or_more_digits", "passphrase_less_than_8_chars",
      "passphrase_8_to_11_chars", "passphrase_12_or_more_chars", "pattern", "other"]
  | .possession =>
    ["key_in_remote_wscd", "key_in_local_external_wscd", "key_in_local_internal_wscd",
      "key_in_local_native_wscd", "other"]
  | .inherence =>
    ["fingerprint_device", "fingerprint_external", "face_device", "face_external", "other"]

end FactorCategory

structure AuthFactor where
  category : FactorCategory
  method : String
  deriving DecidableEq, Repr

namespace AuthFactor

/-- A factor of the vocabulary; any other method is refused. -/
def new (category : FactorCategory) (method : String) : Except WscdError AuthFactor :=
  if method ∈ category.methods then .ok ⟨category, method⟩
  else .error (.plugin s!"'{method}' is not a TS12 {category.asStr} method")

/-- The method is one TS12 defines for the category. -/
def InVocabulary (f : AuthFactor) : Prop := f.method ∈ f.category.methods

instance (f : AuthFactor) : Decidable f.InVocabulary := inferInstanceAs (Decidable (_ ∈ _))

theorem new_ok_iff {category : FactorCategory} {method : String} {f : AuthFactor} :
    new category method = .ok f ↔ f = ⟨category, method⟩ ∧ f.InVocabulary := by
  unfold new
  split
  · rename_i hmem
    constructor
    · intro h
      cases h
      exact ⟨rfl, hmem⟩
    · rintro ⟨rfl, -⟩
      rfl
  · rename_i hmem
    constructor
    · intro h
      cases h
    · rintro ⟨rfl, h⟩
      exact absurd h hmem

end AuthFactor

/-- The factors of one signature, and why they span fewer than two categories. -/
@[ext]
structure AuthFactors where
  factors : List AuthFactor
  shortfall : Option String
  deriving DecidableEq, Repr

namespace AuthFactors

/-- One pass of the loop in `new`: a method outside the vocabulary is not counted, a factor
that is there already is not repeated. -/
def count (acc : List AuthFactor × Option String) (f : AuthFactor) :
    List AuthFactor × Option String :=
  if f.method ∉ f.category.methods then
    (acc.1, some s!"'{f.method}' is not a TS12 {f.category.asStr} method and was not counted")
  else if f ∈ acc.1 then acc
  else (acc.1 ++ [f], acc.2)

/-- At least two different categories. -/
def satisfiesTwoCategories (factors : List AuthFactor) : Bool :=
  decide (2 ≤ (factors.foldl (fun seen (f : AuthFactor) =>
    if f.category ∈ seen then seen else seen ++ [f.category]) []).length)

/-- A reason is kept only when the factors do not span two categories, and is then there. -/
def new (factors : List AuthFactor) (shortfall : Option String) : AuthFactors :=
  let counted := factors.foldl count ([], shortfall)
  if satisfiesTwoCategories counted.1 then ⟨counted.1, none⟩
  else
    ⟨counted.1,
      some (counted.2.getD "fewer than two distinct authentication categories were applied")⟩

theorem count_of_not_mem {acc : List AuthFactor × Option String} {f : AuthFactor}
    (hf : f.InVocabulary) (hmem : f ∉ acc.1) : count acc f = (acc.1 ++ [f], acc.2) := by
  unfold count
  rw [if_neg (show ¬ f.method ∉ f.category.methods from not_not_intro hf), if_neg hmem]

theorem new_factors (factors : List AuthFactor) (shortfall : Option String) :
    (new factors shortfall).factors = (factors.foldl count ([], shortfall)).1 := by
  unfold new
  dsimp only
  split <;> rfl

theorem new_one (f : AuthFactor) (shortfall : Option String) (hf : f.InVocabulary) :
    (new [f] shortfall).factors = [f] := by
  rw [new_factors]
  show (count ([], shortfall) f).1 = [f]
  rw [count_of_not_mem hf List.not_mem_nil]
  rfl

theorem new_two (f g : AuthFactor) (shortfall : Option String) (hf : f.InVocabulary)
    (hg : g.InVocabulary) (hne : g ≠ f) : (new [f, g] shortfall).factors = [f, g] := by
  rw [new_factors]
  show (count (count ([], shortfall) f) g).1 = [f, g]
  rw [count_of_not_mem hf List.not_mem_nil, count_of_not_mem hg (by simpa using hne)]
  rfl

end AuthFactors

/-- Options of one signature. The host's factor is consulted only where the plugin observed
user verification and cannot tell how it happened. -/
structure SignOptions where
  requireFreshUserAuthentication : Bool
  hostVerifiedFactor : Option AuthFactor
  deriving DecidableEq, Repr

namespace SignOptions

def default : SignOptions := ⟨false, none⟩

def validate (options : SignOptions) : Except WscdError Unit :=
  match options.hostVerifiedFactor with
  | none => .ok ()
  | some f =>
    if f.category = .possession then
      .error (.plugin "host_verified_factor must be a knowledge or inherence factor")
    else (AuthFactor.new f.category f.method).map fun _ => ()

theorem validate_ok {options : SignOptions} {f : AuthFactor} (h : options.validate = .ok ())
    (hf : options.hostVerifiedFactor = some f) :
    f.category ≠ .possession ∧ f.InVocabulary := by
  simp only [validate, hf] at h
  split at h
  · cases h
  · rename_i hcategory
    cases hnew : AuthFactor.new f.category f.method with
    | error e =>
      rw [hnew] at h
      cases h
    | ok g =>
      obtain ⟨rfl, hg⟩ := AuthFactor.new_ok_iff.mp hnew
      exact ⟨hcategory, hg⟩

end SignOptions

/-- A signature with the factors applied to produce it. -/
structure SignOutcome where
  signature : Signature
  factors : AuthFactors
  deriving DecidableEq, Repr

/-! ## Measuring a PIN -/

/-- The class of a secret: a PIN if all its characters are ASCII digits, else a passphrase;
unknown when it is empty or not UTF-8. -/
def classifySecret (secret : List UInt8) : Option String :=
  match fromUtf8 secret with
  | none => none
  | some s =>
    let n := s.toList.length
    if n = 0 then none
    else if s.toList.all fun c => c.isDigit then
      if n < 6 then some "pin_less_than_6_digits" else some "pin_6_or_more_digits"
    else if n < 8 then some "passphrase_less_than_8_chars"
    else if n < 12 then some "passphrase_8_to_11_chars"
    else some "passphrase_12_or_more_chars"

theorem classifySecret_mem {secret : List UInt8} {method : String}
    (h : classifySecret secret = some method) : method ∈ FactorCategory.knowledge.methods := by
  unfold classifySecret at h
  split at h
  · cases h
  · dsimp only at h
    split at h
    · cases h
    split at h
    · split at h
      · cases h
        decide
      · cases h
        decide
    split at h
    · cases h
      decide
    split at h
    · cases h
      decide
    · cases h
      decide

/-- The class of the PIN a plugin authenticates with: `fido2` normalises it first. -/
def classifyPin (nfc : String → String) (pluginId : String) (secret : List UInt8) :
    Option String :=
  if pluginId = "fido2" then classifySecret (ClientPin.normalizePin nfc secret)
  else classifySecret secret

/-- The wrapper around a callback: the class of every PIN it hands out goes to a list beside
the state of the outside. -/
def recordingAuth {W : Type} (nfc : String → String) (inner : AuthCallback W) :
    AuthCallback (W × List (Option String)) where
  requestPin pluginId w :=
    match inner.requestPin pluginId w.1 with
    | (.ok secret, w') => (.ok secret, w', w.2 ++ [classifyPin nfc pluginId secret])
    | (.error e, w') => (.error e, w', w.2)
  requestPinFor pluginId kind w :=
    match inner.requestPinFor pluginId kind w.1 with
    | (.ok secret, w') => (.ok secret, w', w.2 ++ [classifyPin nfc pluginId secret])
    | (.error e, w') => (.error e, w', w.2)
  requestWebauthnAssertion pluginId challenge rpId allowedCredentials w :=
    ((inner.requestWebauthnAssertion pluginId challenge rpId allowedCredentials w.1).1,
      (inner.requestWebauthnAssertion pluginId challenge rpId allowedCredentials w.1).2, w.2)

/-! ## Deriving the factors of a signature -/

/-- Factors for a key that is possessed and a user verification that was either measured
(`pin`) or only observed. -/
def deriveFactors (possession : String) (pin : Option (Option String))
    (uvObservedUnspecified : Bool) (pluginVerifiedFactor : Option AuthFactor)
    (options : SignOptions) (noSecondFactorReason : String) : AuthFactors :=
  let possessed : AuthFactor := ⟨.possession, possession⟩
  match pin with
  | some (some method) => .new [possessed, ⟨.knowledge, method⟩] none
  | some none =>
    .new [possessed] (some "the PIN entered for this sign could not be classified")
  | none =>
    if uvObservedUnspecified then
      match pluginVerifiedFactor.or options.hostVerifiedFactor with
      | some f => .new [possessed, f] none
      | none =>
        .new [possessed]
          (some ("user verification was performed but its method is not reported; " ++
            "the host must supply host_verified_factor"))
    else .new [possessed] (some noSecondFactorReason)

/-- The second factor of a signature, if there is one. -/
def secondFactor (pin : Option (Option String)) (uvObservedUnspecified : Bool)
    (pluginVerifiedFactor : Option AuthFactor) (options : SignOptions) : Option AuthFactor :=
  match pin with
  | some method => method.map fun m => ⟨.knowledge, m⟩
  | none =>
    if uvObservedUnspecified then pluginVerifiedFactor.or options.hostVerifiedFactor else none

/-- A plugin's own factor is never possession, and in the vocabulary. -/
def Verifies (f : AuthFactor) : Prop := f.category ≠ .possession ∧ f.InVocabulary

theorem deriveFactors_factors {possession : String} (pin : Option (Option String))
    (uvObservedUnspecified : Bool) (pluginVerifiedFactor : Option AuthFactor)
    (options : SignOptions) (reason : String)
    (hpossession : possession ∈ FactorCategory.possession.methods)
    (hpin : ∀ m, pin = some (some m) → m ∈ FactorCategory.knowledge.methods)
    (hplugin : ∀ f, pluginVerifiedFactor = some f → Verifies f)
    (hvalid : options.validate = .ok ()) :
    (deriveFactors possession pin uvObservedUnspecified pluginVerifiedFactor options
        reason).factors =
      ⟨.possession, possession⟩ ::
        (secondFactor pin uvObservedUnspecified pluginVerifiedFactor options).toList ∧
    ∀ f, secondFactor pin uvObservedUnspecified pluginVerifiedFactor options = some f →
      Verifies f := by
  have hpossessed : AuthFactor.InVocabulary ⟨.possession, possession⟩ := hpossession
  -- a factor that verifies the user is another one than the possession factor
  have htwo : ∀ f, Verifies f → (AuthFactors.new [⟨.possession, possession⟩, f] none).factors =
      [⟨.possession, possession⟩, f] := by
    intro f hf
    refine AuthFactors.new_two _ _ _ hpossessed hf.2 ?_
    rintro rfl
    exact hf.1 rfl
  match pin, hpin with
  | some (some m), hpin =>
    have hm : Verifies ⟨.knowledge, m⟩ := ⟨nofun, hpin m rfl⟩
    refine ⟨htwo _ hm, ?_⟩
    intro f hf
    cases hf
    exact hm
  | some none, _ => exact ⟨AuthFactors.new_one _ _ hpossessed, by rintro f ⟨⟩⟩
  | none, _ =>
    cases uvObservedUnspecified with
    | false => exact ⟨AuthFactors.new_one _ _ hpossessed, by rintro f ⟨⟩⟩
    | true =>
      simp only [deriveFactors, secondFactor, if_true]
      cases hor : pluginVerifiedFactor.or options.hostVerifiedFactor with
      | none => exact ⟨AuthFactors.new_one _ _ hpossessed, by rintro f ⟨⟩⟩
      | some f =>
        have hf : Verifies f := by
          rcases Option.or_eq_some_iff.mp hor with h | ⟨-, h⟩
          · exact hplugin f h
          · exact SignOptions.validate_ok hvalid h
        refine ⟨htwo f hf, ?_⟩
        intro g hg
        cases hg
        exact hf

/-! ## The recorder and the log -/

section Recorder

variable {W : Type} (nfc : String → String) (auth : AuthCallback W)

/-- What the recorder makes of an event. -/
def HostEvent.pinClass (e : HostEvent) : Option (Option String) :=
  e.givenPin.map fun given => classifyPin nfc given.1 given.2

/-- A computation whose recorder takes the class of every PIN its log says was given. -/
abbrev Records {α : Type} (x : HostM (W × List (Option String)) α) : Prop :=
  Traced.Follows Prod.snd (fun pins e => pins ++ (HostEvent.pinClass nfc e).toList) x

theorem records_requestPin (pluginId : String) :
    Records nfc (HostM.requestPin (recordingAuth nfc auth) pluginId) := by
  rintro ⟨w, pins⟩
  unfold HostM.requestPin Traced.ask
  rcases hinner : auth.requestPin pluginId w with ⟨e | secret, w'⟩
  · simp [recordingAuth, hinner, HostEvent.pinClass, HostEvent.givenPin]
  · simp [recordingAuth, hinner, HostEvent.pinClass, HostEvent.givenPin]

theorem records_requestPinFor (pluginId : String) (kind : PinRequestKind) :
    Records nfc (HostM.requestPinFor (recordingAuth nfc auth) pluginId kind) := by
  rintro ⟨w, pins⟩
  unfold HostM.requestPinFor Traced.ask
  rcases hinner : auth.requestPinFor pluginId kind w with ⟨e | secret, w'⟩
  · simp [recordingAuth, hinner, HostEvent.pinClass, HostEvent.givenPin]
  · simp [recordingAuth, hinner, HostEvent.pinClass, HostEvent.givenPin]

/-- A computation that leaves the recorder alone and asks for no PIN. -/
theorem records_of_unchanged {α : Type} {x : HostM (W × List (Option String)) α}
    (hstate : ∀ s, (x s).2.1.2 = s.2) (hlog : ∀ s, ∀ e ∈ (x s).2.2, e.givenPin = none) :
    Records nfc x :=
  Traced.follows_of_unchanged hstate fun s e he pins => by
    rw [HostEvent.pinClass, hlog s e he]
    exact List.append_nil pins

theorem records_sendCommand (transport : Ctap2Transport W) (command : List UInt8) :
    Records nfc (HostM.sendCommand (transport.beside (T := List (Option String))) command) :=
  records_of_unchanged nfc (fun _ => rfl) fun _ _ he => by
    obtain rfl := List.mem_singleton.mp he
    rfl

theorem records_generateSecret (rng : Rng W) :
    Records nfc (HostM.generateSecret (rng.beside (T := List (Option String)))) :=
  records_of_unchanged nfc (fun _ => rfl) fun _ _ he => by
    obtain rfl := List.mem_singleton.mp he
    rfl

theorem records_randomBytes (rng : Rng W) (n : Nat) :
    Records nfc (HostM.randomBytes (rng.beside (T := List (Option String))) n) :=
  records_of_unchanged nfc (fun _ => rfl) fun _ _ he => by
    obtain rfl := List.mem_singleton.mp he
    rfl

theorem records_onProgress (progress : ProgressCallback W) (p : OperationProgress) :
    Records nfc (HostM.onProgress (progress.beside (T := List (Option String))) p) :=
  Traced.follows_of_silent (fun _ => rfl) fun _ => rfl

/-- The recorder's list after a run, from the log. -/
theorem Records.pins_eq {α : Type} {x : HostM (W × List (Option String)) α}
    (hx : Records nfc x) {w w' : W} {pins : List (Option String)} {r : Except WscdError α}
    {l : List HostEvent} (h : x (w, []) = (r, (w', pins), l)) :
    pins = (givenPins l).map fun given => classifyPin nfc given.1 given.2 := by
  have hpins := hx (w, [])
  rw [h] at hpins
  have hfold : ∀ (l : List HostEvent) (acc : List (Option String)),
      l.foldl (fun pins e => pins ++ (HostEvent.pinClass nfc e).toList) acc =
        acc ++ l.filterMap (HostEvent.pinClass nfc) := by
    intro l
    induction l with
    | nil =>
      intro acc
      rw [List.foldl_nil, List.filterMap_nil, List.append_nil]
    | cons e l ih =>
      intro acc
      rw [List.foldl_cons, ih, List.append_assoc]
      cases hclass : HostEvent.pinClass nfc e with
      | none => rw [List.filterMap_cons_none hclass, Option.toList_none, List.nil_append]
      | some c => rw [List.filterMap_cons_some hclass, Option.toList_some, List.singleton_append]
  have hlist : pins = l.filterMap (HostEvent.pinClass nfc) := hpins.trans (hfold l [])
  rw [hlist, givenPins, List.map_filterMap]
  rfl

end Recorder

end Wscd
