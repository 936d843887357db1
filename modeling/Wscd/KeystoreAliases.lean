import Wscd.Plugins.AndroidKeystore
import Wscd.Plugins.Softkey

/-!
# No Keystore alias is lost

Every step of key creation can fail and leave a half-made hardware key under its alias. The
plugin either records the alias or deletes the key, and says so when it could do neither.

Results:
1. `bestEffortGenerate_cases`, `finishGenerateKey_cases`, `deleteKey_cases`: what each part of
   an operation leaves alive, whatever the host answers.
2. `Accounted.generateKeyWithChallenge`, `Accounted.deleteKey`: an operation whose clean-up is
   confirmed keeps every live alias recorded.
3. `live_aliases_are_recorded`: so does every run of operations, and a deletion that fails
   keeps its record.
-/

namespace Wscd.AndroidKeystorePlugin

open Lib AndroidKeystore

variable {W : Type}

/-! ## What the host promises -/

/-- Nothing happens to an alias, or it goes away. -/
def Fades (live : W → String → Option Json) (w w' : W) (keyAlias : String) : Prop :=
  live w' keyAlias = live w keyAlias ∨ live w' keyAlias = none

theorem Fades.trans {live : W → String → Option Json} {w w' w'' : W} {keyAlias : String}
    (h : Fades live w w' keyAlias) (h' : Fades live w' w'' keyAlias) :
    Fades live w w'' keyAlias := by
  rcases h' with h' | h'
  · rcases h with h | h
    · exact .inl (h'.trans h)
    · exact .inr (h'.trans h)
  · exact .inr h'

/-- What is alive afterwards was alive before, with the same key. -/
theorem Fades.alive {live : W → String → Option Json} {w w' : W} {keyAlias : String}
    (h : Fades live w w' keyAlias) {jwk : Json} (halive : live w' keyAlias = some jwk) :
    live w keyAlias = some jwk := by
  rcases h with h | h
  · rw [← h, halive]
  · rw [h] at halive
    cases halive

theorem Fades.dead {live : W → String → Option Json} {w w' : W} {keyAlias : String}
    (h : Fades live w w' keyAlias) (hdead : live w keyAlias = none) : live w' keyAlias = none := by
  rcases h with h | h
  · exact h.trans hdead
  · exact h

/-- The host answers as it likes, `live` being the aliases alive in it with their public keys:
only a generation brings an alias to life, a deletion that succeeds has deleted, and the public
keys of different live aliases have different thumbprints. -/
structure KeepsAliases (host : Host W) (live : W → String → Option Json) : Prop where
  generate : ∀ keyAlias challenge strongBox methods unlocked w a, a ≠ keyAlias →
    Fades live w (host.callback.generate keyAlias challenge strongBox methods unlocked w).2 a
  certificateChain : ∀ keyAlias w a, Fades live w (host.callback.certificateChain keyAlias w).2 a
  publicKeyJwk : ∀ keyAlias w a, Fades live w (host.callback.publicKeyJwk keyAlias w).2 a
  publicKeyJwk_ok : ∀ keyAlias w w' jwk, host.callback.publicKeyJwk keyAlias w = (.ok jwk, w') →
    live w keyAlias = some jwk
  delete : ∀ keyAlias w a, Fades live w (host.callback.delete keyAlias w).2 a
  delete_ok : ∀ keyAlias w w', host.callback.delete keyAlias w = (.ok (), w') →
    live w' keyAlias = none
  bytes : ∀ n w a, Fades live w (host.rng.bytes n w).2 a
  onProgress : ∀ p w a, Fades live w (host.progress.onProgress p w) a
  distinct : ∀ w a b ja jb kid, live w a = some ja → live w b = some jb →
    jwkThumbprint host.digest ja = .ok kid → jwkThumbprint host.digest jb = .ok kid → a = b

/-- The alias an event has drawn. -/
def KeystoreEvent.drawn : KeystoreEvent → Option String
  | .drewAlias keyAlias => some keyAlias
  | _ => none

/-- The aliases a log has drawn, in order: those the plugin has created keys under. -/
def drawnAliases (l : List KeystoreEvent) : List String := l.filterMap KeystoreEvent.drawn

theorem drawnAliases_append (l₁ l₂ : List KeystoreEvent) :
    drawnAliases (l₁ ++ l₂) = drawnAliases l₁ ++ drawnAliases l₂ := List.filterMap_append

/-- The error says that a clean-up is not confirmed. -/
def IsUnconfirmed (e : WscdError) : Prop := ∃ name reason, e = .unconfirmedCleanup name reason

/-! ## The parts of an operation -/

theorem outside_cases {α : Type} {f : W → α × W} {s s' : W × AndroidKeystorePlugin} {a : α}
    {l : List KeystoreEvent} (h : outside f s = (.ok a, s', l)) :
    f s.1 = (a, s'.1) ∧ s'.2 = s.2 ∧ l = [] := by
  obtain ⟨hf, rfl⟩ := Traced.update_ok_iff.mp h
  obtain ⟨rfl, rfl⟩ := Prod.mk.inj hf
  exact ⟨rfl, rfl, rfl⟩

section Parts

variable {host : Host W} {live : W → String → Option Json} (hhost : KeepsAliases host live)
  {s s' : W × AndroidKeystorePlugin} {l : List KeystoreEvent} {keyAlias : String}

include hhost

theorem delete_cases {r : Except WscdError Unit} (h : delete host keyAlias s = (r, s', l)) :
    s'.2 = s.2 ∧ drawnAliases l = [] ∧ (∀ a, Fades live s.1 s'.1 a) ∧
      (r = .ok () → live s'.1 keyAlias = none) := by
  obtain ⟨hanswer, rfl⟩ := Traced.ask_cases h
  obtain ⟨rfl, rfl⟩ := Prod.mk.inj hanswer
  refine ⟨rfl, rfl, fun a => hhost.delete keyAlias s.1 a, fun hok => ?_⟩
  exact hhost.delete_ok keyAlias s.1 _ (Prod.ext hok rfl)

/-- The error that is returned is the one before, its alias gone, or says it may not be. -/
theorem deleteAfterFailedGenerate_cases {originalErr : WscdError} {r : Except WscdError WscdError}
    (h : deleteAfterFailedGenerate host keyAlias originalErr s = (r, s', l)) :
    ∃ e, r = .ok e ∧ s'.2 = s.2 ∧ drawnAliases l = [] ∧ (∀ a, Fades live s.1 s'.1 a) ∧
      (IsUnconfirmed e ∨ live s'.1 keyAlias = none) := by
  unfold deleteAfterFailedGenerate at h
  obtain ⟨answer, s₁, l₁, l₂, hattempt, h₁, rfl⟩ :=
    Traced.bind_cases_of_total (fun _ => ⟨_, rfl⟩) h
  obtain ⟨hplugin, hdrawn, hfades, hgone⟩ := delete_cases hhost (Traced.attempt_ok_iff.mp hattempt)
  rw [drawnAliases_append, hdrawn]
  cases answer with
  | ok _ =>
    obtain ⟨rfl, rfl, rfl⟩ := Traced.pure_cases h₁
    exact ⟨_, rfl, hplugin, rfl, hfades, .inr (hgone rfl)⟩
  | error deleteErr =>
    obtain ⟨rfl, rfl, rfl⟩ := Traced.pure_cases h₁
    exact ⟨_, rfl, hplugin, rfl, hfades, .inl ⟨_, _, rfl⟩⟩

/-- A failure that cleans up after itself. -/
theorem cleanUp_cases {α : Type} {originalErr : WscdError} {r : Except WscdError α}
    (h : (deleteAfterFailedGenerate host keyAlias originalErr >>= fun err =>
      Traced.lift (.error err)) s = (r, s', l)) :
    ∃ e, r = .error e ∧ s'.2 = s.2 ∧ drawnAliases l = [] ∧ (∀ a, Fades live s.1 s'.1 a) ∧
      (IsUnconfirmed e ∨ live s'.1 keyAlias = none) := by
  rcases Traced.bind_cases h with ⟨e, -, herror⟩ | ⟨err, s₁, l₁, l₂, hdelete, h₁, rfl⟩
  · obtain ⟨_, hok, -⟩ := deleteAfterFailedGenerate_cases hhost herror
    cases hok
  · obtain ⟨_, hok, hplugin, hdrawn, hfades, hgone⟩ := deleteAfterFailedGenerate_cases hhost hdelete
    cases hok
    obtain ⟨rfl, rfl, rfl⟩ := Traced.lift_cases h₁
    exact ⟨err, rfl, hplugin, by rw [List.append_nil, hdrawn], hfades, hgone⟩

theorem newAlias_cases {r : Except WscdError String} (h : newAlias host s = (r, s', l)) :
    ∃ a, r = .ok a ∧ l = [.drewAlias a] ∧ s'.2 = s.2 ∧ ∀ a, Fades live s.1 s'.1 a := by
  cases h
  exact ⟨_, rfl, rfl, rfl, fun a => hhost.bytes 16 s.1 a⟩

theorem onProgress_cases {p : OperationProgress} {u : Unit}
    (h : onProgress host p s = (.ok u, s', l)) :
    s'.2 = s.2 ∧ l = [] ∧ ∀ a, Fades live s.1 s'.1 a := by
  obtain ⟨hanswer, hplugin, rfl⟩ := outside_cases h
  refine ⟨hplugin, rfl, fun a => ?_⟩
  rw [← (Prod.mk.inj hanswer).2]
  exact hhost.onProgress _ s.1 a

theorem generate_cases {challenge : List UInt8} {strongBox : Bool}
    {r : Except WscdError AndroidKeystoreSecurityLevel}
    (h : generate host keyAlias challenge strongBox s = (r, s', l)) :
    s'.2 = s.2 ∧ drawnAliases l = [] ∧ ∀ a, a ≠ keyAlias → Fades live s.1 s'.1 a := by
  obtain ⟨hanswer, rfl⟩ := Traced.ask_cases h
  obtain ⟨rfl, rfl⟩ := Prod.mk.inj hanswer
  refine ⟨rfl, rfl, fun a hne => ?_⟩
  exact hhost.generate keyAlias (some challenge) strongBox [] false s.1 a hne

/-- A new alias, and an attempt to create a key under it. -/
theorem newAlias_generate_cases {α : Type} {challenge : List UInt8} {strongBox : Bool}
    {f : String → Except WscdError AndroidKeystoreSecurityLevel → KeystoreM W α}
    {r : Except WscdError α}
    (h : (newAlias host >>= fun a =>
      Traced.attempt (generate host a challenge strongBox) >>= f a) s = (r, s', l)) :
    ∃ a answer s₁ l₁, f a answer s₁ = (r, s', l₁) ∧ drawnAliases l = a :: drawnAliases l₁ ∧
      s₁.2 = s.2 ∧ ∀ b, b ≠ a → Fades live s.1 s₁.1 b := by
  obtain ⟨a, s₁, l₁, l₂, hnew, h₁, rfl⟩ := Traced.bind_cases_of_total (fun _ => ⟨_, rfl⟩) h
  obtain ⟨_, ha, rfl, hplugin₁, hfades₁⟩ := newAlias_cases hhost hnew
  cases ha
  obtain ⟨answer, s₂, l₃, l₄, hgenerate, h₂, rfl⟩ :=
    Traced.bind_cases_of_total (fun _ => ⟨_, rfl⟩) h₁
  obtain ⟨hplugin₂, hdrawn₂, hfades₂⟩ :=
    generate_cases hhost (Traced.attempt_ok_iff.mp hgenerate)
  refine ⟨a, answer, s₂, l₄, h₂, ?_, hplugin₂.trans hplugin₁, fun b hb =>
    (hfades₁ b).trans (hfades₂ b hb)⟩
  rw [drawnAliases_append, drawnAliases_append, hdrawn₂]
  rfl

/-- The generation in the TEE, which cleans up after itself. -/
theorem teeGenerate_cases {challenge : List UInt8}
    {r : Except WscdError (String × AndroidKeystoreSecurityLevel)}
    (h : (newAlias host >>= fun a =>
      Traced.attempt (generate host a challenge false) >>= fun answer =>
        match answer with
        | .ok level => pure (a, level)
        | .error e => deleteAfterFailedGenerate host a e >>= fun err =>
          Traced.lift (.error err)) s = (r, s', l)) :
    ∃ a, drawnAliases l = [a] ∧ s'.2 = s.2 ∧ (∀ b, b ≠ a → Fades live s.1 s'.1 b) ∧
      ((∃ level, r = .ok (a, level)) ∨
        ∃ e, r = .error e ∧ (IsUnconfirmed e ∨ live s'.1 a = none)) := by
  obtain ⟨a, answer, s₁, l₁, h₁, hdrawn, hplugin₁, hfades₁⟩ := newAlias_generate_cases hhost h
  rw [hdrawn]
  cases answer with
  | ok level =>
    obtain ⟨rfl, rfl, rfl⟩ := Traced.pure_cases h₁
    exact ⟨a, rfl, hplugin₁, hfades₁, .inl ⟨level, rfl⟩⟩
  | error e =>
    obtain ⟨e', rfl, hplugin₂, hdrawn₂, hfades₂, hgone⟩ := cleanUp_cases hhost h₁
    rw [hdrawn₂]
    exact ⟨a, rfl, hplugin₂.trans hplugin₁, fun b hb => (hfades₁ b hb).trans (hfades₂ b),
      .inr ⟨e', rfl, hgone⟩⟩

/-- At most one of the aliases drawn is left alive, and the others are not touched. -/
theorem bestEffortGenerate_cases {challenge : List UInt8}
    {r : Except WscdError (String × AndroidKeystoreSecurityLevel)}
    (h : bestEffortGenerate host challenge s = (r, s', l)) :
    s'.2 = s.2 ∧ (∀ a ∉ drawnAliases l, Fades live s.1 s'.1 a) ∧
      ((∃ a level, r = .ok (a, level) ∧ a ∈ drawnAliases l ∧
          ∀ b ∈ drawnAliases l, b ≠ a → live s'.1 b = none) ∨
        ∃ e, r = .error e ∧ (IsUnconfirmed e ∨ ∀ b ∈ drawnAliases l, live s'.1 b = none)) := by
  unfold bestEffortGenerate at h
  obtain ⟨a, answer, s₁, l₁, h₁, hdrawn₁, hplugin₁, hfades₁⟩ := newAlias_generate_cases hhost h
  rw [hdrawn₁]
  simp only [List.mem_cons, not_or, forall_eq_or_imp]
  split at h₁
  · -- the key is in StrongBox
    rename_i level
    obtain ⟨rfl, rfl, rfl⟩ := Traced.pure_cases h₁
    refine ⟨hplugin₁, fun b hb => hfades₁ b hb.1, .inl ⟨a, level, rfl, .inl rfl, ?_, ?_⟩⟩
    · exact fun hne => absurd rfl hne
    · rintro b ⟨⟩
  · -- no StrongBox: whatever is left of the first alias goes first
    obtain ⟨deletion, s₂, l₂, l₃, hdelete, h₂, rfl⟩ :=
      Traced.bind_cases_of_total (fun _ => ⟨_, rfl⟩) h₁
    obtain ⟨hplugin₂, hdrawn₂, hfades₂, hgone₂⟩ :=
      delete_cases hhost (Traced.attempt_ok_iff.mp hdelete)
    rw [drawnAliases_append, hdrawn₂, List.nil_append]
    cases deletion with
    | error deleteErr =>
      obtain ⟨rfl, rfl, rfl⟩ := Traced.lift_cases h₂
      exact ⟨hplugin₂.trans hplugin₁, fun b hb => (hfades₁ b hb.1).trans (hfades₂ b),
        .inr ⟨_, rfl, .inl ⟨_, _, rfl⟩⟩⟩
    | ok _ =>
      obtain ⟨tee, hdrawn₃, hplugin₃, hfades₃, htee⟩ := teeGenerate_cases hhost h₂
      rw [hdrawn₃]
      simp only [List.mem_singleton, forall_eq]
      -- the first alias stays dead
      have hdead : a ≠ tee → live s'.1 a = none := fun hne =>
        (hfades₃ a hne).dead (hgone₂ rfl)
      refine ⟨hplugin₃.trans (hplugin₂.trans hplugin₁), fun b hb =>
        ((hfades₁ b hb.1).trans (hfades₂ b)).trans (hfades₃ b hb.2), ?_⟩
      rcases htee with ⟨level, rfl⟩ | ⟨e, rfl, hgone⟩
      · exact .inl ⟨tee, level, rfl, .inr rfl, hdead, fun hne => absurd rfl hne⟩
      · refine .inr ⟨e, rfl, hgone.imp_right fun hgone => ⟨?_, hgone⟩⟩
        by_cases hne : a = tee
        · rw [hne]
          exact hgone
        · exact hdead hne
  · -- any other failure
    obtain ⟨e', rfl, hplugin₂, hdrawn₂, hfades₂, hgone⟩ := cleanUp_cases hhost h₁
    rw [hdrawn₂]
    refine ⟨hplugin₂.trans hplugin₁, fun b hb => (hfades₁ b hb.1).trans (hfades₂ b),
      .inr ⟨e', rfl, hgone.imp_right fun hgone => ⟨hgone, ?_⟩⟩⟩
    rintro b ⟨⟩

theorem certificateChain_cases {r : Except WscdError (List (List UInt8))}
    (h : certificateChain host keyAlias s = (r, s', l)) :
    s'.2 = s.2 ∧ drawnAliases l = [] ∧ ∀ a, Fades live s.1 s'.1 a := by
  obtain ⟨hanswer, rfl⟩ := Traced.ask_cases h
  obtain ⟨rfl, rfl⟩ := Prod.mk.inj hanswer
  exact ⟨rfl, rfl, fun a => hhost.certificateChain keyAlias s.1 a⟩

/-- The record that is filed is under the thumbprint no other live key has. -/
theorem finishGenerateKey_cases {level : AndroidKeystoreSecurityLevel} {challenge : List UInt8}
    {r : Except WscdError GeneratedKey}
    (h : finishGenerateKey host keyAlias level challenge s = (r, s', l)) :
    drawnAliases l = [] ∧ (∀ a, Fades live s.1 s'.1 a) ∧
      ((∃ e, r = .error e ∧ s'.2 = s.2) ∨
        ∃ generated kid key, r = .ok generated ∧ s'.2 = ⟨s.2.keys.insert kid key⟩ ∧
          key.keyAlias = keyAlias ∧
          (∀ jwk, live s'.1 keyAlias = some jwk → jwkThumbprint host.digest jwk = .ok kid) ∧
          ∀ a jwk, live s'.1 a = some jwk → jwkThumbprint host.digest jwk = .ok kid →
            a = keyAlias) := by
  unfold finishGenerateKey at h
  rcases Traced.bind_cases h with ⟨e, rfl, hchain⟩ | ⟨certificates, s₂, l₁, l₂, hchain, h₂, rfl⟩
  · obtain ⟨hplugin₁, hdrawn, hfades₁⟩ := certificateChain_cases hhost hchain
    exact ⟨hdrawn, hfades₁, .inl ⟨e, rfl, hplugin₁⟩⟩
  obtain ⟨hplugin₁, hdrawn, hfades₁⟩ := certificateChain_cases hhost hchain
  rw [drawnAliases_append, hdrawn, List.nil_append]
  obtain ⟨answer, s₃, l₅, l₆, hjwk, h₃, rfl⟩ := Traced.bind_cases_of_total (fun _ => ⟨_, rfl⟩) h₂
  obtain ⟨hanswer₃, hplugin₃, rfl⟩ := outside_cases hjwk
  have hfades₃ : ∀ a, Fades live s₂.1 s₃.1 a := fun a => by
    rw [show s₃.1 = (host.callback.publicKeyJwk keyAlias s₂.1).2 by rw [hanswer₃]]
    exact hhost.publicKeyJwk keyAlias s₂.1 a
  have hfades : ∀ a, Fades live s.1 s₃.1 a := fun a => (hfades₁ a).trans (hfades₃ a)
  rcases Traced.bind_cases h₃ with ⟨e, rfl, herror⟩ | ⟨jwk, s₄, l₇, l₈, hok, h₄, rfl⟩
  · obtain ⟨-, rfl, rfl⟩ := Traced.lift_cases herror
    exact ⟨rfl, hfades, .inl ⟨e, rfl, hplugin₃.trans hplugin₁⟩⟩
  obtain ⟨rfl, rfl, rfl⟩ := Traced.lift_cases hok
  have halive := hhost.publicKeyJwk_ok keyAlias s₂.1 s₄.1 jwk hanswer₃
  rcases Traced.bind_cases h₄ with ⟨e, rfl, herror⟩ | ⟨kid, s₅, l₉, l₁₀, hok, h₅, rfl⟩
  · obtain ⟨-, rfl, rfl⟩ := Traced.lift_cases herror
    exact ⟨rfl, hfades, .inl ⟨e, rfl, hplugin₃.trans hplugin₁⟩⟩
  obtain ⟨hkid, rfl, rfl⟩ := Traced.lift_cases hok
  obtain ⟨createdAt, s₆, l₁₁, l₁₂, hget, h₆, rfl⟩ :=
    Traced.bind_cases_of_total (fun _ => ⟨_, rfl⟩) h₅
  obtain ⟨-, rfl, rfl⟩ := Traced.get_ok_iff.mp hget
  obtain ⟨_, s₇, l₁₃, l₁₄, hmodify, h₇, rfl⟩ :=
    Traced.bind_cases_of_total (fun _ => ⟨_, rfl⟩) h₆
  obtain ⟨rfl, rfl⟩ := Traced.modify_ok_iff.mp hmodify
  obtain ⟨rfl, rfl, rfl⟩ := Traced.pure_cases h₇
  refine ⟨rfl, hfades, .inr ⟨_, kid, ⟨kid, keyAlias, jwk, certificates, challenge, level, [],
    createdAt⟩, rfl, ?_, rfl, ?_, ?_⟩⟩
  · rw [← hplugin₁, ← hplugin₃]
  · intro jwk' hjwk'
    have hsame := (hfades₃ keyAlias).alive hjwk'
    rw [halive] at hsame
    cases hsame
    exact hkid.symm
  · intro a jwk' hjwk' hkid'
    exact hhost.distinct s₂.1 a keyAlias jwk' jwk kid ((hfades₃ a).alive hjwk') halive hkid'
      hkid.symm

/-- The record of a key, or the end of the key. -/
theorem finishOrCleanUp_cases {level : AndroidKeystoreSecurityLevel} {challenge : List UInt8}
    {r : Except WscdError GeneratedKey}
    (h : (Traced.attempt (finishGenerateKey host keyAlias level challenge) >>= fun answer =>
      match answer with
      | .ok generated => onProgress host .complete >>= fun _ => pure generated
      | .error e => deleteAfterFailedGenerate host keyAlias e >>= fun err =>
        Traced.lift (.error err)) s = (r, s', l)) :
    drawnAliases l = [] ∧ (∀ a, Fades live s.1 s'.1 a) ∧
      ((∃ e, r = .error e ∧ s'.2 = s.2 ∧ (IsUnconfirmed e ∨ live s'.1 keyAlias = none)) ∨
        ∃ generated kid key, r = .ok generated ∧ s'.2 = ⟨s.2.keys.insert kid key⟩ ∧
          key.keyAlias = keyAlias ∧
          (∀ jwk, live s'.1 keyAlias = some jwk → jwkThumbprint host.digest jwk = .ok kid) ∧
          ∀ a jwk, live s'.1 a = some jwk → jwkThumbprint host.digest jwk = .ok kid →
            a = keyAlias) := by
  obtain ⟨answer, s₁, l₁, l₂, hfinish, h₁, rfl⟩ :=
    Traced.bind_cases_of_total (fun _ => ⟨_, rfl⟩) h
  obtain ⟨hdrawn₁, hfades₁, hfinished⟩ :=
    finishGenerateKey_cases hhost (Traced.attempt_ok_iff.mp hfinish)
  rw [drawnAliases_append, hdrawn₁, List.nil_append]
  rcases hfinished with ⟨e, rfl, hplugin₁⟩ |
    ⟨generated, kid, key, rfl, hplugin₁, rfl, hnamed, hdistinct⟩
  · -- the key is there, but what it is cannot be learned
    obtain ⟨e', rfl, hplugin₂, hdrawn₂, hfades₂, hgone⟩ := cleanUp_cases hhost h₁
    exact ⟨hdrawn₂, fun a => (hfades₁ a).trans (hfades₂ a),
      .inl ⟨e', rfl, hplugin₂.trans hplugin₁, hgone⟩⟩
  · obtain ⟨_, s₂, l₃, l₄, hcomplete, h₂, rfl⟩ :=
      Traced.bind_cases_of_total (fun _ => ⟨_, rfl⟩) h₁
    obtain ⟨hplugin₂, rfl, hfades₂⟩ := onProgress_cases hhost hcomplete
    obtain ⟨rfl, rfl, rfl⟩ := Traced.pure_cases h₂
    exact ⟨rfl, fun a => (hfades₁ a).trans (hfades₂ a),
      .inr ⟨_, kid, key, rfl, hplugin₂.trans hplugin₁, rfl,
        fun jwk halive => hnamed jwk ((hfades₂ _).alive halive),
        fun a jwk halive hkid => hdistinct a jwk ((hfades₂ a).alive halive) hkid⟩⟩

theorem deleteKey_cases {kid : KeyId} {r : Except WscdError Unit}
    (h : deleteKey host kid s = (r, s', l)) :
    drawnAliases l = [] ∧ (∀ a, Fades live s.1 s'.1 a) ∧
      ((∃ e, r = .error e ∧ s'.2 = s.2) ∨
        ∃ key, r = .ok () ∧ s.2.keys.lookup kid.asStr = some key ∧
          s'.2 = ⟨s.2.keys.erase kid.asStr⟩ ∧ live s'.1 key.keyAlias = none) := by
  unfold deleteKey at h
  obtain ⟨self, s₁, l₁, l₂, hget, h₁, rfl⟩ := Traced.bind_cases_of_total (fun _ => ⟨_, rfl⟩) h
  obtain ⟨rfl, rfl, rfl⟩ := Traced.get_ok_iff.mp hget
  rcases Traced.bind_cases h₁ with ⟨e, rfl, herror⟩ | ⟨key, s₂, l₃, l₄, hok, h₂, rfl⟩
  · obtain ⟨-, rfl, rfl⟩ := Traced.lift_cases herror
    exact ⟨rfl, fun a => .inl rfl, .inl ⟨e, rfl, rfl⟩⟩
  obtain ⟨hfind, rfl, rfl⟩ := Traced.lift_cases hok
  have hlookup : s₂.2.keys.lookup kid.asStr = some key := by
    unfold findKey at hfind
    split at hfind
    · cases hfind
    · cases hfind
      assumption
  rcases Traced.bind_cases h₂ with ⟨e, rfl, herror⟩ | ⟨_, s₃, l₅, l₆, hdelete, h₃, rfl⟩
  · obtain ⟨hplugin, hdrawn, hfades, -⟩ := delete_cases hhost herror
    exact ⟨hdrawn, hfades, .inl ⟨e, rfl, hplugin⟩⟩
  obtain ⟨hplugin, hdrawn, hfades, hgone⟩ := delete_cases hhost hdelete
  obtain ⟨rfl, rfl, rfl⟩ := Traced.modify_cases h₃
  refine ⟨by rw [List.append_nil]; exact hdrawn, hfades,
    .inr ⟨key, rfl, hlookup, by rw [hplugin], hgone rfl⟩⟩

end Parts

/-! ## Whole operations -/

/-- Every live alias that was created is recorded, and every record was created, under the
thumbprint of its live key. -/
structure Accounted (host : Host W) (live : W → String → Option Json) (created : List String)
    (s : W × AndroidKeystorePlugin) : Prop where
  recorded : ∀ a ∈ created, live s.1 a ≠ none →
    ∃ kid key, s.2.keys.lookup kid = some key ∧ key.keyAlias = a
  created : ∀ kid key, s.2.keys.lookup kid = some key → key.keyAlias ∈ created
  named : ∀ kid key jwk, s.2.keys.lookup kid = some key → live s.1 key.keyAlias = some jwk →
    jwkThumbprint host.digest jwk = .ok kid

section Operations

variable {host : Host W} {live : W → String → Option Json} {created : List String}
  {s s' : W × AndroidKeystorePlugin} {l : List KeystoreEvent}

/-- Aliases that are not alive are accounted for without a record. -/
theorem Accounted.fade (h : Accounted host live created s) (hplugin : s'.2 = s.2)
    (hfades : ∀ a ∈ created, Fades live s.1 s'.1 a) {drawn : List String}
    (hdead : ∀ a ∈ drawn, live s'.1 a = none) : Accounted host live (created ++ drawn) s' where
  recorded a ha halive := by
    rw [hplugin]
    rcases List.mem_append.mp ha with ha | ha
    · obtain ⟨jwk, hjwk⟩ := Option.ne_none_iff_exists'.mp halive
      refine h.recorded a ha ?_
      rw [(hfades a ha).alive hjwk]
      nofun
    · exact absurd (hdead a ha) halive
  created kid key hkey := by
    rw [hplugin] at hkey
    exact List.mem_append_left _ (h.created kid key hkey)
  named kid key jwk hkey halive := by
    rw [hplugin] at hkey
    exact h.named kid key jwk hkey ((hfades _ (h.created kid key hkey)).alive halive)

theorem Accounted.fade_undrawn (h : Accounted host live created s) (hplugin : s'.2 = s.2)
    (hfades : ∀ a ∈ created, Fades live s.1 s'.1 a) : Accounted host live created s' := by
  rw [← List.append_nil created]
  exact h.fade hplugin hfades (by rintro a ⟨⟩)

/-- A new record under a thumbprint no other live key has. -/
theorem Accounted.file (h : Accounted host live created s) {drawn : List String} {kid : String}
    {key : StoredAndroidKey} (hplugin : s'.2 = ⟨s.2.keys.insert kid key⟩)
    (hfades : ∀ a ∈ created, Fades live s.1 s'.1 a) (hdrawn : key.keyAlias ∈ drawn)
    (hdead : ∀ a ∈ drawn, a ≠ key.keyAlias → live s'.1 a = none)
    (hnamed : ∀ jwk, live s'.1 key.keyAlias = some jwk → jwkThumbprint host.digest jwk = .ok kid)
    (hdistinct : ∀ a jwk, live s'.1 a = some jwk → jwkThumbprint host.digest jwk = .ok kid →
      a = key.keyAlias) : Accounted host live (created ++ drawn) s' where
  recorded a ha halive := by
    rw [hplugin]
    by_cases hkey : a = key.keyAlias
    · exact ⟨kid, key, Finmap.lookup_insert _, hkey.symm⟩
    rcases List.mem_append.mp ha with ha | ha
    · obtain ⟨jwk, hjwk⟩ := Option.ne_none_iff_exists'.mp halive
      have hbefore := (hfades a ha).alive hjwk
      obtain ⟨kid', key', hlookup, rfl⟩ := h.recorded a ha (by rw [hbefore]; nofun)
      -- its record is not the one that is overwritten: the thumbprints differ
      have hkid : kid' ≠ kid := by
        rintro rfl
        exact hkey (hdistinct _ jwk hjwk (h.named _ key' jwk hlookup hbefore))
      exact ⟨kid', key', (Finmap.lookup_insert_of_ne _ hkid).trans hlookup, rfl⟩
    · exact absurd (hdead a ha hkey) halive
  created kid' key' hlookup := by
    rw [hplugin, HashMap.lookup_insert_eq_ite] at hlookup
    split at hlookup
    · cases hlookup
      exact List.mem_append_right _ hdrawn
    · exact List.mem_append_left _ (h.created kid' key' hlookup)
  named kid' key' jwk hlookup halive := by
    rw [hplugin, HashMap.lookup_insert_eq_ite] at hlookup
    split at hlookup
    · rename_i heq
      cases hlookup
      rw [heq]
      exact hnamed jwk halive
    · exact h.named kid' key' jwk hlookup
        ((hfades _ (h.created kid' key' hlookup)).alive halive)

/-- A key generation that reports no unconfirmed clean-up, under aliases that are new. -/
theorem Accounted.generateKeyWithChallenge (hhost : KeepsAliases host live)
    (h : Accounted host live created s) {algorithm : Algorithm} {challenge : List UInt8}
    {r : Except WscdError GeneratedKey}
    (hrun : AndroidKeystorePlugin.generateKeyWithChallenge host algorithm challenge s =
      (r, s', l))
    (hnew : ∀ a ∈ drawnAliases l, a ∉ created)
    (hconfirmed : ∀ e, r = .error e → ¬ IsUnconfirmed e) :
    Accounted host live (created ++ drawnAliases l) s' := by
  unfold AndroidKeystorePlugin.generateKeyWithChallenge at hrun
  have hrefused : ∀ {e : WscdError}, (r, s', l) = (.error e, s, []) →
      Accounted host live (created ++ drawnAliases l) s' := by
    intro e heq
    obtain ⟨-, rfl, rfl⟩ : r = .error e ∧ s' = s ∧ l = [] := by simpa using heq
    exact h.fade rfl (fun a _ => .inl rfl) (by rintro a ⟨⟩)
  split at hrun
  · exact hrefused hrun.symm
  split at hrun
  · exact hrefused hrun.symm
  obtain ⟨_, s₁, l₁, l₂, hstarted, hrun₁, rfl⟩ :=
    Traced.bind_cases_of_total (fun _ => ⟨_, rfl⟩) hrun
  obtain ⟨hplugin₁, rfl, hfades₁⟩ := onProgress_cases hhost hstarted
  rw [List.nil_append] at hnew ⊢
  rcases Traced.bind_cases hrun₁ with
    ⟨e, rfl, herror⟩ | ⟨⟨keyAlias, level⟩, s₂, l₃, l₄, hgenerate, hrun₂, rfl⟩
  · -- no key came into being, or none is left
    obtain ⟨hplugin₂, hfades₂, ⟨_, _, hok, -⟩ | ⟨_, herr, hdead⟩⟩ :=
      bestEffortGenerate_cases hhost herror
    · cases hok
    · cases herr
      refine h.fade (hplugin₂.trans hplugin₁) (fun a ha => (hfades₁ a).trans (hfades₂ a ?_))
        (hdead.resolve_left (hconfirmed e rfl))
      exact fun hdrawn => hnew a hdrawn ha
  obtain ⟨hplugin₂, hfades₂, ⟨_, _, hok, hdrawn, hdead⟩ | ⟨_, herr, -⟩⟩ :=
    bestEffortGenerate_cases hhost hgenerate
  swap
  · cases herr
  cases hok
  obtain ⟨hdrawn₃, hfades₃, hfinished⟩ := finishOrCleanUp_cases hhost hrun₂
  rw [drawnAliases_append, hdrawn₃, List.append_nil] at hnew ⊢
  have hfades : ∀ a ∈ created, Fades live s.1 s'.1 a := by
    intro a ha
    refine ((hfades₁ a).trans (hfades₂ a ?_)).trans (hfades₃ a)
    exact fun hdrawn => hnew a hdrawn ha
  -- the one other alias there may be is that of the StrongBox attempt, deleted before the TEE's
  have hdead' : ∀ a ∈ drawnAliases l₃, a ≠ keyAlias → live s'.1 a = none :=
    fun a ha hne => (hfades₃ a).dead (hdead a ha hne)
  rcases hfinished with ⟨e, rfl, hplugin₃, hgone⟩ |
    ⟨generated, kid, key, rfl, hplugin₃, rfl, hnamed, hdistinct⟩
  · refine h.fade (hplugin₃.trans (hplugin₂.trans hplugin₁)) hfades fun a ha => ?_
    by_cases hkey : a = keyAlias
    · rw [hkey]
      exact hgone.resolve_left (hconfirmed e rfl)
    · exact hdead' a ha hkey
  · refine h.file ?_ hfades hdrawn hdead' hnamed hdistinct
    rw [hplugin₃, hplugin₂, hplugin₁]

theorem Accounted.generateKey (hhost : KeepsAliases host live)
    (h : Accounted host live created s) {algorithm : Algorithm} {r : Except WscdError GeneratedKey}
    (hrun : AndroidKeystorePlugin.generateKey host algorithm s = (r, s', l))
    (hnew : ∀ a ∈ drawnAliases l, a ∉ created)
    (hconfirmed : ∀ e, r = .error e → ¬ IsUnconfirmed e) :
    Accounted host live (created ++ drawnAliases l) s' := by
  unfold AndroidKeystorePlugin.generateKey at hrun
  obtain ⟨challenge, s₁, l₁, l₂, hchallenge, hrun₁, rfl⟩ :=
    Traced.bind_cases_of_total (fun _ => ⟨_, rfl⟩) hrun
  obtain ⟨hanswer, hplugin, rfl⟩ := outside_cases hchallenge
  have hfades : ∀ a ∈ created, Fades live s.1 s₁.1 a := by
    intro a _
    rw [← (Prod.mk.inj hanswer).2]
    exact hhost.bytes 32 s.1 a
  exact (h.fade_undrawn hplugin hfades).generateKeyWithChallenge hhost hrun₁ hnew hconfirmed

theorem Accounted.deleteKey (hhost : KeepsAliases host live) (h : Accounted host live created s)
    {kid : KeyId} {r : Except WscdError Unit}
    (hrun : AndroidKeystorePlugin.deleteKey host kid s = (r, s', l)) :
    drawnAliases l = [] ∧ Accounted host live created s' := by
  obtain ⟨hdrawn, hfades, ⟨e, rfl, hplugin⟩ | ⟨key, rfl, hkey, hplugin, hgone⟩⟩ :=
    deleteKey_cases hhost hrun
  · exact ⟨hdrawn, h.fade_undrawn hplugin fun a _ => hfades a⟩
  have hlookup : ∀ kid' key', s'.2.keys.lookup kid' = some key' →
      kid' ≠ kid.asStr ∧ s.2.keys.lookup kid' = some key' := by
    intro kid' key' h'
    rw [hplugin, HashMap.lookup_erase_eq_ite] at h'
    split at h'
    · cases h'
    · rename_i hne
      exact ⟨hne, h'⟩
  refine ⟨hdrawn, ⟨?_, fun kid' key' h' => h.created kid' key' (hlookup kid' key' h').2, ?_⟩⟩
  · intro a ha halive
    obtain ⟨jwk, hjwk⟩ := Option.ne_none_iff_exists'.mp halive
    obtain ⟨kid', key', hkey', rfl⟩ := h.recorded a ha (by rw [(hfades a).alive hjwk]; nofun)
    refine ⟨kid', key', ?_, rfl⟩
    rw [hplugin]
    -- the record that went named the alias that was deleted
    refine (Finmap.lookup_erase_ne ?_).trans hkey'
    rintro rfl
    rw [hkey] at hkey'
    cases hkey'
    exact halive hgone
  · intro kid' key' jwk h' halive
    exact h.named kid' key' jwk (hlookup kid' key' h').2 ((hfades _).alive halive)

end Operations

/-! ## Runs -/

inductive KeystoreOp where
  | generateKey (algorithm : Algorithm)
  | generateKeyWithChallenge (algorithm : Algorithm) (attestationChallenge : List UInt8)
  | deleteKey (kid : KeyId)

/-- One operation, for what it does. -/
def KeystoreOp.perform (host : Host W) : KeystoreOp → KeystoreM W Unit
  | .generateKey algorithm => do
    let _ ← AndroidKeystorePlugin.generateKey host algorithm
  | .generateKeyWithChallenge algorithm attestationChallenge => do
    let _ ← AndroidKeystorePlugin.generateKeyWithChallenge host algorithm attestationChallenge
  | .deleteKey kid => AndroidKeystorePlugin.deleteKey host kid

/-- A run of operations, each of which may fail. -/
def performAll (host : Host W) : List KeystoreOp → KeystoreM W (List (Except WscdError Unit))
  | [] => pure []
  | op :: ops => do
    let result ← Traced.attempt (op.perform host)
    let results ← performAll host ops
    return result :: results

section Runs

variable {host : Host W} {live : W → String → Option Json} {created : List String}
  {s s' : W × AndroidKeystorePlugin} {l : List KeystoreEvent}

theorem Accounted.perform (hhost : KeepsAliases host live) (h : Accounted host live created s)
    {op : KeystoreOp} {r : Except WscdError Unit} (hrun : op.perform host s = (r, s', l))
    (hnew : ∀ a ∈ drawnAliases l, a ∉ created)
    (hconfirmed : ∀ e, r = .error e → ¬ IsUnconfirmed e) :
    Accounted host live (created ++ drawnAliases l) s' := by
  cases op with
  | generateKey algorithm =>
    rcases Traced.bind_cases hrun with ⟨e, rfl, herror⟩ | ⟨_, s₁, l₁, l₂, hok, hpure, rfl⟩
    · exact h.generateKey hhost herror hnew fun e' he' => hconfirmed e' (by cases he'; rfl)
    · obtain ⟨rfl, rfl, rfl⟩ := Traced.pure_cases hpure
      rw [List.append_nil] at hnew ⊢
      exact h.generateKey hhost hok hnew (by rintro e ⟨⟩)
  | generateKeyWithChallenge algorithm challenge =>
    rcases Traced.bind_cases hrun with ⟨e, rfl, herror⟩ | ⟨_, s₁, l₁, l₂, hok, hpure, rfl⟩
    · exact h.generateKeyWithChallenge hhost herror hnew
        fun e' he' => hconfirmed e' (by cases he'; rfl)
    · obtain ⟨rfl, rfl, rfl⟩ := Traced.pure_cases hpure
      rw [List.append_nil] at hnew ⊢
      exact h.generateKeyWithChallenge hhost hok hnew (by rintro e ⟨⟩)
  | deleteKey kid =>
    obtain ⟨hdrawn, hdeleted⟩ := h.deleteKey hhost hrun
    rw [hdrawn, List.append_nil]
    exact hdeleted

theorem Accounted.performAll (hhost : KeepsAliases host live) (h : Accounted host live created s)
    {ops : List KeystoreOp} {results : List (Except WscdError Unit)}
    (hrun : AndroidKeystorePlugin.performAll host ops s = (.ok results, s', l))
    (hnew : (created ++ drawnAliases l).Nodup)
    (hconfirmed : ∀ e, .error e ∈ results → ¬ IsUnconfirmed e) :
    Accounted host live (created ++ drawnAliases l) s' := by
  induction ops generalizing s l created results with
  | nil =>
    obtain ⟨-, rfl, rfl⟩ := Traced.pure_ok_iff.mp hrun
    rw [show drawnAliases [] = [] from rfl, List.append_nil]
    exact h
  | cons op ops ih =>
    obtain ⟨result, s₁, l₁, l₂, hattempt, hrun₁, rfl⟩ := Traced.bind_ok_iff.mp hrun
    obtain ⟨results', s₂, l₃, l₄, hrest, hrun₂, rfl⟩ := Traced.bind_ok_iff.mp hrun₁
    obtain ⟨rfl, rfl, rfl⟩ := Traced.pure_ok_iff.mp hrun₂
    rw [List.append_nil, drawnAliases_append, ← List.append_assoc] at hnew ⊢
    have hfirst : ∀ a ∈ drawnAliases l₁, a ∉ created := by
      intro a ha hcreated
      exact (List.nodup_append.mp (List.nodup_append.mp hnew).1).2.2 a hcreated a ha rfl
    have h₁ := h.perform hhost (Traced.attempt_ok_iff.mp hattempt) hfirst fun e he =>
      hconfirmed e (by rw [he]; exact List.mem_cons_self)
    exact ih h₁ hrest hnew fun e he => hconfirmed e (List.mem_cons_of_mem _ he)

end Runs

/-- Whatever the host answers, as long as every clean-up is confirmed: the aliases the plugin
created are recorded while they are alive. And a deletion that fails keeps its record. -/
theorem live_aliases_are_recorded (host : Host W) (live : W → String → Option Json)
    (hhost : KeepsAliases host live) (ops : List KeystoreOp) (w w' : W)
    (self : AndroidKeystorePlugin) (results : List (Except WscdError Unit))
    (l : List KeystoreEvent)
    (hrun : performAll host ops (w, .new) = (.ok results, (w', self), l))
    (hfresh : (drawnAliases l).Nodup) :
    ((∀ e, .error e ∈ results → ¬ IsUnconfirmed e) →
      ∀ a ∈ drawnAliases l, live w' a ≠ none →
        ∃ kid key, self.keys.lookup kid = some key ∧ key.keyAlias = a) ∧
    ∀ kid e w'' self' l', deleteKey host kid (w', self) = (.error e, (w'', self'), l') →
      self' = self := by
  constructor
  · intro hconfirmed a ha halive
    have hempty : Accounted host live [] (w, .new) :=
      ⟨by rintro a ⟨⟩, by rintro kid key ⟨⟩, by rintro kid key jwk ⟨⟩⟩
    exact (hempty.performAll hhost hrun hfresh hconfirmed).recorded a ha halive
  · intro kid e w'' self' l' hdelete
    obtain ⟨-, -, ⟨_, -, hplugin⟩ | ⟨_, hok, -⟩⟩ := deleteKey_cases hhost hdelete
    · exact hplugin
    · cases hok

/-! ## A device without StrongBox -/

namespace AliasDemo

/-- The alias that is alive, and the octet to draw next. -/
abbrev World : Type := Option String × UInt8

def publicKey : Json := SoftkeyHost.pointJwk SoftkeyHost.basePoint

def live (w : World) (keyAlias : String) : Option Json :=
  if w.1 = some keyAlias then some publicKey else none

/-- The StrongBox attempt leaves its alias behind. -/
def host : Host World where
  callback :=
    { generate := fun keyAlias _ strongBox _ _ w =>
        (if strongBox then .error .strongBoxUnavailable else .ok .trustedExecution,
          some keyAlias, w.2)
      certificateChain := fun _ w => (.ok [[1]], w)
      publicKeyJwk := fun keyAlias w =>
        (if w.1 = some keyAlias then .ok publicKey else .error (.plugin "no such alias"), w)
      delete := fun _ w => (.ok (), none, w.2) }
  progress := ⟨fun _ w => w⟩
  rng :=
    { bytes := fun n w => (List.replicate n w.2, w.1, w.2 + 1)
      secretKey := fun w => (⟨1, by decide⟩, w)
      length_bytes := fun _ _ => List.length_replicate }
  digest := ⟨Lib.sha256, base64url⟩
  nowUnix _ := 0

theorem keepsAliases : KeepsAliases host live where
  generate keyAlias challenge strongBox methods unlocked w a hne := by
    refine .inr (if_neg ?_)
    rintro ⟨⟩
    exact hne rfl
  certificateChain _ _ _ := .inl rfl
  publicKeyJwk _ _ _ := .inl rfl
  publicKeyJwk_ok keyAlias w w' jwk h := by
    unfold live
    cases hw : decide (w.1 = some keyAlias) with
    | true =>
      rw [if_pos (of_decide_eq_true hw)]
      simp only [host, if_pos (of_decide_eq_true hw)] at h
      cases h
      rfl
    | false =>
      simp only [host, if_neg (of_decide_eq_false hw)] at h
      cases h
  delete _ _ _ := .inr rfl
  delete_ok keyAlias w w' h := by
    cases h
    rfl
  bytes _ _ _ := .inl rfl
  onProgress _ _ _ := .inl rfl
  distinct w a b ja jb kid ha hb _ _ := by
    -- there is one at a time
    unfold live at ha hb
    split at ha
    · split at hb
      · simp_all
      · cases hb
    · cases ha

end AliasDemo

theorem live_aliases_are_recorded_without_strongBox :
    ∃ kid key,
      (performAll AliasDemo.host [.generateKeyWithChallenge .es256 [7]]
        ((none, 0), .new)).2.1.2.keys.lookup kid = some key ∧
      key.keyAlias = "org.siros.wscd.android-keystore.AQEBAQEBAQEBAQEBAQEBAQ" :=
  (live_aliases_are_recorded AliasDemo.host AliasDemo.live AliasDemo.keepsAliases
    [.generateKeyWithChallenge .es256 [7]] (none, 0) _ _ [.ok ()] _
    (Prod.ext (by decide +kernel) rfl) (by decide +kernel)).1
    (by rintro e (_ | ⟨_, ⟨⟩⟩)) _ (by decide +kernel) (by decide +kernel)

end Wscd.AndroidKeystorePlugin
