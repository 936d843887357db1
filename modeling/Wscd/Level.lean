import Wscd.Manager

/-!
# Confirming a level: what the candidate walk does

`attempt` says what one candidate comes to, entirely in terms of that candidate's own
plugin; `goesOn` says which outcomes pass to the next candidate and `result` what an
outcome returns when the walk ends with it. The loop of `generate_key_for_level`
reaches its plugin three more times through the routing table, so that both agree is
a fact about the bindings.

Results:
1. `tryCandidate_eq`: one pass of the loop is one `attempt`.
2. `generateKeyForLevel_eq_of_ends`: the walk returns what its last attempt returns.
3. `generateKeyForLevel_walk`: the walk of the whole operation.
4. `generateKeyForLevel_spec`: the specification of the whole operation.
-/

namespace Wscd

open Lib

/-! ## One candidate -/

/-- What one candidate comes to. -/
inductive Outcome where
  | unresolved (pluginId : String)
  | generateFailed (e : WscdError)
  | collided (pluginId : String) (generated : GeneratedKey) (existing : String)
  | kept (generated : GeneratedKey)
  /-- Rejected because of `e`, and its key deleted. -/
  | discarded (generated : GeneratedKey) (e : WscdError)
  /-- Rejected, but its key could not be deleted. -/
  | undeletable (generated : GeneratedKey) (msg : String)

namespace Outcome

/-- The walk passes on to the next candidate. -/
def goesOn : Outcome → Bool
  | .unresolved _ | .collided _ _ _ | .discarded _ _ => true
  | .generateFailed e => !Sys.stopsOperation e
  | .kept _ | .undeletable _ _ => false

/-- What the operation returns when the walk ends with this outcome. -/
def result : Outcome → Except WscdError GeneratedKey
  | .unresolved pluginId => .error (.noPlugin pluginId)
  | .generateFailed e => .error e
  | .collided pluginId g existing => .error (.plugin (Sys.collisionMsg pluginId g.kid existing))
  | .kept g => .ok g
  | .discarded _ e => .error e
  | .undeletable _ msg => .error (.plugin msg)

/-- An outcome that is passed over carries an error. -/
theorem exists_error_of_goesOn {o : Outcome} (h : o.goesOn = true) : ∃ e, o.result = .error e := by
  cases o with
  | kept g => cases h
  | undeletable g msg => cases h
  | unresolved id => exact ⟨_, rfl⟩
  | generateFailed e => exact ⟨_, rfl⟩
  | collided id g existing => exact ⟨_, rfl⟩
  | discarded g e => exact ⟨_, rfl⟩

end Outcome

namespace Sys

variable {S E : Type}

/-- How the loop goes on from an outcome. -/
def afterOutcome : Outcome × Sys S E →
    Ctl (LevelState S E) (Except WscdError GeneratedKey × Sys S E)
  | (o, sys) =>
    if o.goesOn then
      match o.result with
      | .error e => .next (sys, some e)
      | .ok g => .ret (.ok g, sys)
    else .ret (o.result, sys)

theorem afterOutcome_of_goesOn {o : Outcome} (sys : Sys S E) (h : o.goesOn = true) :
    ∃ e, o.result = .error e ∧ afterOutcome (o, sys) = .next (sys, some e) := by
  obtain ⟨e, he⟩ := Outcome.exists_error_of_goesOn h
  exact ⟨e, he, by simp only [afterOutcome, h, he, if_true]⟩

theorem afterOutcome_of_not_goesOn {o : Outcome} (sys : Sys S E) (h : o.goesOn = false) :
    afterOutcome (o, sys) = .ret (o.result, sys) := by
  simp [afterOutcome, h]

/-! ### A key routed to its own plugin -/

/-- The plugin `id` is registered and `kid` is bound to it. -/
def Routed (sys : Sys S E) (kid : KeyId) (id : String) : Prop :=
  (∃ p, sys.manager.plugins.lookup id = some p) ∧
    sys.manager.config.keyBindings.lookup kid = some id

theorem Routed.call {α : Type} {sys : Sys S E} {kid : KeyId} {id : String}
    (h : sys.Routed kid id) (p : Plugin S) (method : Method) (f : PluginM S E α) :
    (sys.call p method f).2.Routed kid id := by
  obtain ⟨⟨q, hq⟩, hb⟩ := h
  refine ⟨?_, hb⟩
  rw [call_lookup]
  split
  · exact ⟨_, rfl⟩
  · exact ⟨q, hq⟩

theorem Routed.resolve {sys : Sys S E} {kid : KeyId} {id : String} (h : sys.Routed kid id)
    (op : String) :
    ∃ q, sys.manager.resolveForKey kid op = .ok q ∧ sys.manager.plugins.lookup id = some q := by
  obtain ⟨⟨q, hq⟩, hb⟩ := h
  exact ⟨q, by rw [WscdManager.resolveForKey_of_bound hb, WscdManager.getPlugin_of_lookup hq], hq⟩

theorem routed_bind_of_call {α : Type} {sys sys₁ : Sys S E} {p : Plugin S} {method : Method}
    {f : PluginM S E α} {r : Except WscdError α} (h : sys.call p method f = (r, sys₁))
    (kid : KeyId) : (sys₁.bind kid p.id).Routed kid p.id := by
  refine ⟨⟨⟨p.id, (f (sys.current p) sys.env).2.1⟩, ?_⟩, ?_⟩
  · have hlook := call_lookup sys p method f p.id
    rw [h, if_pos rfl] at hlook
    exact hlook
  · exact Finmap.lookup_insert _

/-! ### Registrations and calls -/

/-- `sys'` has the registrations of `sys`, and the calls of `generate_key` made in between
are those of `ids`. -/
structure Generated (ids : List String) (sys sys' : Sys S E) : Prop where
  registered : ∀ id, sys'.registered id = sys.registered id
  calls : sys'.generateCalls = sys.generateCalls ++ ids

theorem Generated.refl (sys : Sys S E) : Generated [] sys sys :=
  ⟨fun _ => rfl, (List.append_nil _).symm⟩

theorem Generated.trans {ids ids' : List String} {sys sys' sys'' : Sys S E}
    (h : Generated ids sys sys') (h' : Generated ids' sys' sys'') :
    Generated (ids ++ ids') sys sys'' where
  registered id := (h'.registered id).trans (h.registered id)
  calls := by rw [h'.calls, h.calls, List.append_assoc]

theorem Generated.bind {ids : List String} {sys sys' : Sys S E} (h : Generated ids sys sys')
    (kid : KeyId) (id : String) : Generated ids sys (sys'.bind kid id) :=
  ⟨h.registered, h.calls⟩

theorem Generated.unbind {ids : List String} {sys sys' : Sys S E} (h : Generated ids sys sys')
    (kid : KeyId) : Generated ids sys (sys'.unbind kid) :=
  ⟨h.registered, h.calls⟩

theorem Generated.of_call {α : Type} {sys sys' : Sys S E} {p : Plugin S} {method : Method}
    {f : PluginM S E α} {r : Except WscdError α} (h : sys.call p method f = (r, sys'))
    (hp : sys.registered p.id = true) :
    Generated (match method with | .generateKey _ => [p.id] | _ => []) sys sys' := by
  have hs : sys' = (sys.call p method f).2 := by rw [h]
  subst hs
  constructor
  · intro id
    unfold Sys.registered at hp ⊢
    rw [call_lookup]
    by_cases hid : id = p.id
    · rw [if_pos hid, hid, hp]
      rfl
    · rw [if_neg hid]
  · simp only [generateCalls, call_calls, List.filterMap_append]
    cases method <;> rfl

variable [WscdPlugin S E]

/-- Give up the key `g` of the plugin behind `p` because of `e`. -/
def discard (sys : Sys S E) (p : Plugin S) (g : GeneratedKey) (e : WscdError)
    (msg : WscdError → String) : Outcome × Sys S E :=
  match sys.call p (.deleteKey g.kid) (WscdPlugin.deleteKey g.kid) with
  | (.error deleteErr, sys') => (.undeletable g (msg deleteErr), sys')
  | (.ok _, sys') => (.discarded g e, sys'.unbind g.kid)

/-- Keep the fresh key `g` of `p` if the level `p` itself confirms is high enough. -/
def confirm (sys : Sys S E) (required : CertificationLevel) (p : Plugin S) (g : GeneratedKey) :
    Outcome × Sys S E :=
  match sys.call p (.securityProperties g.kid) (query (WscdPlugin.securityProperties g.kid)) with
  | (.error e, sys') => sys'.discard p g e (unconfirmedLevelMsg p.id e)
  | (.ok props, sys') =>
    if certificationRank props.certification ≥ certificationRank required then (.kept g, sys')
    else
      let shortfall := shortfallErr p.id props.certification required
      sys'.discard p g shortfall (insufficientKeyMsg shortfall)

/-- What the candidate `pluginId` comes to. -/
def attempt (required : CertificationLevel) (algorithm : Algorithm) (pluginId : String)
    (sys : Sys S E) : Outcome × Sys S E :=
  match sys.manager.plugins.lookup pluginId with
  | none => (.unresolved pluginId, sys)
  | some p =>
    match sys.call p (.generateKey algorithm) (WscdPlugin.generateKey algorithm) with
    | (.error e, sys') => (.generateFailed e, sys')
    | (.ok g, sys') =>
      match sys.manager.config.keyBindings.lookup g.kid with
      | some existing =>
        if existing ≠ pluginId then (.collided pluginId g existing, sys')
        else (sys'.bind g.kid pluginId).confirm required p g
      | none => (sys'.bind g.kid pluginId).confirm required p g

/-! ## The routing agrees with the candidate's own plugin -/

/-- A bound key is deleted on the plugin it is bound to. -/
theorem deleteKey_of_routed {sys : Sys S E} {kid : KeyId} {p : Plugin S}
    (h : sys.Routed kid p.id) :
    sys.deleteKey kid =
      match sys.call p (.deleteKey kid) (WscdPlugin.deleteKey kid) with
      | (.error e, sys') => (.error e, sys')
      | (.ok _, sys') => (.ok (), sys'.unbind kid) := by
  obtain ⟨q, hq, hl⟩ := h.resolve "delete"
  cases hd : sys.call p (.deleteKey kid) (WscdPlugin.deleteKey kid) with
  | mk r sys' => cases r <;> simp only [deleteKey, hq, call_congr _ _ hl, hd]

theorem securityProperties_of_routed {sys : Sys S E} {kid : KeyId} {p : Plugin S}
    (h : sys.Routed kid p.id) :
    sys.securityProperties kid =
      sys.call p (.securityProperties kid) (query (WscdPlugin.securityProperties kid)) := by
  obtain ⟨q, hq, hl⟩ := h.resolve "security_properties"
  simp only [securityProperties, hq, call_congr _ _ hl]

theorem deleteKey_discard {sys : Sys S E} {p : Plugin S} {g : GeneratedKey}
    (h : sys.Routed g.kid p.id) (e : WscdError) (msg : WscdError → String) :
    (match sys.deleteKey g.kid with
      | (.error deleteErr, sys') => .ret (.error (.plugin (msg deleteErr)), sys')
      | (.ok _, sys') => .next (sys', some e)) = afterOutcome (sys.discard p g e msg) := by
  rw [deleteKey_of_routed h, discard]
  cases hd : sys.call p (.deleteKey g.kid) (WscdPlugin.deleteKey g.kid) with
  | mk r sys' => cases r <;> rfl

/-- The loop's own way of confirming a key that it has just bound. -/
theorem confirm_of_routed {sys : Sys S E} {p : Plugin S} {g : GeneratedKey}
    (required : CertificationLevel) (h : sys.Routed g.kid p.id) :
    (match sys.securityProperties g.kid with
      | (.error e, sys₂) =>
        match sys₂.deleteKey g.kid with
        | (.error deleteErr, sys₃) =>
          .ret (.error (.plugin (unconfirmedLevelMsg p.id e deleteErr)), sys₃)
        | (.ok _, sys₃) => .next (sys₃, some e)
      | (.ok props, sys₂) =>
        if certificationRank props.certification ≥ certificationRank required then
          .ret (.ok g, sys₂)
        else
          let shortfall := shortfallErr p.id props.certification required
          match sys₂.deleteKey g.kid with
          | (.error deleteErr, sys₃) =>
            .ret (.error (.plugin (insufficientKeyMsg shortfall deleteErr)), sys₃)
          | (.ok _, sys₃) => .next (sys₃, some shortfall)) =
      afterOutcome (sys.confirm required p g) := by
  rw [securityProperties_of_routed h, confirm]
  have hrouted := h.call p (.securityProperties g.kid) (query (WscdPlugin.securityProperties g.kid))
  cases hs : sys.call p (.securityProperties g.kid)
      (query (WscdPlugin.securityProperties g.kid)) with
  | mk r sys₂ =>
    rw [hs] at hrouted
    cases r with
    | error e => exact deleteKey_discard hrouted e (unconfirmedLevelMsg p.id e)
    | ok props =>
      by_cases hrank : certificationRank props.certification ≥ certificationRank required
      · simp only [if_pos hrank]
        rfl
      · simp only [if_neg hrank]
        exact deleteKey_discard hrouted _ (insufficientKeyMsg _)

/-- One pass of the loop is one attempt. -/
theorem tryCandidate_eq (required : CertificationLevel) (algorithm : Algorithm)
    (pluginId : String) (sys : Sys S E) (lastErr : Option WscdError) :
    tryCandidate required algorithm pluginId (sys, lastErr) =
      afterOutcome (attempt required algorithm pluginId sys) := by
  unfold tryCandidate attempt
  cases hl : sys.manager.plugins.lookup pluginId with
  | none =>
    simp only [WscdManager.getPlugin, hl]
    rfl
  | some p =>
    obtain rfl : p.id = pluginId := sys.manager.id_eq _ _ hl
    simp only [WscdManager.getPlugin, hl, generateKeyOn]
    cases hc : sys.call p (.generateKey algorithm) (WscdPlugin.generateKey algorithm) with
    | mk r sys₁ =>
      cases r with
      | error e =>
        cases he : stopsOperation e <;> simp [afterOutcome, Outcome.goesOn, Outcome.result, he]
      | ok g =>
        simp only [config_of_call hc]
        have hconfirm := confirm_of_routed required (routed_bind_of_call hc g.kid)
        cases hb : sys.manager.config.keyBindings.lookup g.kid with
        | none => exact hconfirm
        | some existing =>
          by_cases hex : existing = p.id
          · simp only [hex, ne_eq, not_true_eq_false, if_false]
            exact hconfirm
          · simp only [ne_eq, hex, not_false_eq_true, if_true]
            rfl

/-! ## The walk -/

/-- The candidates of `visited` are passed over, each with the outcome given there. -/
inductive PassedOver (required : CertificationLevel) (algorithm : Algorithm) :
    List (String × Outcome) → Sys S E → Sys S E → Prop
  | nil {sys : Sys S E} : PassedOver required algorithm [] sys sys
  | cons {pluginId : String} {o : Outcome} {visited : List (String × Outcome)}
      {sys sys' sys'' : Sys S E} :
      attempt required algorithm pluginId sys = (o, sys') → o.goesOn = true →
      PassedOver required algorithm visited sys' sys'' →
      PassedOver required algorithm ((pluginId, o) :: visited) sys sys''

/-- A pass that goes on is an attempt that is passed over. -/
theorem attempt_of_next {required : CertificationLevel} {algorithm : Algorithm} {c : String}
    {st st' : LevelState S E} (h : tryCandidate required algorithm c st = .next st') :
    (attempt required algorithm c st.1).1.goesOn = true ∧
      (attempt required algorithm c st.1).2 = st'.1 := by
  rw [tryCandidate_eq] at h
  cases hgo : (attempt required algorithm c st.1).1.goesOn with
  | true =>
    obtain ⟨e, -, heq⟩ := afterOutcome_of_goesOn (attempt required algorithm c st.1).2 hgo
    cases heq.symm.trans h
    exact ⟨rfl, rfl⟩
  | false =>
    cases (afterOutcome_of_not_goesOn (attempt required algorithm c st.1).2 hgo).symm.trans h

theorem passedOver_of_passes {required : CertificationLevel} {algorithm : Algorithm}
    {pre : List String} {st st' : LevelState S E}
    (h : Passes (tryCandidate required algorithm) pre st st') :
    ∃ visited, visited.map Prod.fst = pre ∧ PassedOver required algorithm visited st.1 st'.1 := by
  induction h with
  | nil => exact ⟨[], rfl, .nil⟩
  | @cons c pre st st₁ st₂ hc _ ih =>
    obtain ⟨visited, rfl, hvisited⟩ := ih
    obtain ⟨hgo, hst₁⟩ := attempt_of_next hc
    rw [← hst₁] at hvisited
    exact ⟨(c, _) :: visited, rfl, .cons rfl hgo hvisited⟩

/-- A walk that has come as far as `c` is a walk of its own from there. -/
theorem generateKeyForLevel_of_passes {required : CertificationLevel} {algorithm : Algorithm}
    {pre post : List String} {c : String} {sys sys₁ : Sys S E} {lastErr : Option WscdError}
    (h : Passes (tryCandidate required algorithm) pre (sys, none) (sys₁, lastErr)) :
    sys.generateKeyForLevel required (pre ++ c :: post) algorithm =
      sys₁.generateKeyForLevel required (c :: post) algorithm := by
  have hempty : (pre ++ c :: post).isEmpty = false := by simp
  unfold generateKeyForLevel
  rw [hempty, h.forLoop_append]
  rfl

theorem generateKeyForLevel_of_stops {required : CertificationLevel} {algorithm : Algorithm}
    {c : String} {sys : Sys S E} (post : List String)
    (h : (attempt required algorithm c sys).1.goesOn = false) :
    sys.generateKeyForLevel required (c :: post) algorithm =
      ((attempt required algorithm c sys).1.result, (attempt required algorithm c sys).2) := by
  have hret := (tryCandidate_eq required algorithm c sys none).trans
    (afterOutcome_of_not_goesOn (attempt required algorithm c sys).2 h)
  unfold generateKeyForLevel
  rw [forLoop_cons_ret hret]
  rfl

theorem generateKeyForLevel_of_goesOn {required : CertificationLevel} {algorithm : Algorithm}
    {c : String} {sys : Sys S E} (post : List String)
    (h : (attempt required algorithm c sys).1.goesOn = true) :
    sys.generateKeyForLevel required (c :: post) algorithm =
      if post = [] then
        ((attempt required algorithm c sys).1.result, (attempt required algorithm c sys).2)
      else (attempt required algorithm c sys).2.generateKeyForLevel required post algorithm := by
  obtain ⟨e, he, hnext⟩ := afterOutcome_of_goesOn (attempt required algorithm c sys).2 h
  have hnext := (tryCandidate_eq required algorithm c sys none).trans hnext
  cases post with
  | nil =>
    unfold generateKeyForLevel
    rw [forLoop_cons_next hnext, he]
    rfl
  | cons c' post =>
    rw [if_neg (List.cons_ne_nil c' post)]
    unfold generateKeyForLevel
    rw [forLoop_cons_next hnext]
    rfl

/-- The walk passes over some candidates and returns what its last attempt returns; only a
walk that has reached the end of the list may end with an outcome that goes on. -/
theorem generateKeyForLevel_last (sys : Sys S E) (required : CertificationLevel)
    {candidates : List String} (algorithm : Algorithm) (hne : candidates ≠ []) :
    ∃ visited c post sys₁, candidates = visited.map Prod.fst ++ c :: post ∧
      PassedOver required algorithm visited sys sys₁ ∧
      ((attempt required algorithm c sys₁).1.goesOn = true → post = []) ∧
      sys.generateKeyForLevel required candidates algorithm =
        ((attempt required algorithm c sys₁).1.result, (attempt required algorithm c sys₁).2) := by
  obtain ⟨pre, c, post, ⟨sys₁, lastErr⟩, rfl, hpass, heq, hlast⟩ :=
    forLoop_last (tryCandidate required algorithm) hne (sys, none)
  obtain ⟨visited, rfl, hvisited⟩ := passedOver_of_passes hpass
  have hempty : (visited.map Prod.fst ++ c :: post).isEmpty = false := by simp
  rw [tryCandidate_eq] at heq hlast
  refine ⟨visited, c, post, sys₁, rfl, hvisited, ?_, ?_⟩
  · intro hgo
    obtain ⟨e, -, hnext⟩ := afterOutcome_of_goesOn (attempt required algorithm c sys₁).2 hgo
    exact hlast _ hnext
  · unfold generateKeyForLevel
    rw [hempty, if_neg Bool.false_ne_true, heq]
    cases hgo : (attempt required algorithm c sys₁).1.goesOn with
    | true =>
      obtain ⟨e, he, hnext⟩ := afterOutcome_of_goesOn (attempt required algorithm c sys₁).2 hgo
      rw [hnext, he]
      rfl
    | false => rw [afterOutcome_of_not_goesOn (attempt required algorithm c sys₁).2 hgo]

/-! ## The specification -/

/-- Why a fresh key is not kept, given what its own plugin says about it: the error the walk
remembers, and the text that reports a failed deletion. -/
inductive Rejected (required : CertificationLevel) (pluginId : String) :
    Except WscdError SecurityProperties → WscdError → (WscdError → String) → Prop
  | unconfirmed {e : WscdError} :
      Rejected required pluginId (.error e) e (unconfirmedLevelMsg pluginId e)
  | short {props : SecurityProperties} :
      certificationRank props.certification < certificationRank required →
      Rejected required pluginId (.ok props) (shortfallErr pluginId props.certification required)
        (insufficientKeyMsg (shortfallErr pluginId props.certification required))

/-- `Attempted c sys o sys'`: what trying the candidate `c` in `sys` comes to. Every premise
is about the plugin registered as `c`: what it answers to `generate_key`, then to
`security_properties` and `delete_key` for the key it has just made. -/
inductive Attempted (required : CertificationLevel) (algorithm : Algorithm) (c : String)
    (sys : Sys S E) : Outcome → Sys S E → Prop
  | unresolved : sys.manager.plugins.lookup c = none →
      Attempted required algorithm c sys (.unresolved c) sys
  | generateFailed {p : Plugin S} {e : WscdError} {sys₁ : Sys S E} :
      sys.manager.plugins.lookup c = some p →
      sys.call p (.generateKey algorithm) (WscdPlugin.generateKey algorithm) = (.error e, sys₁) →
      Attempted required algorithm c sys (.generateFailed e) sys₁
  | collided {p : Plugin S} {g : GeneratedKey} {existing : String} {sys₁ : Sys S E} :
      sys.manager.plugins.lookup c = some p →
      sys.call p (.generateKey algorithm) (WscdPlugin.generateKey algorithm) = (.ok g, sys₁) →
      sys.manager.boundTo g.kid = some existing → existing ≠ c →
      Attempted required algorithm c sys (.collided c g existing) sys₁
  | kept {p : Plugin S} {g : GeneratedKey} {props : SecurityProperties} {sys₁ sys₂ : Sys S E} :
      sys.manager.plugins.lookup c = some p →
      sys.call p (.generateKey algorithm) (WscdPlugin.generateKey algorithm) = (.ok g, sys₁) →
      (∀ existing, sys.manager.boundTo g.kid = some existing → existing = c) →
      (sys₁.bind g.kid c).call p (.securityProperties g.kid)
        (query (WscdPlugin.securityProperties g.kid)) = (.ok props, sys₂) →
      certificationRank required ≤ certificationRank props.certification →
      Attempted required algorithm c sys (.kept g) sys₂
  | discarded {p : Plugin S} {g : GeneratedKey} {answer : Except WscdError SecurityProperties}
      {e : WscdError} {msg : WscdError → String} {sys₁ sys₂ sys₃ : Sys S E} :
      sys.manager.plugins.lookup c = some p →
      sys.call p (.generateKey algorithm) (WscdPlugin.generateKey algorithm) = (.ok g, sys₁) →
      (∀ existing, sys.manager.boundTo g.kid = some existing → existing = c) →
      (sys₁.bind g.kid c).call p (.securityProperties g.kid)
        (query (WscdPlugin.securityProperties g.kid)) = (answer, sys₂) →
      Rejected required c answer e msg →
      sys₂.call p (.deleteKey g.kid) (WscdPlugin.deleteKey g.kid) = (.ok (), sys₃) →
      Attempted required algorithm c sys (.discarded g e) (sys₃.unbind g.kid)
  | undeletable {p : Plugin S} {g : GeneratedKey} {answer : Except WscdError SecurityProperties}
      {e deleteErr : WscdError} {msg : WscdError → String} {sys₁ sys₂ sys₃ : Sys S E} :
      sys.manager.plugins.lookup c = some p →
      sys.call p (.generateKey algorithm) (WscdPlugin.generateKey algorithm) = (.ok g, sys₁) →
      (∀ existing, sys.manager.boundTo g.kid = some existing → existing = c) →
      (sys₁.bind g.kid c).call p (.securityProperties g.kid)
        (query (WscdPlugin.securityProperties g.kid)) = (answer, sys₂) →
      Rejected required c answer e msg →
      sys₂.call p (.deleteKey g.kid) (WscdPlugin.deleteKey g.kid) = (.error deleteErr, sys₃) →
      Attempted required algorithm c sys (.undeletable g (msg deleteErr)) sys₃

/-- A fresh key of `c` that nothing else is bound to is confirmed by `c`, kept or given up. -/
theorem attempted_of_confirm {required : CertificationLevel} {algorithm : Algorithm} {c : String}
    {sys sys₁ : Sys S E} {p : Plugin S} {g : GeneratedKey}
    (hl : sys.manager.plugins.lookup c = some p)
    (hg : sys.call p (.generateKey algorithm) (WscdPlugin.generateKey algorithm) = (.ok g, sys₁))
    (hfree : ∀ existing, sys.manager.boundTo g.kid = some existing → existing = c) :
    Attempted required algorithm c sys ((sys₁.bind g.kid c).confirm required p g).1
      ((sys₁.bind g.kid c).confirm required p g).2 := by
  have hid : p.id = c := sys.manager.id_eq _ _ hl
  have hdiscard : ∀ answer sys₂ e msg,
      (sys₁.bind g.kid c).call p (.securityProperties g.kid)
        (query (WscdPlugin.securityProperties g.kid)) = (answer, sys₂) →
      Rejected required c answer e msg →
      Attempted required algorithm c sys (sys₂.discard p g e msg).1 (sys₂.discard p g e msg).2 := by
    intro answer sys₂ e msg hs hrej
    unfold discard
    cases hd : sys₂.call p (.deleteKey g.kid) (WscdPlugin.deleteKey g.kid) with
    | mk r sys₃ =>
      cases r with
      | error deleteErr => exact .undeletable hl hg hfree hs hrej hd
      | ok u => exact .discarded hl hg hfree hs hrej hd
  unfold confirm
  cases hs : (sys₁.bind g.kid c).call p (.securityProperties g.kid)
      (query (WscdPlugin.securityProperties g.kid)) with
  | mk answer sys₂ =>
    cases answer with
    | error e => exact hdiscard _ _ _ _ hs (hid ▸ .unconfirmed)
    | ok props =>
      by_cases hrank : certificationRank props.certification ≥ certificationRank required
      · simp only [if_pos hrank]
        exact .kept hl hg hfree hs hrank
      · simp only [if_neg hrank]
        exact hdiscard _ _ _ _ hs (hid ▸ .short (Nat.lt_of_not_le hrank))

theorem attempt_attempted (required : CertificationLevel) (algorithm : Algorithm) (c : String)
    (sys : Sys S E) :
    Attempted required algorithm c sys (attempt required algorithm c sys).1
      (attempt required algorithm c sys).2 := by
  unfold attempt
  cases hl : sys.manager.plugins.lookup c with
  | none => exact .unresolved hl
  | some p =>
    dsimp only
    cases hg : sys.call p (.generateKey algorithm) (WscdPlugin.generateKey algorithm) with
    | mk r sys₁ =>
      cases r with
      | error e => exact .generateFailed hl hg
      | ok g =>
        dsimp only
        cases hb : sys.manager.config.keyBindings.lookup g.kid with
        | none =>
          refine attempted_of_confirm hl hg fun existing h => ?_
          exact absurd (hb.symm.trans h) (Option.some_ne_none _).symm
        | some existing =>
          by_cases hex : existing = c
          · simp only [hex, ne_eq, not_true_eq_false, if_false]
            refine attempted_of_confirm hl hg fun other h => ?_
            exact (Option.some.inj (hb.symm.trans h)).symm.trans hex
          · simp only [ne_eq, hex, not_false_eq_true, if_true]
            exact .collided hl hg hb hex

/-- A candidate whose own plugin fails to generate a key. -/
theorem attempt_of_error {required : CertificationLevel} {algorithm : Algorithm} {sys : Sys S E}
    {p : Plugin S} {e : WscdError} (hl : sys.manager.plugins.lookup p.id = some p)
    (h : (WscdPlugin.generateKey algorithm p.self sys.env).1 = .error e) :
    (attempt required algorithm p.id sys).1 = .generateFailed e := by
  unfold attempt
  rw [hl]
  dsimp only
  rcases hc : sys.call p (.generateKey algorithm) (WscdPlugin.generateKey algorithm) with ⟨r, sys'⟩
  have hr := fst_of_call hc
  rw [current_of_lookup hl, h] at hr
  subst hr
  rfl

/-! ### Registrations and calls along the walk -/

/-- Trying a candidate calls the `generate_key` of that candidate alone, if it is registered. -/
theorem Attempted.generated {required : CertificationLevel} {algorithm : Algorithm} {c : String}
    {sys sys' : Sys S E} {o : Outcome} (h : Attempted required algorithm c sys o sys') :
    Generated ([c].filter sys.registered) sys sys' := by
  have hreg : ∀ {p}, sys.manager.plugins.lookup c = some p → p.id = c ∧ sys.registered c = true :=
    fun hl => ⟨sys.manager.id_eq _ _ hl, by simp [registered, hl]⟩
  have hgen : ∀ {p r sys₁}, sys.manager.plugins.lookup c = some p →
      sys.call p (.generateKey algorithm) (WscdPlugin.generateKey algorithm) = (r, sys₁) →
      Generated ([c].filter sys.registered) sys sys₁ ∧ sys₁.registered p.id = true := by
    intro p r sys₁ hl hg
    obtain ⟨hid, hc⟩ := hreg hl
    have hgenerated := Generated.of_call hg (hid ▸ hc)
    refine ⟨?_, ?_⟩
    · simpa [hc, hid] using hgenerated
    · rw [hgenerated.registered, hid, hc]
  cases h with
  | unresolved hl =>
    have : sys.registered c = false := by simp [registered, hl]
    simpa [this] using Generated.refl sys
  | generateFailed hl hg => exact (hgen hl hg).1
  | collided hl hg _ _ => exact (hgen hl hg).1
  | kept hl hg _ hs _ =>
    obtain ⟨hgen₁, hp₁⟩ := hgen hl hg
    simpa using (hgen₁.bind _ c).trans (Generated.of_call hs hp₁)
  | discarded hl hg _ hs _ hd =>
    obtain ⟨hgen₁, hp₁⟩ := hgen hl hg
    have hgen₂ := Generated.of_call hs hp₁
    have hgen₃ := Generated.of_call hd ((hgen₂.registered _).trans hp₁)
    simpa using ((hgen₁.bind _ c).trans (hgen₂.trans hgen₃)).unbind _
  | undeletable hl hg _ hs _ hd =>
    obtain ⟨hgen₁, hp₁⟩ := hgen hl hg
    have hgen₂ := Generated.of_call hs hp₁
    have hgen₃ := Generated.of_call hd ((hgen₂.registered _).trans hp₁)
    simpa using (hgen₁.bind _ c).trans (hgen₂.trans hgen₃)

theorem PassedOver.generated {required : CertificationLevel} {algorithm : Algorithm}
    {visited : List (String × Outcome)} {sys sys' : Sys S E}
    (h : PassedOver required algorithm visited sys sys') :
    Generated ((visited.map Prod.fst).filter sys.registered) sys sys' := by
  induction h with
  | nil => exact Generated.refl _
  | @cons c o visited sys sys₁ sys₂ hc _ _ ih =>
    have hone := (attempt_attempted required algorithm c sys).generated
    rw [hc] at hone
    have hsame : sys₁.registered = sys.registered := funext hone.registered
    rw [hsame] at ih
    have htrans := hone.trans ih
    rwa [← List.filter_append] at htrans

/-- A kept key is bound to the candidate that made it. -/
theorem Attempted.bound_of_kept {required : CertificationLevel} {algorithm : Algorithm}
    {c : String} {sys sys' : Sys S E} {g : GeneratedKey}
    (h : Attempted required algorithm c sys (.kept g) sys') :
    sys'.manager.boundTo g.kid = some c := by
  cases h with
  | kept _ hg _ hs _ =>
    rw [WscdManager.boundTo, config_of_call hs]
    exact Finmap.lookup_insert _

/-- The operation is a walk over the candidates that ends with the last it tries. -/
theorem generateKeyForLevel_walk (sys : Sys S E) (required : CertificationLevel)
    (candidates : List String) (algorithm : Algorithm) :
    (candidates = [] ∧ sys.generateKeyForLevel required candidates algorithm =
      (.error (.noPlugin noCandidatesMsg), sys)) ∨
    ∃ visited c post sys₁ o sys₂, candidates = visited.map Prod.fst ++ c :: post ∧
      PassedOver required algorithm visited sys sys₁ ∧
      Attempted required algorithm c sys₁ o sys₂ ∧ (o.goesOn = true → post = []) ∧
      sys.generateKeyForLevel required candidates algorithm = (o.result, sys₂) ∧
      (∀ g, o = .kept g → sys₂.manager.boundTo g.kid = some c) ∧
      sys₂.generateCalls =
        sys.generateCalls ++ (visited.map Prod.fst ++ [c]).filter sys.registered := by
  by_cases hne : candidates = []
  · subst hne
    exact .inl ⟨rfl, rfl⟩
  · obtain ⟨visited, c, post, sys₁, hsplit, hpassed, hpost, heq⟩ :=
      generateKeyForLevel_last sys required algorithm hne
    have hattempt := attempt_attempted required algorithm c sys₁
    refine .inr ⟨visited, c, post, sys₁, _, _, hsplit, hpassed, hattempt, hpost, heq, ?_, ?_⟩
    · intro g hg
      rw [hg] at hattempt
      exact hattempt.bound_of_kept
    · have hlast := hattempt.generated
      rw [show sys₁.registered = sys.registered from funext hpassed.generated.registered] at hlast
      rw [(hpassed.generated.trans hlast).calls, List.filter_append]

/-- Three kinds of errors stop a walk. -/
theorem stopsOperation_iff (e : WscdError) :
    stopsOperation e = true ↔ (∃ pluginId reason, e = .unconfirmedCleanup pluginId reason) ∨
      e = .authCancelled ∨ ∃ failure, e = .pin failure := by
  cases e <;> simp [stopsOperation]

/-- `generate_key_for_level` agrees with its specification. On an empty list it fails and
touches nothing. Otherwise it passes over some candidates, each for the reason `Attempted`
gives, and returns what the next one comes to: the key of the first candidate whose own
plugin confirms the level, bound to that candidate, or the error of the first one that stops
the walk. An outcome that goes on is returned only for the last candidate of the list. No
candidate after the one whose outcome is returned is ever asked to generate a key. The levels
are ranked as they are listed, and a generation that fails stops the walk with one of three
errors. -/
theorem generateKeyForLevel_spec (sys : Sys S E) (required : CertificationLevel)
    (candidates : List String) (algorithm : Algorithm) :
    ((candidates = [] ∧ sys.generateKeyForLevel required candidates algorithm =
      (.error (.noPlugin noCandidatesMsg), sys)) ∨
    ∃ visited c post sys₁ o sys₂, candidates = visited.map Prod.fst ++ c :: post ∧
      PassedOver required algorithm visited sys sys₁ ∧
      Attempted required algorithm c sys₁ o sys₂ ∧ (o.goesOn = true → post = []) ∧
      sys.generateKeyForLevel required candidates algorithm = (o.result, sys₂) ∧
      (∀ g, o = .kept g → sys₂.manager.boundTo g.kid = some c) ∧
      sys₂.generateCalls =
        sys.generateCalls ++ (visited.map Prod.fst ++ [c]).filter sys.registered) ∧
    certificationRank .unattested < certificationRank .attestedSharedEnvironment ∧
    certificationRank .attestedSharedEnvironment < certificationRank .attestedDedicatedHardware ∧
    ∀ e, (Outcome.generateFailed e).goesOn = false ↔
      (∃ pluginId reason, e = .unconfirmedCleanup pluginId reason) ∨
        e = .authCancelled ∨ ∃ failure, e = .pin failure := by
  refine ⟨generateKeyForLevel_walk sys required candidates algorithm, by decide, by decide,
    fun e => ?_⟩
  rw [← stopsOperation_iff, Outcome.goesOn, Bool.not_eq_false']

/-- What every attempt keeps, the whole operation keeps. -/
theorem generateKeyForLevel_invariant {required : CertificationLevel} {algorithm : Algorithm}
    {I : Sys S E → Prop}
    (hstep : ∀ c sys o sys', I sys → Attempted required algorithm c sys o sys' → I sys')
    {sys : Sys S E} (hsys : I sys) (candidates : List String) :
    I (sys.generateKeyForLevel required candidates algorithm).2 := by
  by_cases hne : candidates = []
  · subst hne
    exact hsys
  · obtain ⟨visited, c, post, sys₁, -, hpassed, -, heq⟩ :=
      generateKeyForLevel_last sys required algorithm hne
    rw [heq]
    refine hstep c sys₁ _ _ ?_ (attempt_attempted required algorithm c sys₁)
    clear heq
    induction hpassed with
    | nil => exact hsys
    | @cons c' o' visited sys sys' sys'' hc _ _ ih =>
      refine ih (hstep c' sys o' sys' hsys ?_)
      have hattempt := attempt_attempted required algorithm c' sys
      rwa [hc] at hattempt

end Sys

end Wscd
