import Wscd.Backends
import Wscd.Operations

/-!
# Deleting a key

`delete_key` goes through the manager, the plugin the key resolves to and, for two of the
plugins, the host's callback. Each of the plugins drops its record last, the manager its
binding after that, so a deletion that fails anywhere changes nothing and can be tried again.

Results:
1. `Backend.deleteKey_cases`: how a plugin deletes a key, with what it asks of the callback.
2. `deletion_all_or_nothing`: the same for the manager, in any state.
-/

namespace Wscd

open Lib

variable {W : Type}

/-! ## What a plugin holds -/

/-- The name the host's callback knows a key by. -/
inductive HardwareKey where
  | keystoreAlias (keyAlias : String)
  | enclaveTag (keyTag : String)
  deriving DecidableEq, Repr

namespace HardwareKey

/-- The deletion of the key by the callback, as it is logged. -/
def deletion : HardwareKey → Except WscdError Unit → PluginEvent
  | keystoreAlias keyAlias, answer => .keystore (.deleted keyAlias answer)
  | enclaveTag keyTag, answer => .enclave (.deleted keyTag answer)

/-- The answer says that the key is removed; the Secure Enclave may also say that it was gone. -/
def Confirms : HardwareKey → Except WscdError Unit → Prop
  | _, .ok () => True
  | enclaveTag _, .error (.keyNotFound _) => True
  | _, .error _ => False

end HardwareKey

/-- A record of any of the plugins that keep records. -/
inductive KeyRecord where
  | softkey (key : Softkey.StoredKey)
  | fido2 (key : Fido2.StoredFidoKey)
  | androidKeystore (key : AndroidKeystore.StoredAndroidKey)
  | appleSecureEnclave (key : AppleSecureEnclave.StoredKey)

namespace Backend

def record (kid : KeyId) : Backend W → Option KeyRecord
  | .softkey p => (p.keys.lookup kid.asStr).map .softkey
  | .fido2 _ p => (p.keys.lookup kid.asStr).map .fido2
  | .androidKeystore _ p => (p.keys.lookup kid.asStr).map .androidKeystore
  | .appleSecureEnclave _ p => (p.keys.lookup kid.asStr).map .appleSecureEnclave
  | .other _ => none

/-- The key behind the callback, by the record the plugin has for it. -/
def hardwareKey (kid : KeyId) : Backend W → Option HardwareKey
  | .androidKeystore _ p => (p.keys.lookup kid.asStr).map fun key => .keystoreAlias key.keyAlias
  | .appleSecureEnclave _ p => (p.keys.lookup kid.asStr).map fun key => .enclaveTag key.keyTag
  | .softkey _ | .fido2 _ _ | .other _ => none

/-- The plugin without its record for the key, and otherwise as it was. -/
def withoutKey (kid : KeyId) : Backend W → Backend W
  | .softkey p => .softkey { p with keys := p.keys.erase kid.asStr }
  | .fido2 transport p => .fido2 transport { p with keys := p.keys.erase kid.asStr }
  | .androidKeystore callback p => .androidKeystore callback ⟨p.keys.erase kid.asStr⟩
  | .appleSecureEnclave callback p => .appleSecureEnclave callback ⟨p.keys.erase kid.asStr⟩
  | .other p => .other p

theorem record_withoutKey (kid k : KeyId) (self : Backend W) :
    (self.withoutKey kid).record k = if k = kid then none else self.record k := by
  have hasStr : k.asStr = kid.asStr ↔ k = kid := by
    cases k
    cases kid
    simp
  cases self with
  | other p =>
    simp [record, withoutKey]
  | _ p =>
    simp only [record, withoutKey, HashMap.lookup_erase_eq_ite, hasStr]
    split_ifs <;> rfl

/-- What a deletion adds to the log: nothing where no callback is behind the key, else the one
request with the key's own name, which succeeds where the callback confirms. -/
inductive AsksToDelete (kid : KeyId) (self : Backend W) (returned : Prop)
    (log : List PluginEvent) : List PluginEvent → Prop where
  | silent : self.hardwareKey kid = none → AsksToDelete kid self returned log log
  | hardware {key : HardwareKey} {answer : Except WscdError Unit} :
      self.hardwareKey kid = some key → (key.Confirms answer ↔ returned) →
      AsksToDelete kid self returned log (log ++ [key.deletion answer])

/-! ## Deleting in one plugin -/

end Backend

namespace AndroidKeystorePlugin

variable {host : Host W} {kid : KeyId} {s s' : W × AndroidKeystorePlugin}
  {l : List KeystoreEvent}

/-- What a deletion comes to, by the callback's answer. -/
theorem deleteKey_ends {r : Except WscdError Unit} (h : deleteKey host kid s = (r, s', l)) :
    (s.2.keys.lookup kid.asStr = none ∧ ∃ e, r = .error e ∧ s'.2 = s.2 ∧ l = []) ∨
      ∃ key answer, s.2.keys.lookup kid.asStr = some key ∧ l = [.deleted key.keyAlias answer] ∧
        ((r = .ok () ∧ s'.2 = ⟨s.2.keys.erase kid.asStr⟩ ∧
            (HardwareKey.keystoreAlias key.keyAlias).Confirms answer) ∨
          ∃ e, r = .error e ∧ s'.2 = s.2 ∧
            ¬ (HardwareKey.keystoreAlias key.keyAlias).Confirms answer) := by
  unfold deleteKey at h
  obtain ⟨self, s₁, l₁, l₂, hget, h₁, rfl⟩ :=
    Traced.bind_cases_of_total (fun _ => ⟨_, rfl⟩) h
  obtain ⟨rfl, rfl, rfl⟩ := Traced.get_ok_iff.mp hget
  unfold findKey at h₁
  cases hlookup : s.2.keys.lookup kid.asStr with
  | none =>
    rw [hlookup] at h₁
    rcases Traced.bind_cases h₁ with ⟨e, rfl, hlift⟩ | ⟨key, s₂, l₃, l₄, hlift, -, -⟩
    · obtain ⟨-, rfl, rfl⟩ := Traced.lift_cases hlift
      exact .inl ⟨rfl, e, rfl, rfl, rfl⟩
    · cases hlift
  | some key =>
    rw [hlookup] at h₁
    have h₂ : (delete host key.keyAlias >>= fun _ =>
        Traced.modify fun s => (s.1, ⟨s.2.keys.erase kid.asStr⟩)) s = (r, s', l₂) := h₁
    rcases Traced.bind_cases h₂ with ⟨e, rfl, hdelete⟩ | ⟨u, s₂, l₃, l₄, hdelete, h₃, rfl⟩
    · obtain ⟨hanswer, rfl⟩ := Traced.ask_cases hdelete
      have hself : s.2 = s'.2 := congrArg (fun x => x.2.2) hanswer
      exact .inr ⟨key, .error e, rfl, rfl,
        .inr ⟨e, rfl, hself.symm, by simp [HardwareKey.Confirms]⟩⟩
    · obtain ⟨hanswer, rfl⟩ := Traced.ask_cases hdelete
      obtain ⟨rfl, rfl, rfl⟩ := Traced.modify_cases h₃
      have hs₂ : s.2 = s₂.2 := congrArg (fun x => x.2.2) hanswer
      rw [hs₂]
      exact .inr ⟨key, .ok u, rfl, rfl, .inl ⟨rfl, rfl, trivial⟩⟩

end AndroidKeystorePlugin

namespace AppleSecureEnclavePlugin

variable {host : Host W} {kid : KeyId} {s s' : W × AppleSecureEnclavePlugin}
  {l : List EnclaveEvent}

theorem deleteKey_ends {r : Except WscdError Unit} (h : deleteKey host kid s = (r, s', l)) :
    (s.2.keys.lookup kid.asStr = none ∧ ∃ e, r = .error e ∧ s'.2 = s.2 ∧ l = []) ∨
      ∃ key answer, s.2.keys.lookup kid.asStr = some key ∧ l = [.deleted key.keyTag answer] ∧
        ((r = .ok () ∧ s'.2 = ⟨s.2.keys.erase kid.asStr⟩ ∧
            (HardwareKey.enclaveTag key.keyTag).Confirms answer) ∨
          ∃ e, r = .error e ∧ s'.2 = s.2 ∧
            ¬ (HardwareKey.enclaveTag key.keyTag).Confirms answer) := by
  unfold deleteKey at h
  obtain ⟨found, s₁, l₁, l₂, hget, h₁, rfl⟩ :=
    Traced.bind_cases_of_total (fun _ => ⟨_, rfl⟩) h
  obtain ⟨rfl, rfl, rfl⟩ := Traced.get_ok_iff.mp hget
  cases hlookup : s.2.keys.lookup kid.asStr with
  | none =>
    rw [hlookup] at h₁
    obtain ⟨rfl, rfl, rfl⟩ := Traced.lift_cases h₁
    exact .inl ⟨rfl, _, rfl, rfl, rfl⟩
  | some key =>
    rw [hlookup] at h₁
    obtain ⟨answer, s₂, l₃, l₄, hdelete, h₂, rfl⟩ :=
      Traced.bind_cases_of_total (fun _ => ⟨_, rfl⟩) h₁
    obtain ⟨hanswer, rfl⟩ := Traced.ask_cases (Traced.attempt_ok_iff.mp hdelete)
    have hs₂ : s.2 = s₂.2 := congrArg (fun x => x.2.2) hanswer
    rw [hs₂]
    cases answer with
    | ok u =>
      obtain ⟨rfl, rfl, rfl⟩ := Traced.modify_cases h₂
      exact .inr ⟨key, .ok u, rfl, rfl, .inl ⟨rfl, rfl, trivial⟩⟩
    | error e =>
      cases e with
      | keyNotFound k =>
        -- the callback's own `KeyNotFound` says that the key is gone
        obtain ⟨rfl, rfl, rfl⟩ := Traced.modify_cases h₂
        exact .inr ⟨key, .error (.keyNotFound k), rfl, rfl, .inl ⟨rfl, rfl, trivial⟩⟩
      | _ =>
        obtain ⟨rfl, rfl, rfl⟩ := Traced.lift_cases h₂
        exact .inr ⟨key, _, rfl, rfl, .inr ⟨_, rfl, rfl, fun h => h⟩⟩

end AppleSecureEnclavePlugin

namespace Backend

/-- How a deletion ends: the record was there and is gone, or nothing has changed. -/
inductive Deletes (kid : KeyId) (self : Backend W) (env : PluginEnv W) :
    Except WscdError Unit × Backend W × PluginEnv W → Prop where
  | done {env' : PluginEnv W} : self.record kid ≠ none →
      AsksToDelete kid self True env.log env'.log →
      Deletes kid self env (.ok (), self.withoutKey kid, env')
  | failed {e : WscdError} {env' : PluginEnv W} :
      AsksToDelete kid self False env.log env'.log → Deletes kid self env (.error e, self, env')

variable {kid : KeyId} {env : PluginEnv W}

theorem perform_eq {E P α : Type} {event : E → PluginEvent} {rebuild : P → Backend W}
    {x : PluginHost W → Traced E (W × P) WscdError α} {p : P} {r : Except WscdError α}
    {s' : W × P} {l : List E} (h : x env.host (env.world, p) = (r, s', l)) :
    perform event rebuild x p env =
      (r, rebuild s'.2, { env with world := s'.1, log := env.log ++ l.map event }) := by
  unfold perform
  rw [h]

/-- A plugin that drops its record without asking anybody. -/
theorem deletes_onSelf {P : Type} {rebuild : P → Backend W} {f : P → Except WscdError Unit × P}
    {p : P} (hsilent : (rebuild p).hardwareKey kid = none)
    (hf : (∃ e, f p = (.error e, p)) ∨ (rebuild p).record kid ≠ none ∧
      (f p).1 = .ok () ∧ rebuild (f p).2 = (rebuild p).withoutKey kid) :
    Deletes kid (rebuild p) env (perform .host rebuild (fun _ => onSelf f) p env) := by
  have hperform : perform .host rebuild (fun _ => onSelf f) p env =
      ((f p).1, rebuild (f p).2, { env with log := env.log ++ [] }) := rfl
  rw [hperform, List.append_nil]
  rcases hf with ⟨e, hf⟩ | ⟨hrecord, hok, hrebuild⟩
  · rw [hf]
    exact .failed (.silent hsilent)
  · rw [hok, hrebuild]
    exact .done hrecord (.silent hsilent)

theorem softkey_deletes (p : SoftkeyPlugin) :
    Deletes kid (.softkey p) env (deleteKey kid (.softkey p) env) := by
  refine deletes_onSelf rfl ?_
  unfold SoftkeyPlugin.deleteKey record
  cases hlookup : p.keys.lookup kid.asStr with
  | none => exact .inl ⟨_, rfl⟩
  | some key => exact .inr ⟨by simp [hlookup], rfl, rfl⟩

theorem fido2_deletes (transport : Fido2Transport Unit) (p : Fido2SignPlugin) :
    Deletes kid (.fido2 transport p) env (deleteKey kid (.fido2 transport p) env) := by
  refine deletes_onSelf rfl ?_
  unfold Fido2SignPlugin.deleteKey record
  cases hlookup : p.keys.lookup kid.asStr with
  | none => exact .inl ⟨_, rfl⟩
  | some key => exact .inr ⟨by simp [hlookup], rfl, rfl⟩

/-- A plugin that asks the callback for the key it has on record, and follows the answer. -/
theorem deletes_of_asked {E P : Type} (event : E → PluginEvent) (rebuild : P → Backend W)
    (x : PluginHost W → Traced E (W × P) WscdError Unit) {p : P} {r : Except WscdError Unit}
    {s' : W × P} {l : List E} (hx : x env.host (env.world, p) = (r, s', l))
    (hends : ((rebuild p).hardwareKey kid = none ∧ ∃ e, r = .error e ∧ s'.2 = p ∧ l = []) ∨
      ∃ key answer, (rebuild p).hardwareKey kid = some key ∧
        l.map event = [key.deletion answer] ∧
        ((r = .ok () ∧ rebuild s'.2 = (rebuild p).withoutKey kid ∧
            (rebuild p).record kid ≠ none ∧ key.Confirms answer) ∨
          ∃ e, r = .error e ∧ s'.2 = p ∧ ¬ key.Confirms answer)) :
    Deletes kid (rebuild p) env (perform event rebuild x p env) := by
  rw [perform_eq hx]
  rcases hends with ⟨hsilent, e, rfl, hself, rfl⟩ | ⟨key, answer, hkey, hlog, hends⟩
  · rw [hself, List.map_nil, List.append_nil]
    exact .failed (.silent hsilent)
  rw [hlog]
  rcases hends with ⟨rfl, hrebuild, hrecord, hconfirms⟩ | ⟨e, rfl, hself, hrefuses⟩
  · rw [hrebuild]
    exact .done hrecord (.hardware hkey (iff_true_intro hconfirms))
  · rw [hself]
    exact .failed (.hardware hkey (iff_false_intro hrefuses))

theorem androidKeystore_deletes (callback : Unit) (p : AndroidKeystorePlugin) :
    Deletes kid (.androidKeystore callback p) env
      (deleteKey kid (.androidKeystore callback p) env) := by
  rcases hx : AndroidKeystorePlugin.deleteKey env.host.androidKeystore kid (env.world, p)
    with ⟨r, s', l⟩
  refine deletes_of_asked .keystore (.androidKeystore callback)
    (fun host => AndroidKeystorePlugin.deleteKey host.androidKeystore kid) hx ?_
  rcases AndroidKeystorePlugin.deleteKey_ends hx with
    ⟨hlookup, hunknown⟩ | ⟨key, answer, hlookup, rfl, hends⟩
  · exact .inl ⟨congrArg (Option.map _) hlookup, hunknown⟩
  refine .inr ⟨.keystoreAlias key.keyAlias, answer, congrArg (Option.map _) hlookup, rfl, ?_⟩
  rcases hends with ⟨rfl, hself, hconfirms⟩ | hfailed
  · exact .inl ⟨rfl, congrArg _ hself, by simp [record, hlookup], hconfirms⟩
  · exact .inr hfailed

theorem appleSecureEnclave_deletes (callback : Unit) (p : AppleSecureEnclavePlugin) :
    Deletes kid (.appleSecureEnclave callback p) env
      (deleteKey kid (.appleSecureEnclave callback p) env) := by
  rcases hx : AppleSecureEnclavePlugin.deleteKey env.host.appleSecureEnclave kid (env.world, p)
    with ⟨r, s', l⟩
  refine deletes_of_asked .enclave (.appleSecureEnclave callback)
    (fun host => AppleSecureEnclavePlugin.deleteKey host.appleSecureEnclave kid) hx ?_
  rcases AppleSecureEnclavePlugin.deleteKey_ends hx with
    ⟨hlookup, hunknown⟩ | ⟨key, answer, hlookup, rfl, hends⟩
  · exact .inl ⟨congrArg (Option.map _) hlookup, hunknown⟩
  refine .inr ⟨.enclaveTag key.keyTag, answer, congrArg (Option.map _) hlookup, rfl, ?_⟩
  rcases hends with ⟨rfl, hself, hconfirms⟩ | hfailed
  · exact .inl ⟨rfl, congrArg _ hself, by simp [record, hlookup], hconfirms⟩
  · exact .inr hfailed

/-- Keys of the R2PS plugin cannot be deleted. -/
theorem r2ps_deletes (p : R2psPlugin W) :
    Deletes kid (.other p) env (deleteKey kid (.other p) env) := by
  have hperform : deleteKey kid (.other p) env =
      (R2psPlugin.deleteKey kid, .other p, { env with log := env.log ++ [] }) := rfl
  rw [hperform, List.append_nil]
  exact .failed (.silent rfl)

/-- A plugin deletes a key and its record, or keeps the record and reports an error. -/
theorem deletes (kid : KeyId) (self : Backend W) (env : PluginEnv W) :
    Deletes kid self env (deleteKey kid self env) := by
  cases self with
  | softkey p => exact softkey_deletes p
  | fido2 transport p => exact fido2_deletes transport p
  | androidKeystore callback p => exact androidKeystore_deletes callback p
  | appleSecureEnclave callback p => exact appleSecureEnclave_deletes callback p
  | other p => exact r2ps_deletes p

end Backend

/-! ## Deleting through the manager -/

namespace WscdManager

variable {S : Type}

theorem lookup_of_resolveForKey {m : WscdManager S} {kid : KeyId} {op : String} {p : Plugin S}
    (h : m.resolveForKey kid op = .ok p) : m.plugins.lookup p.id = some p := by
  have hget : ∀ id, m.getPlugin id = .ok p → m.plugins.lookup p.id = some p := by
    intro id hid
    have hlookup := (m.getPlugin_eq_ok_iff id p).mp hid
    rwa [m.id_eq id p hlookup]
  unfold resolveForKey at h
  split at h
  · exact hget _ h
  · split at h
    · exact hget _ h
    · exact hget _ h

/-- A call that leaves its plugin as it was leaves the manager as it was. -/
theorem setSelf_self {m : WscdManager S} {p : Plugin S} (h : m.plugins.lookup p.id = some p) :
    m.setSelf p.id p.self = m := by
  obtain ⟨config, plugins, hid⟩ := m
  have hplugins : plugins.insert p.id p = plugins := by
    refine Finmap.ext_lookup fun id => ?_
    rw [HashMap.lookup_insert_eq_ite]
    split_ifs with hp
    · rw [hp]
      exact h.symm
    · rfl
  simp only [setSelf, registerPlugin, hplugins]

end WscdManager

namespace Sys

/-- The record that the plugin registered as `id` has for a key. -/
def record (sys : Sys (Backend W) (PluginEnv W)) (id : String) (kid : KeyId) : Option KeyRecord :=
  (sys.manager.plugins.lookup id).bind fun p => Backend.record kid p.self

/-- The key is gone: from the plugin it resolved to, from behind the callback where it was
there, and from the bindings. -/
structure Deleted (sys : Sys (Backend W) (PluginEnv W)) (kid : KeyId)
    (sys' : Sys (Backend W) (PluginEnv W)) : Prop where
  plugin : ∃ p, sys.manager.resolveForKey kid "delete" = .ok p ∧
    sys.record p.id kid ≠ none ∧ sys'.record p.id kid = none ∧
    ∀ key, Backend.hardwareKey kid p.self = some key →
      ∃ answer, key.Confirms answer ∧ sys'.env.log = sys.env.log ++ [key.deletion answer]
  unbound : sys'.manager.boundTo kid = none

/-- Nothing has changed, and a retry reaches the callback under the name it was asked for,
whatever the outside has come to by then. -/
structure Undeleted (sys : Sys (Backend W) (PluginEnv W)) (kid : KeyId)
    (sys' : Sys (Backend W) (PluginEnv W)) : Prop where
  manager_eq : sys'.manager = sys.manager
  retry : ∀ p key, sys.manager.resolveForKey kid "delete" = .ok p →
    Backend.hardwareKey kid p.self = some key →
      (∃ answer, ¬ key.Confirms answer ∧ sys'.env.log = sys.env.log ++ [key.deletion answer]) ∧
      ∀ env calls, ∃ answer, ((⟨sys'.manager, env, calls⟩ : Sys (Backend W) (PluginEnv W)).deleteKey
        kid).2.env.log = env.log ++ [key.deletion answer]

/-- Every other key has its records and its binding, and the key itself the records it has in
plugins it does not resolve to. -/
structure OthersKept (sys : Sys (Backend W) (PluginEnv W)) (kid : KeyId)
    (sys' : Sys (Backend W) (PluginEnv W)) : Prop where
  bindings : ∀ k, k ≠ kid → sys'.manager.boundTo k = sys.manager.boundTo k
  records : ∀ id k, k ≠ kid → sys'.record id k = sys.record id k
  plugins : ∀ id, (∀ p, sys.manager.resolveForKey kid "delete" = .ok p → id ≠ p.id) →
    sys'.manager.plugins.lookup id = sys.manager.plugins.lookup id

variable {sys : Sys (Backend W) (PluginEnv W)} {kid : KeyId}

/-- A deletion does not resolve, or ends as it does in the plugin. -/
theorem deleteKey_cases (sys : Sys (Backend W) (PluginEnv W)) (kid : KeyId) :
    (∃ e, sys.manager.resolveForKey kid "delete" = .error e ∧
        sys.deleteKey kid = (.error e, sys)) ∨
      ∃ p r self' env' calls', sys.manager.resolveForKey kid "delete" = .ok p ∧
        sys.manager.plugins.lookup p.id = some p ∧
        Backend.Deletes kid p.self sys.env (r, self', env') ∧
        sys.deleteKey kid = (r, ⟨match r with
          | .ok () => (sys.manager.setSelf p.id self').unbind kid
          | .error _ => sys.manager.setSelf p.id self', env', calls'⟩) := by
  cases hresolve : sys.manager.resolveForKey kid "delete" with
  | error e =>
    refine .inl ⟨e, rfl, ?_⟩
    unfold deleteKey
    rw [hresolve]
  | ok p =>
    have hlookup := WscdManager.lookup_of_resolveForKey hresolve
    have hdeletes := Backend.deletes kid p.self sys.env
    rcases hdelete : Backend.deleteKey kid p.self sys.env with ⟨r, self', env'⟩
    rw [hdelete] at hdeletes
    have hcall : sys.call p (.deleteKey kid) (WscdPlugin.deleteKey kid) =
        (r, ⟨sys.manager.setSelf p.id self', env',
          sys.calls ++ [⟨p.id, .deleteKey kid, r.isOk⟩]⟩) := by
      have hmethod : WscdPlugin.deleteKey kid p.self sys.env = (r, self', env') := hdelete
      unfold call
      rw [current_of_lookup hlookup, hmethod]
    refine .inr ⟨p, r, self', env', sys.calls ++ [⟨p.id, .deleteKey kid, r.isOk⟩], rfl, hlookup,
      hdeletes, ?_⟩
    unfold deleteKey
    rw [hresolve]
    dsimp only
    rw [hcall]
    cases r <;> rfl

/-- A key behind a callback is asked for under its own name, once. -/
theorem deleteKey_asks {p : Plugin (Backend W)} {key : HardwareKey}
    (hresolve : sys.manager.resolveForKey kid "delete" = .ok p)
    (hkey : Backend.hardwareKey kid p.self = some key) :
    ∃ answer, (key.Confirms answer ↔ (sys.deleteKey kid).1 = .ok ()) ∧
      (sys.deleteKey kid).2.env.log = sys.env.log ++ [key.deletion answer] := by
  have hasks : ∀ {returned : Prop} {log log' : List PluginEvent},
      Backend.AsksToDelete kid p.self returned log log' →
      ∃ answer, (key.Confirms answer ↔ returned) ∧ log' = log ++ [key.deletion answer] := by
    intro returned log log' h
    cases h with
    | silent hnone =>
      rw [hnone] at hkey
      cases hkey
    | @hardware key' answer hkey' hconfirms =>
      obtain rfl := Option.some.inj (hkey'.symm.trans hkey)
      exact ⟨answer, hconfirms, rfl⟩
  rcases deleteKey_cases sys kid with ⟨e, herror, -⟩ | ⟨q, r, self', env', calls', hq, -, hends, hd⟩
  · rw [herror] at hresolve
    cases hresolve
  obtain rfl := Except.ok.inj (hq.symm.trans hresolve)
  rw [hd]
  cases hends with
  | done hrecord h =>
    obtain ⟨answer, hconfirms, hlog⟩ := hasks h
    exact ⟨answer, by simpa using hconfirms, hlog⟩
  | failed h =>
    obtain ⟨answer, hconfirms, hlog⟩ := hasks h
    exact ⟨answer, by simpa using hconfirms, hlog⟩

/-- Where the record of a plugin is found after the plugin has changed. -/
theorem record_setSelf {m : WscdManager (Backend W)} (id : String) (self : Backend W)
    (env : PluginEnv W) (calls : List Call) (id' : String) (k : KeyId) :
    Sys.record ⟨m.setSelf id self, env, calls⟩ id' k =
      if id' = id then Backend.record k self
      else (m.plugins.lookup id').bind fun p => Backend.record k p.self := by
  unfold Sys.record
  have hlookup : (m.setSelf id self).plugins.lookup id' =
      if id' = id then some ⟨id, self⟩ else m.plugins.lookup id' :=
    HashMap.lookup_insert_eq_ite _ _ _ _
  rw [hlookup]
  split_ifs <;> rfl

theorem deleted_of_ok (h : (sys.deleteKey kid).1 = .ok ()) :
    sys.Deleted kid (sys.deleteKey kid).2 := by
  rcases deleteKey_cases sys kid with
    ⟨e, -, hd⟩ | ⟨p, r, self', env', calls', hresolve, hlookup, hends, hd⟩
  · rw [hd] at h
    cases h
  -- read off before the call is taken apart
  have hasks := fun key (hkey : Backend.hardwareKey kid p.self = some key) =>
    deleteKey_asks hresolve hkey
  rw [hd] at h hasks ⊢
  obtain rfl : r = .ok () := h
  cases hends with
  | done hrecord _ =>
    refine ⟨⟨p, hresolve, ?_, ?_, fun key hkey => ?_⟩, ?_⟩
    · unfold record
      rw [hlookup]
      exact hrecord
    · refine (record_setSelf p.id _ env' calls' p.id kid).trans ?_
      rw [if_pos rfl, Backend.record_withoutKey, if_pos rfl]
    · obtain ⟨answer, hconfirms, hlog⟩ := hasks key hkey
      exact ⟨answer, hconfirms.mpr rfl, hlog⟩
    · exact Finmap.lookup_erase kid _

theorem undeleted_of_error {e : WscdError} (h : (sys.deleteKey kid).1 = .error e) :
    sys.Undeleted kid (sys.deleteKey kid).2 := by
  have hmanager : (sys.deleteKey kid).2.manager = sys.manager := by
    rcases deleteKey_cases sys kid with
      ⟨e', -, hd⟩ | ⟨p, r, self', env', calls', -, hlookup, hends, hd⟩
    · rw [hd]
    · rw [hd] at h ⊢
      obtain rfl : r = .error e := h
      -- the plugin is put back as it was
      cases hends with
      | failed _ => exact WscdManager.setSelf_self hlookup
  refine ⟨hmanager, fun p key hresolve hkey => ⟨?_, fun env calls => ?_⟩⟩
  · obtain ⟨answer, hconfirms, hlog⟩ := deleteKey_asks hresolve hkey
    refine ⟨answer, fun hc => ?_, hlog⟩
    rw [hconfirms.mp hc] at h
    cases h
  · -- the manager is the same, so the key resolves to the same record
    have hretry : (⟨(sys.deleteKey kid).2.manager, env, calls⟩ : Sys (Backend W)
        (PluginEnv W)).manager.resolveForKey kid "delete" = .ok p := by
      rw [hmanager]
      exact hresolve
    obtain ⟨answer, -, hlog⟩ := deleteKey_asks hretry hkey
    exact ⟨answer, hlog⟩

theorem othersKept (sys : Sys (Backend W) (PluginEnv W)) (kid : KeyId) :
    sys.OthersKept kid (sys.deleteKey kid).2 := by
  cases hr : (sys.deleteKey kid).1 with
  | error e =>
    have hmanager := (undeleted_of_error hr).manager_eq
    refine ⟨fun k _ => ?_, fun id k _ => ?_, fun id _ => ?_⟩
    · rw [hmanager]
    · unfold record
      rw [hmanager]
    · rw [hmanager]
  | ok u =>
    rcases deleteKey_cases sys kid with
      ⟨e', -, hd⟩ | ⟨p, r, self', env', calls', hresolve, hlookup, hends, hd⟩
    · rw [hd] at hr
      cases hr
    rw [hd] at hr ⊢
    obtain rfl : r = .ok () := hr
    cases hends with
    | done _ _ =>
      refine ⟨fun k hk => ?_, fun id k hk => ?_, fun id hid => ?_⟩
      · exact Finmap.lookup_erase_ne hk
      · refine (record_setSelf p.id _ env' calls' id k).trans ?_
        unfold record
        by_cases hid : id = p.id
        · rw [if_pos hid, Backend.record_withoutKey, if_neg hk, hid, hlookup]
          rfl
        · rw [if_neg hid]
      · exact Finmap.lookup_insert_of_ne _ (hid p hresolve)

/-- A deletion through the manager is complete in every layer, or has not happened in any, and
concerns the one key. -/
theorem deletion_all_or_nothing (sys : Sys (Backend W) (PluginEnv W)) (kid : KeyId) :
    ((sys.deleteKey kid).1 = .ok () → sys.Deleted kid (sys.deleteKey kid).2) ∧
      (∀ e, (sys.deleteKey kid).1 = .error e → sys.Undeleted kid (sys.deleteKey kid).2) ∧
      sys.OthersKept kid (sys.deleteKey kid).2 :=
  ⟨deleted_of_ok, fun _ => undeleted_of_error, othersKept sys kid⟩

end Sys

end Wscd
