import Wscd.KeystoreAliases
import Wscd.Lib.Async

/-!
# Calls of the Keystore plugin, section by section

The plugin locks its state only to read it and to change it, never across a question to the
Keystore. So any number of key generations and deletions run at a time on one plugin, and
between any two questions of one call the others may do anything.

Results:
1. `KeystoreOp.call_toTraced`: a call whose sections run in order is the sequential operation.
2. `interleave_alone`: so is a call that nothing interrupts.
-/

namespace Wscd.AndroidKeystorePlugin

open Lib AndroidKeystore

variable {W : Type}

/-! ## Calls and their sections -/

/-- A call of the plugin, section by section. -/
abbrev KeystoreCall (W α : Type) : Type :=
  Async KeystoreEvent (W × AndroidKeystorePlugin) WscdError α

namespace KeystoreCall

section Calls

variable (host : Host W)

def deleteAfterFailedGenerate (keyAlias : String) (originalErr : WscdError) :
    KeystoreCall W WscdError := do
  match ← Async.attempt (.atomic (delete host keyAlias)) with
  | .ok _ => return originalErr
  | .error deleteErr =>
    return .unconfirmedCleanup id s!"{originalErr}, and cleanup also failed ({deleteErr})"

def bestEffortGenerate (attestationChallenge : List UInt8) :
    KeystoreCall W (String × AndroidKeystoreSecurityLevel) := do
  let keyAlias ← .atomic (newAlias host)
  match ← Async.attempt (.atomic (generate host keyAlias attestationChallenge true)) with
  | .ok level => return (keyAlias, level)
  | .error .strongBoxUnavailable =>
    match ← Async.attempt (.atomic (delete host keyAlias)) with
    | .error deleteErr =>
      Async.lift (.error (.unconfirmedCleanup id
        ("StrongBox unavailable, and cleanup of the attempted alias also failed " ++
          s!"({deleteErr})")))
    | .ok _ =>
      let teeAlias ← .atomic (newAlias host)
      match ← Async.attempt (.atomic (generate host teeAlias attestationChallenge false)) with
      | .ok level => return (teeAlias, level)
      | .error e => do
        let err ← deleteAfterFailedGenerate host teeAlias e
        Async.lift (.error err)
  | .error e => do
    let err ← deleteAfterFailedGenerate host keyAlias e
    Async.lift (.error err)

def finishGenerateKey (keyAlias : String) (securityLevel : AndroidKeystoreSecurityLevel)
    (attestationChallenge : List UInt8) : KeystoreCall W GeneratedKey := do
  let certificates ← .atomic (certificateChain host keyAlias)
  let publicKeyJwk ← Async.lift (← .atomic (outside (host.callback.publicKeyJwk keyAlias)))
  let kid ← Async.lift (jwkThumbprint host.digest publicKeyJwk)
  let createdAt ← .atomic (Traced.get fun s => host.nowUnix s.1)
  let stored : StoredAndroidKey :=
    { kid, keyAlias, publicKeyJwk, certificates, clientDataHash := attestationChallenge,
      securityLevel, userAuthenticationMethods := [], createdAt }
  Async.atomic (Traced.modify fun s => (s.1, ⟨s.2.keys.insert kid stored⟩))
  return ⟨⟨kid⟩, publicKeyJwk⟩

def generateKeyWithChallenge (algorithm : Algorithm) (attestationChallenge : List UInt8) :
    KeystoreCall W GeneratedKey := do
  if algorithm ≠ .es256 then
    Async.lift (.error (.unsupported id s!"generate_key({algorithm.asStr})"))
  else if attestationChallenge.isEmpty then
    Async.lift (.error (.plugin "attestation challenge must not be empty"))
  else
    Async.atomic (onProgress host (.started "generate_key"))
    let (keyAlias, securityLevel) ← bestEffortGenerate host attestationChallenge
    match ← Async.attempt
      (finishGenerateKey host keyAlias securityLevel attestationChallenge) with
    | .ok result =>
      Async.atomic (onProgress host .complete)
      return result
    | .error e => do
      let err ← deleteAfterFailedGenerate host keyAlias e
      Async.lift (.error err)

def generateKey (algorithm : Algorithm) : KeystoreCall W GeneratedKey := do
  let challenge ← .atomic (outside (host.rng.bytes 32))
  generateKeyWithChallenge host algorithm challenge

/-- The alias is read under the lock, and the record removed under it, later. -/
def deleteKey (kid : KeyId) : KeystoreCall W Unit := do
  let self ← .atomic (Traced.get Prod.snd)
  let key ← Async.lift (self.findKey kid)
  Async.atomic (delete host key.keyAlias)
  Async.atomic (Traced.modify fun s => (s.1, ⟨s.2.keys.erase kid.asStr⟩))

variable {host}

/-! ## A call that nothing interrupts -/

theorem deleteAfterFailedGenerate_toTraced (keyAlias : String) (e : WscdError) :
    (deleteAfterFailedGenerate host keyAlias e).toTraced =
      AndroidKeystorePlugin.deleteAfterFailedGenerate host keyAlias e := by
  refine Async.toTraced_bind_eq (Async.toTraced_attempt_atomic _) fun answer => ?_
  cases answer <;> rfl

/-- A failure that cleans up after itself. -/
theorem cleanUp_toTraced {α : Type} (keyAlias : String) (e : WscdError) :
    (deleteAfterFailedGenerate host keyAlias e >>= fun err =>
        (Async.lift (.error err) : KeystoreCall W α)).toTraced =
      AndroidKeystorePlugin.deleteAfterFailedGenerate host keyAlias e >>= fun err =>
        Traced.lift (.error err) :=
  Async.toTraced_bind_eq (deleteAfterFailedGenerate_toTraced ..) fun _ => rfl

theorem bestEffortGenerate_toTraced (challenge : List UInt8) :
    (bestEffortGenerate host challenge).toTraced =
      AndroidKeystorePlugin.bestEffortGenerate host challenge := by
  refine Async.toTraced_bind_eq (Async.toTraced_atomic _) fun keyAlias => ?_
  refine Async.toTraced_bind_eq (Async.toTraced_attempt_atomic _) fun answer => ?_
  cases answer with
  | ok level => rfl
  | error e =>
    cases e with
    | strongBoxUnavailable =>
      refine Async.toTraced_bind_eq (Async.toTraced_attempt_atomic _) fun answer => ?_
      cases answer with
      | error deleteErr => rfl
      | ok _ =>
        refine Async.toTraced_bind_eq (Async.toTraced_atomic _) fun teeAlias => ?_
        refine Async.toTraced_bind_eq (Async.toTraced_attempt_atomic _) fun answer => ?_
        cases answer with
        | ok level => rfl
        | error e => exact cleanUp_toTraced teeAlias e
    | _ => exact cleanUp_toTraced keyAlias _

theorem finishGenerateKey_toTraced (keyAlias : String) (level : AndroidKeystoreSecurityLevel)
    (challenge : List UInt8) :
    (finishGenerateKey host keyAlias level challenge).toTraced =
      AndroidKeystorePlugin.finishGenerateKey host keyAlias level challenge := by
  refine Async.toTraced_bind_eq (Async.toTraced_atomic _) fun certificates => ?_
  refine Async.toTraced_bind_eq (Async.toTraced_atomic _) fun publicKeyJwk => ?_
  refine Async.toTraced_bind_eq rfl fun publicKeyJwk => ?_
  refine Async.toTraced_bind_eq rfl fun kid => ?_
  refine Async.toTraced_bind_eq (Async.toTraced_atomic _) fun createdAt => ?_
  exact Async.toTraced_bind_eq (Async.toTraced_atomic _) fun _ => rfl

theorem generateKeyWithChallenge_toTraced (algorithm : Algorithm) (challenge : List UInt8) :
    (generateKeyWithChallenge host algorithm challenge).toTraced =
      AndroidKeystorePlugin.generateKeyWithChallenge host algorithm challenge := by
  unfold generateKeyWithChallenge AndroidKeystorePlugin.generateKeyWithChallenge
  split
  · rfl
  split
  · rfl
  refine Async.toTraced_bind_eq (Async.toTraced_atomic _) fun _ => ?_
  refine Async.toTraced_bind_eq (bestEffortGenerate_toTraced _) fun created => ?_
  refine Async.toTraced_bind_eq ?_ fun answer => ?_
  · rw [Async.toTraced_attempt, finishGenerateKey_toTraced]
  · cases answer with
    | ok result => exact Async.toTraced_bind_eq (Async.toTraced_atomic _) fun _ => rfl
    | error e => exact cleanUp_toTraced created.1 e

theorem generateKey_toTraced (algorithm : Algorithm) :
    (generateKey host algorithm).toTraced = AndroidKeystorePlugin.generateKey host algorithm :=
  Async.toTraced_bind_eq (Async.toTraced_atomic _) fun _ =>
    generateKeyWithChallenge_toTraced ..

theorem deleteKey_toTraced (kid : KeyId) :
    (deleteKey host kid).toTraced = AndroidKeystorePlugin.deleteKey host kid := by
  refine Async.toTraced_bind_eq (Async.toTraced_atomic _) fun self => ?_
  refine Async.toTraced_bind_eq rfl fun key => ?_
  refine Async.toTraced_bind_eq (Async.toTraced_atomic _) fun _ => ?_
  exact Async.toTraced_atomic _

end Calls

end KeystoreCall

/-! ## Any number of calls -/

namespace KeystoreOp

section Calls

variable (host : Host W)

/-- The call of an operation; a generation answers with its key. -/
def call : KeystoreOp → KeystoreCall W (Option GeneratedKey)
  | .generateKey algorithm => do
    let generated ← KeystoreCall.generateKey host algorithm
    return some generated
  | .generateKeyWithChallenge algorithm attestationChallenge => do
    let generated ← KeystoreCall.generateKeyWithChallenge host algorithm attestationChallenge
    return some generated
  | .deleteKey kid => do
    KeystoreCall.deleteKey host kid
    return none

/-- The operation without others, and its answer. -/
def answer : KeystoreOp → KeystoreM W (Option GeneratedKey)
  | .generateKey algorithm => do
    let generated ← AndroidKeystorePlugin.generateKey host algorithm
    return some generated
  | .generateKeyWithChallenge algorithm attestationChallenge => do
    let generated ←
      AndroidKeystorePlugin.generateKeyWithChallenge host algorithm attestationChallenge
    return some generated
  | .deleteKey kid => do
    AndroidKeystorePlugin.deleteKey host kid
    return none

variable {host}

theorem call_toTraced (op : KeystoreOp) : (op.call host).toTraced = op.answer host := by
  cases op with
  | generateKey algorithm =>
    exact Async.toTraced_bind_eq (KeystoreCall.generateKey_toTraced algorithm) fun _ => rfl
  | generateKeyWithChallenge algorithm challenge =>
    exact Async.toTraced_bind_eq (KeystoreCall.generateKeyWithChallenge_toTraced algorithm
      challenge) fun _ => rfl
  | deleteKey kid =>
    exact Async.toTraced_bind_eq (KeystoreCall.deleteKey_toTraced kid) fun _ => rfl

end Calls

end KeystoreOp

section Runs

variable {ι : Type} [DecidableEq ι]

/-- The calls of the operations after a schedule of their sections. -/
def interleave (host : Host W) (ops : ι → KeystoreOp) (s : W × AndroidKeystorePlugin)
    (schedule : List ι) :
    Async.Calls ι KeystoreEvent (W × AndroidKeystorePlugin) WscdError (Option GeneratedKey) :=
  run (Pool.step Async.step) (Async.start s fun i => (ops i).call host) schedule

/-- A call that nothing interrupts is the sequential operation. -/
theorem interleave_alone (host : Host W) (ops : ι → KeystoreOp) (s : W × AndroidKeystorePlugin)
    (i : ι) :
    ∃ n, (interleave host ops s (List.replicate n i)).shared =
        (((ops i).answer host s).2.1, ((ops i).answer host s).2.2.map (i, ·)) ∧
      ((interleave host ops s (List.replicate n i)).threads i).2 =
        .returned ((ops i).answer host s).1 := by
  have h := Async.run_start_replicate s (fun i => (ops i).call host) i
  rw [KeystoreOp.call_toTraced] at h
  exact h

end Runs

end Wscd.AndroidKeystorePlugin
