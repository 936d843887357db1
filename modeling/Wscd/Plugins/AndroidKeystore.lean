import Wscd.Callbacks
import Wscd.Plugins.Jwk

/-!
# The Android Keystore plugin

The plugin's records and their exported form, and how a key comes into being: an attempt in
StrongBox, another in the TEE under a second alias, three fallible steps to learn what the
key is, and a deletion wherever one of these fails. The Keystore itself is behind the host's
callback.
-/

namespace Wscd

open Lib

inductive AndroidKeystoreSecurityLevel where
  | strongBox
  | trustedExecution
  | software
  | unknown
  deriving DecidableEq, Repr

namespace AndroidKeystoreSecurityLevel

def asKeyStorageType : AndroidKeystoreSecurityLevel → KeyStorageType
  | .strongBox => .hardware
  | .trustedExecution => .trustedExecution
  | .software | .unknown => .software

def asCertificationLevel : AndroidKeystoreSecurityLevel → CertificationLevel
  | .strongBox => .attestedDedicatedHardware
  | .trustedExecution => .attestedSharedEnvironment
  | .software | .unknown => .unattested

end AndroidKeystoreSecurityLevel

/-- Host-provided access to the Keystore. -/
structure AndroidKeystoreCallback (W : Type) where
  /-- alias, attestation challenge, StrongBox, user authentication methods, unlocked device -/
  generate : String → Option (List UInt8) → Bool → List String → Bool → W →
    Except WscdError AndroidKeystoreSecurityLevel × W
  certificateChain : String → W → Except WscdError (List (List UInt8)) × W
  publicKeyJwk : String → W → Except WscdError Json × W
  delete : String → W → Except WscdError Unit × W

namespace AndroidKeystore

structure StoredAndroidKey where
  kid : String
  /-- The Keystore alias, never shown outside the plugin. -/
  keyAlias : String
  publicKeyJwk : Json
  certificates : List (List UInt8)
  clientDataHash : List UInt8
  securityLevel : AndroidKeystoreSecurityLevel
  userAuthenticationMethods : List String
  createdAt : Int
  deriving Repr

structure ExportedPluginState where
  keys : List StoredAndroidKey

end AndroidKeystore

structure AndroidKeystorePlugin where
  keys : HashMap String AndroidKeystore.StoredAndroidKey

namespace AndroidKeystorePlugin

open AndroidKeystore

def id : String := "android-keystore"

/-- Restore from an exported state; of two records with one kid the first is kept. -/
def fromState (codec : Codec ExportedPluginState) (stateBytes : List UInt8) :
    Except WscdError AndroidKeystorePlugin :=
  match codec.fromSlice stateBytes with
  | .error e => .error (.serialization e)
  | .ok exported => .ok ⟨HashMap.ofListFirst StoredAndroidKey.kid exported.keys⟩

def keyIds (order : HashMap.IterOrder String StoredAndroidKey) (self : AndroidKeystorePlugin) :
    List KeyId :=
  (order.keys self.keys).map KeyId.mk

def new : AndroidKeystorePlugin := ⟨∅⟩

def findKey (kid : KeyId) (self : AndroidKeystorePlugin) : Except WscdError StoredAndroidKey :=
  match self.keys.lookup kid.asStr with
  | none => .error (.keyNotFound kid.asStr)
  | some key => .ok key

def amrFor : AndroidKeystoreSecurityLevel → List String
  | .strongBox | .trustedExecution => ["hwk", "pop"]
  | .software | .unknown => ["swk"]

/-- Without a chain of two certificates at least, the level is not attested. -/
def securityProperties (kid : KeyId) (self : AndroidKeystorePlugin) :
    Except WscdError SecurityProperties :=
  match self.findKey kid with
  | .error e => .error e
  | .ok key =>
    let certification :=
      if key.certificates.length < 2 then .unattested
      else key.securityLevel.asCertificationLevel
    .ok ⟨key.securityLevel.asKeyStorageType, key.userAuthenticationMethods, certification,
      amrFor key.securityLevel⟩

/-! ## Generating and deleting keys -/

/-- What surrounds a call of the plugin. -/
structure Host (W : Type) where
  callback : AndroidKeystoreCallback W
  progress : ProgressCallback W
  rng : Rng W
  digest : Digest
  nowUnix : W → Int

/-- What a call asks of the host that matters to its aliases and their attestation. -/
inductive KeystoreEvent where
  | drewAlias (keyAlias : String)
  | generated (keyAlias : String) (strongBox : Bool)
      (answer : Except WscdError AndroidKeystoreSecurityLevel)
  | certified (keyAlias : String) (answer : Except WscdError (List (List UInt8)))
  | deleted (keyAlias : String) (answer : Except WscdError Unit)

/-- A call of the plugin: the state is that of the outside and that of the plugin. -/
abbrev KeystoreM (W α : Type) : Type :=
  Traced KeystoreEvent (W × AndroidKeystorePlugin) WscdError α

section Calls

variable {W : Type} (host : Host W)

/-- Something done to the outside that has a result and leaves no trace. -/
def outside {α : Type} (f : W → α × W) : KeystoreM W α :=
  Traced.update fun s => ((f s.1).1, (f s.1).2, s.2)

def onProgress (p : OperationProgress) : KeystoreM W Unit :=
  outside fun w => ((), host.progress.onProgress p w)

/-- A fresh alias: 16 random octets under the plugin's prefix. -/
def newAlias : KeystoreM W String :=
  Traced.draw
    (fun s =>
      ("org.siros.wscd.android-keystore." ++ host.digest.encode (host.rng.bytes 16 s.1).1,
        (host.rng.bytes 16 s.1).2, s.2))
    .drewAlias

def generate (keyAlias : String) (attestationChallenge : List UInt8) (strongBox : Bool) :
    KeystoreM W AndroidKeystoreSecurityLevel :=
  Traced.ask
    (fun s =>
      let answer :=
        host.callback.generate keyAlias (some attestationChallenge) strongBox [] false s.1
      (answer.1, answer.2, s.2))
    (.generated keyAlias strongBox)

def certificateChain (keyAlias : String) : KeystoreM W (List (List UInt8)) :=
  Traced.ask (fun s =>
    ((host.callback.certificateChain keyAlias s.1).1,
      (host.callback.certificateChain keyAlias s.1).2, s.2))
    (.certified keyAlias)

def delete (keyAlias : String) : KeystoreM W Unit :=
  Traced.ask (fun s =>
    ((host.callback.delete keyAlias s.1).1, (host.callback.delete keyAlias s.1).2, s.2))
    (.deleted keyAlias)

/-- Deletes what a failed generation may have left under an alias. The error it had, or that the
deletion failed as well. -/
def deleteAfterFailedGenerate (keyAlias : String) (originalErr : WscdError) :
    KeystoreM W WscdError := do
  match ← Traced.attempt (delete host keyAlias) with
  | .ok _ => return originalErr
  | .error deleteErr =>
    return .unconfirmedCleanup id s!"{originalErr}, and cleanup also failed ({deleteErr})"

/-- StrongBox first, the TEE under a second alias if the device has none. -/
def bestEffortGenerate (attestationChallenge : List UInt8) :
    KeystoreM W (String × AndroidKeystoreSecurityLevel) := do
  let keyAlias ← newAlias host
  match ← Traced.attempt (generate host keyAlias attestationChallenge true) with
  | .ok level => return (keyAlias, level)
  | .error .strongBoxUnavailable =>
    match ← Traced.attempt (delete host keyAlias) with
    | .error deleteErr =>
      Traced.lift (.error (.unconfirmedCleanup id
        ("StrongBox unavailable, and cleanup of the attempted alias also failed " ++
          s!"({deleteErr})")))
    | .ok _ =>
      let teeAlias ← newAlias host
      match ← Traced.attempt (generate host teeAlias attestationChallenge false) with
      | .ok level => return (teeAlias, level)
      | .error e => do
        let err ← deleteAfterFailedGenerate host teeAlias e
        Traced.lift (.error err)
  | .error e => do
    let err ← deleteAfterFailedGenerate host keyAlias e
    Traced.lift (.error err)

/-- What follows once a key exists under an alias: its chain, its public key, its record. -/
def finishGenerateKey (keyAlias : String) (securityLevel : AndroidKeystoreSecurityLevel)
    (attestationChallenge : List UInt8) : KeystoreM W GeneratedKey := do
  let certificates ← certificateChain host keyAlias
  let publicKeyJwk ← Traced.lift (← outside (host.callback.publicKeyJwk keyAlias))
  let kid ← Traced.lift (jwkThumbprint host.digest publicKeyJwk)
  let createdAt ← Traced.get fun s => host.nowUnix s.1
  let stored : StoredAndroidKey :=
    { kid, keyAlias, publicKeyJwk, certificates, clientDataHash := attestationChallenge,
      securityLevel, userAuthenticationMethods := [], createdAt }
  Traced.modify fun s => (s.1, ⟨s.2.keys.insert kid stored⟩)
  return ⟨⟨kid⟩, publicKeyJwk⟩

def generateKeyWithChallenge (algorithm : Algorithm) (attestationChallenge : List UInt8) :
    KeystoreM W GeneratedKey := do
  if algorithm ≠ .es256 then
    Traced.lift (.error (.unsupported id s!"generate_key({algorithm.asStr})"))
  else if attestationChallenge.isEmpty then
    Traced.lift (.error (.plugin "attestation challenge must not be empty"))
  else
    onProgress host (.started "generate_key")
    let (keyAlias, securityLevel) ← bestEffortGenerate host attestationChallenge
    match ← Traced.attempt (finishGenerateKey host keyAlias securityLevel attestationChallenge) with
    | .ok result =>
      onProgress host .complete
      return result
    | .error e => do
      let err ← deleteAfterFailedGenerate host keyAlias e
      Traced.lift (.error err)

/-- As above, under a random challenge. -/
def generateKey (algorithm : Algorithm) : KeystoreM W GeneratedKey := do
  let challenge ← outside (host.rng.bytes 32)
  generateKeyWithChallenge host algorithm challenge

/-- The record goes only once the key is gone. -/
def deleteKey (kid : KeyId) : KeystoreM W Unit := do
  let self ← Traced.get Prod.snd
  let key ← Traced.lift (self.findKey kid)
  delete host key.keyAlias
  Traced.modify fun s => (s.1, ⟨s.2.keys.erase kid.asStr⟩)

end Calls

end AndroidKeystorePlugin

end Wscd
