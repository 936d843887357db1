import Wscd.Lib.Map
import Wscd.Error

/-!
# Data types

The types the manager and the plugins exchange: key ids, algorithms, key records,
certification levels and the requests and outcomes of the lifecycle operations.
A JWK is a JSON value; every other field keeps its source type, with `i64` times
as `Int` and byte strings as `List UInt8`.
-/

namespace Wscd

open Lib

/-- `serde_json::Value`, an object being its members in order. -/
inductive Json where
  | null
  | bool (b : Bool)
  | number (n : Int)
  | string (s : String)
  | array (vs : List Json)
  | object (members : List (String × Json))
  deriving Repr

/-- `serde_json` for one type. -/
structure Codec (α : Type) where
  toVec : α → Except String (List UInt8)
  fromSlice : List UInt8 → Except String α

/-- What is written can be read back. -/
def Codec.Lawful {α : Type} (codec : Codec α) : Prop :=
  ∀ x bytes, codec.toVec x = .ok bytes → codec.fromSlice bytes = .ok x

/-- Identifies a key. -/
structure KeyId where
  asStr : String
  deriving DecidableEq, Repr

instance : ToString KeyId := ⟨KeyId.asStr⟩

inductive Algorithm where
  | es256
  | edDSA
  | bls12381G1Schnorr
  deriving DecidableEq, Repr

/-- The algorithm's name in JOSE. -/
def Algorithm.asStr : Algorithm → String
  | .es256 => "ES256"
  | .edDSA => "EdDSA"
  | .bls12381G1Schnorr => "EcsdsaBls12381Bp1Sha256Sec1"

/-- Whether signing takes a message that is already hashed. -/
def Algorithm.signsPrehashedInput : Algorithm → Bool
  | .bls12381G1Schnorr => true
  | _ => false

structure KeyInfo where
  kid : KeyId
  algorithm : Algorithm
  pluginId : String
  createdAt : Int
  deriving DecidableEq, Repr

/-- What `generate_key` returns. -/
structure GeneratedKey where
  kid : KeyId
  publicKeyJwk : Json
  deriving Repr

structure Signature where
  bytes : List UInt8
  deriving DecidableEq, Repr

inductive AttestationFormat where
  | x509Chain
  | opaqueFormat
  deriving DecidableEq, Repr

structure AttestationChain where
  format : AttestationFormat
  certificates : List (List UInt8)
  clientDataHash : List UInt8
  opaqueAttestation : List UInt8
  deriving DecidableEq, Repr

/-! ## Security properties -/

inductive KeyStorageType where
  | software
  | hardware
  | remoteHsm
  | trustedExecution
  deriving DecidableEq, Repr

inductive CertificationLevel where
  | unattested
  | attestedSharedEnvironment
  | attestedDedicatedHardware
  deriving DecidableEq, Repr

namespace CertificationLevel

/-- The variant's name, as `{:?}` prints it. -/
def debug : CertificationLevel → String
  | .unattested => "Unattested"
  | .attestedSharedEnvironment => "AttestedSharedEnvironment"
  | .attestedDedicatedHardware => "AttestedDedicatedHardware"

end CertificationLevel

structure SecurityProperties where
  keyStorage : KeyStorageType
  userAuthentication : List String
  certification : CertificationLevel
  amr : List String
  deriving DecidableEq, Repr

/-! ## Lifecycle -/

inductive FactorKind where
  | opaqueFactor
  | webAuthn
  | rawSign
  deriving DecidableEq, Repr

namespace FactorKind

/-- The variant's name, as `{:?}` prints it. -/
def debug : FactorKind → String
  | .opaqueFactor => "Opaque"
  | .webAuthn => "WebAuthn"
  | .rawSign => "RawSign"

end FactorKind

inductive LifecycleState where
  | uninitialized
  | registered
  | active
  | suspended
  | destroyed
  deriving DecidableEq, Repr

inductive DestroyMode where
  | localOnly
  | remoteRevokeIfSupported
  | strict
  deriving DecidableEq, Repr

structure LifecycleStatus where
  contextId : String
  pluginId : String
  factorKind : FactorKind
  state : LifecycleState
  updatedAt : Int
  deriving DecidableEq, Repr

structure RegisterLifecycleRequest where
  pluginId : String
  contextId : String
  factorKind : FactorKind
  deriving DecidableEq, Repr

structure ActivateLifecycleRequest where
  pluginId : String
  contextId : String
  deriving DecidableEq, Repr

structure RotateLifecycleRequest where
  pluginId : String
  contextId : String
  deriving DecidableEq, Repr

structure DestroyLifecycleRequest where
  pluginId : String
  contextId : String
  mode : DestroyMode
  reason : Option String
  deriving DecidableEq, Repr

structure RegistrationOutcome where
  contextId : String
  state : LifecycleState
  deriving DecidableEq, Repr

structure ActivationOutcome where
  contextId : String
  state : LifecycleState
  deriving DecidableEq, Repr

structure RotationOutcome where
  contextId : String
  state : LifecycleState
  deriving DecidableEq, Repr

structure DestructionOutcome where
  contextId : String
  state : LifecycleState
  remotePerformed : Bool
  deriving DecidableEq, Repr

/-- Outcome of a key migration. -/
inductive MigrationResult where
  | migrated (newKid : KeyId)
  | reEnrollmentRequired (oldKid : KeyId)
  deriving DecidableEq, Repr

/-! ## Configuration -/

/-- The manager's configuration. The plugins' own sections are left out: nothing in
the manager reads them. -/
structure WscdConfig where
  defaultPlugin : String
  operationDefaults : HashMap String String
  keyBindings : HashMap KeyId String

end Wscd
