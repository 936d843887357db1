import Wscd.Arkg
import Wscd.PreviewSign
import Wscd.Plugins.Jwk
import Wscd.Plugins.Lifecycle

/-!
# The fido2 plugin

Keys live on an authenticator; the plugin keeps a record per key and lifecycle contexts in a
second map. What a key generation takes from outside (`Fido2.Draw`: how the ceremony with
the authenticator ended, the random numbers, the time) is an argument. Signing is in a
module of its own.
-/

namespace Wscd

open Lib PreviewSign

/-- The hash, base64, CBOR, HKDF and curve as the plugin uses them. -/
structure Fido2Crypto extends Digest where
  cbor : CborCodec
  kdf : Kdf
  p256 : P256

namespace Fido2

structure StoredFidoKey where
  kid : String
  credentialId : List UInt8
  keyHandle : List UInt8
  /-- 32 octets for P-256, 48 for BLS12-381 G1; the width says which. -/
  pubX : List UInt8
  pubY : List UInt8
  algorithm : Int
  attestationObject : List UInt8
  hasDedicatedHardwareChain : Bool
  clientDataHash : List UInt8
  /-- The ARKG key handle and context; none for a key used as the authenticator gave it. -/
  arkgKhAndCtx : Option (List UInt8 × List UInt8)
  createdAt : Int
  deriving DecidableEq, Repr

/-- What one key generation takes from outside. -/
structure Draw where
  ceremony : Except WscdError MakeCredentialResult
  clientDataHash : List UInt8
  ikm : List UInt8
  now : Int

def p256CoordinateLen : Nat := 32

def arkgDeriveCtx : List UInt8 := Arkg.ascii "siros-wscd-manager previewSign"

/-- The exported state; an absent `lifecycle` reads as empty. -/
structure ExportedPluginState where
  keys : List StoredFidoKey
  lifecycle : LifecycleMap
  deriving DecidableEq

/-- The wire order of keys and of key listings: oldest first, then by kid. -/
def olderOrEqual (a b : Int × String) : Bool :=
  decide (a.1 < b.1) || (decide (a.1 = b.1) && decide (a.2 ≤ b.2))

end Fido2

structure Fido2SignPlugin where
  keys : HashMap String Fido2.StoredFidoKey
  lifecycle : LifecycleMap

namespace Fido2SignPlugin

open Fido2

def id : String := "fido2"

def new : Fido2SignPlugin := ⟨∅, ∅⟩

/-! ## State blobs -/

/-- One pass of the width check over the stored keys. -/
def checkWidths (key : StoredFidoKey) : Except WscdError Unit :=
  let width := key.pubX.length
  if width ≠ p256CoordinateLen ∧ width ≠ bls12381G1CoordinateLen then
    .error (.serialization (s!"stored key '{key.kid}' has a {width}-octet x coordinate; " ++
      s!"expected {p256CoordinateLen} (P-256) or {bls12381G1CoordinateLen} (BLS12-381 G1)"))
  else if key.pubY.length ≠ width then
    .error (.serialization
      s!"stored key '{key.kid}' has mismatched coordinate widths ({width} vs {key.pubY.length})")
  else .ok ()

/-- Restore from an exported state; of two records with one kid the first is kept. -/
def fromState (codec : Codec ExportedPluginState) (stateBytes : List UInt8) :
    Except WscdError Fido2SignPlugin :=
  match codec.fromSlice stateBytes with
  | .error e => .error (.serialization e)
  | .ok exported =>
    match exported.keys.forM checkWidths with
    | .error e => .error e
    | .ok () => .ok ⟨HashMap.ofListFirst StoredFidoKey.kid exported.keys, exported.lifecycle⟩

/-- Ids of the keys this plugin holds. -/
def keyIds (order : HashMap.IterOrder String StoredFidoKey) (self : Fido2SignPlugin) :
    List KeyId :=
  (order.keys self.keys).map KeyId.mk

/-- The records in wire order. -/
def sortedKeys (order : HashMap.IterOrder String StoredFidoKey) (self : Fido2SignPlugin) :
    List StoredFidoKey :=
  (order.values self.keys).mergeSort fun a b =>
    olderOrEqual (a.createdAt, a.kid) (b.createdAt, b.kid)

def exportState (codec : Codec ExportedPluginState)
    (order : HashMap.IterOrder String StoredFidoKey) (self : Fido2SignPlugin) :
    Except WscdError (List UInt8) :=
  match codec.toVec ⟨self.sortedKeys order, self.lifecycle⟩ with
  | .ok bytes => .ok bytes
  | .error e => .error (.serialization e)

/-! ## Keys -/

/-- The algorithm a stored key was created for, by its coordinate width. -/
def keyAlgorithm (key : StoredFidoKey) : Algorithm :=
  if key.pubX.length = bls12381G1CoordinateLen then .bls12381G1Schnorr else .es256

variable (crypto : Fido2Crypto)

def buildPublicKeyJwk (key : StoredFidoKey) : Json :=
  match keyAlgorithm key with
  | .bls12381G1Schnorr =>
    .object [("kty", .string "EC"), ("crv", .string "BLS12381G1"),
      ("x", .string (crypto.encode key.pubX)), ("y", .string (crypto.encode key.pubY))]
  | _ =>
    .object [("kty", .string "EC"), ("crv", .string "P-256"),
      ("x", .string (crypto.encode key.pubX)), ("y", .string (crypto.encode key.pubY))]

/-- The record `store_generated_key` files, under the thumbprint of its JWK. -/
def generatedRecord (result : MakeCredentialResult) (pubX pubY : List UInt8)
    (arkgKhAndCtx : Option (List UInt8 × List UInt8)) (clientDataHash : List UInt8) (now : Int) :
    Except WscdError (StoredFidoKey × Json) :=
  let stored : StoredFidoKey :=
    { kid := ""
      credentialId := result.credentialId
      keyHandle := result.generatedKey.keyHandle
      pubX := pubX
      pubY := pubY
      algorithm := result.generatedKey.algorithm
      attestationObject := result.generatedKey.attestationObject
      hasDedicatedHardwareChain :=
        attestationObjectHasDedicatedHardwareChain crypto.cbor
          result.generatedKey.attestationObject
      clientDataHash := clientDataHash
      arkgKhAndCtx := arkgKhAndCtx
      createdAt := now }
  let publicKeyJwk := buildPublicKeyJwk crypto stored
  match jwkThumbprint crypto.toDigest publicKeyJwk with
  | .error e => .error e
  | .ok kid => .ok ({ stored with kid := kid }, publicKeyJwk)

/-- The coordinates of a P-256 key and what signing needs to derive it: derived from an ARKG
seed, or taken from a plain EC2 key. -/
def p256Coordinates (publicKeyCose ikm : List UInt8) :
    Except WscdError (List UInt8 × List UInt8 × Option (List UInt8 × List UInt8)) :=
  match crypto.cbor.read publicKeyCose with
  | .error e => .error (.crypto s!"invalid generated-key COSE CBOR: {e}")
  | .ok coseValue =>
    match Arkg.parseArkgPubSeed crypto.p256 coseValue with
    | .ok seed =>
      match Arkg.derivePublicKey crypto.kdf crypto.p256 seed ikm arkgDeriveCtx with
      | .error e => .error e
      | .ok (derived, kh) => .ok (derived.x, derived.y, some (kh, arkgDeriveCtx))
    | .error _ =>
      match decodeCoseEc2PublicKey crypto.cbor publicKeyCose with
      | .error e => .error e
      | .ok (x, y) => .ok (x, y, none)

/-- The record of a new key, with its JWK. -/
def draw (algorithm : Algorithm) (d : Draw) : Except WscdError (StoredFidoKey × Json) :=
  match algorithm with
  | .edDSA => .error (.unsupported id "generate_key(EdDSA)")
  | .bls12381G1Schnorr =>
    match d.ceremony with
    | .error e => .error e
    | .ok result =>
      match decodeCoseBls12381G1PublicKey crypto.cbor result.generatedKey.publicKeyCose with
      | .error e => .error e
      | .ok (x, y) => generatedRecord crypto result x y none d.clientDataHash d.now
  | .es256 =>
    match d.ceremony with
    | .error e => .error e
    | .ok result =>
      match p256Coordinates crypto result.generatedKey.publicKeyCose d.ikm with
      | .error e => .error e
      | .ok (x, y, arkgKhAndCtx) =>
        generatedRecord crypto result x y arkgKhAndCtx d.clientDataHash d.now

/-- The algorithms the ceremony of a key generation asks for. -/
def requestedAlgorithms (algorithm : Algorithm) : List Int :=
  match algorithm with
  | .bls12381G1Schnorr => [ecsdsaBls12381Bp1Sha256Sec1]
  | _ => [arkgP256Esp256]

def generateKey (algorithm : Algorithm) (d : Draw) (self : Fido2SignPlugin) :
    Except WscdError GeneratedKey × Fido2SignPlugin :=
  match draw crypto algorithm d with
  | .error e => (.error e, self)
  | .ok (stored, jwk) =>
    (.ok ⟨⟨stored.kid⟩, jwk⟩, { self with keys := self.keys.insert stored.kid stored })

def findKey (kid : KeyId) (self : Fido2SignPlugin) : Except WscdError StoredFidoKey :=
  match self.keys.lookup kid.asStr with
  | some key => .ok key
  | none => .error (.keyNotFound kid.asStr)

def keyInfo (k : StoredFidoKey) : KeyInfo where
  kid := ⟨k.kid⟩
  algorithm := keyAlgorithm k
  pluginId := "fido2"
  createdAt := k.createdAt

def listKeys (order : HashMap.IterOrder String StoredFidoKey) (self : Fido2SignPlugin) :
    List KeyInfo :=
  ((order.values self.keys).map keyInfo).mergeSort fun a b =>
    olderOrEqual (a.createdAt, a.kid.asStr) (b.createdAt, b.kid.asStr)

def attestationChain (kid : KeyId) (self : Fido2SignPlugin) :
    Except WscdError (Option AttestationChain) :=
  match self.findKey kid with
  | .error e => .error e
  | .ok key =>
    if key.attestationObject = [] then .ok none
    else .ok (some ⟨.opaqueFormat, [], key.clientDataHash, key.attestationObject⟩)

def deleteKey (kid : KeyId) (self : Fido2SignPlugin) : Except WscdError Unit × Fido2SignPlugin :=
  match self.keys.lookup kid.asStr with
  | none => (.error (.keyNotFound kid.asStr), self)
  | some _ => (.ok (), { self with keys := self.keys.erase kid.asStr })

def exportPublicKey (kid : KeyId) (self : Fido2SignPlugin) : Except WscdError Json :=
  (self.findKey kid).map (buildPublicKeyJwk crypto)

def securityProperties (kid : KeyId) (self : Fido2SignPlugin) :
    Except WscdError SecurityProperties :=
  match self.findKey kid with
  | .error e => .error e
  | .ok key =>
    let certification :=
      if key.hasDedicatedHardwareChain then .attestedDedicatedHardware else .unattested
    .ok ⟨.hardware, [], certification, ["hwk", "pop"]⟩

/-! ## Lifecycle -/

def lifecycleStatus (contextId : String) (self : Fido2SignPlugin) :
    Except WscdError LifecycleStatus :=
  lifecycleStatusFields id contextId
    ((self.lifecycle.lookup contextId).map fun ctx => (ctx.factorKind, ctx.state, ctx.updatedAt))

/-- `for stale in stale_ids { state.keys.remove(stale) }` -/
def removeKeys (kids : List KeyId) (keys : HashMap String StoredFidoKey) :
    HashMap String StoredFidoKey :=
  HashMap.eraseAll (kids.map KeyId.asStr) keys

def registerLifecycle (request : RegisterLifecycleRequest) (d : Draw) (now : Int)
    (self : Fido2SignPlugin) : Except WscdError RegistrationOutcome × Fido2SignPlugin :=
  if request.factorKind ≠ .rawSign then
    (.error (.unsupported id s!"register_lifecycle({request.factorKind.debug})"), self)
  else
    match self.generateKey crypto .es256 d with
    | (.error e, self') => (.error e, self')
    | (.ok generated, self') =>
      let out := registerLifecycleContext self'.lifecycle request.contextId request.factorKind
        generated.kid now removeKeys self'.keys
      (.ok out.1, ⟨out.2.2, out.2.1⟩)

def activateLifecycle (request : ActivateLifecycleRequest) (now : Int) (self : Fido2SignPlugin) :
    Except WscdError ActivationOutcome × Fido2SignPlugin :=
  match activateLifecycleContext self.lifecycle request.contextId now with
  | .error e => (.error e, self)
  | .ok lifecycle => (.ok ⟨request.contextId, .active⟩, { self with lifecycle := lifecycle })

/-- Rotation sends the context back to `Registered`. -/
def rotateLifecycle (request : RotateLifecycleRequest) (d : Draw) (now : Int)
    (self : Fido2SignPlugin) : Except WscdError RotationOutcome × Fido2SignPlugin :=
  match self.generateKey crypto .es256 d with
  | (.error e, self') => (.error e, self')
  | (.ok generated, self') =>
    match rotateLifecyclePushKey self'.lifecycle request.contextId generated.kid now with
    | .error e => (.error e, self')
    | .ok ctx =>
      (.ok ⟨request.contextId, .registered⟩,
        { self' with
          lifecycle := self'.lifecycle.insert request.contextId { ctx with state := .registered } })

/-- Every key of the plugin goes, whichever context it belongs to. -/
def destroyLifecycle (request : DestroyLifecycleRequest) (now : Int) (self : Fido2SignPlugin) :
    Except WscdError DestructionOutcome × Fido2SignPlugin :=
  match self.lifecycle.lookup request.contextId with
  | none => (.error (.keyNotFound request.contextId), self)
  | some _ =>
    let lifecycle :=
      match self.lifecycle.lookup request.contextId with
      | some ctx =>
        self.lifecycle.insert request.contextId
          { ctx with state := .destroyed, updatedAt := now, keyIds := [] }
      | none => self.lifecycle
    (.ok ⟨request.contextId, .destroyed, false⟩, ⟨∅, lifecycle⟩)

end Fido2SignPlugin

end Wscd
