import Wscd.Lib.Sha256
import Wscd.Plugins.Jwk
import Wscd.Plugins.Lifecycle
import Wscd.Traits

/-!
# The softkey plugin

Keys live in memory, lifecycle contexts in a second map. What a key generation takes from
the host (`Draw`: the secret of the new key and the time) and the time of a lifecycle call
are arguments; the curves, the hash, base64 and the JSON codec are third-party code and
stay parameters.

`SoftkeyHost` supplies the arguments from a stream, which makes the plugin an instance of
the trait.
-/

namespace Wscd

open Lib

/-- The curves, the hash and base64 as the plugin uses them. -/
structure SoftkeyCrypto extends Digest where
  decode : String → Except String (List UInt8)
  p256FromSlice : List UInt8 → Except String (List UInt8)
  /-- The coordinates of a P-256 secret's public point. -/
  p256Point : List UInt8 → Option (List UInt8) × Option (List UInt8)
  p256Sign : List UInt8 → List UInt8 → List UInt8
  ed25519Public : List UInt8 → List UInt8
  ed25519Sign : List UInt8 → List UInt8 → List UInt8

/-- What one key generation takes from the host. -/
structure Draw where
  secret : List UInt8
  now : Int
  deriving DecidableEq, Repr

namespace Softkey

structure StoredKey where
  kid : String
  algorithm : String
  /-- The private scalar, base64url. -/
  d : String
  createdAt : Int
  deriving DecidableEq, Repr

end Softkey

structure SoftkeyPlugin where
  keys : HashMap String Softkey.StoredKey
  lifecycle : LifecycleMap

namespace SoftkeyPlugin

open Softkey

def id : String := "softkey"

def new : SoftkeyPlugin := ⟨∅, ∅⟩

/-! ## Containers -/

structure ExportedContainer where
  keys : List StoredKey
  lifecycle : LifecycleMap
  deriving DecidableEq

/-- The two container shapes: the current object and the older bare array. -/
structure ContainerCodec where
  exported : Codec ExportedContainer
  legacy : Codec (List StoredKey)

/-- Import from a serialized container. -/
def fromContainer (codec : ContainerCodec) (container : List UInt8) :
    Except WscdError SoftkeyPlugin :=
  match codec.exported.fromSlice container with
  | .ok exported => .ok ⟨HashMap.ofListLast StoredKey.kid exported.keys, exported.lifecycle⟩
  | .error _ =>
    match codec.legacy.fromSlice container with
    | .ok keys => .ok ⟨HashMap.ofListLast StoredKey.kid keys, ∅⟩
    | .error e => .error (.serialization e)

/-- Ids of the keys this plugin holds. -/
def keyIds (order : HashMap.IterOrder String StoredKey) (self : SoftkeyPlugin) : List KeyId :=
  (order.keys self.keys).map KeyId.mk

def exportContainer (codec : ContainerCodec) (order : HashMap.IterOrder String StoredKey)
    (self : SoftkeyPlugin) : Except WscdError (List UInt8) :=
  match codec.exported.toVec ⟨order.values self.keys, self.lifecycle⟩ with
  | .ok bytes => .ok bytes
  | .error e => .error (.serialization e)

/-! ## Keys -/

variable (crypto : SoftkeyCrypto)

/-- A public key JWK from the secret of a P-256 key. -/
def publicKeyJwkP256 (secret : List UInt8) : Except WscdError Json :=
  match crypto.p256Point secret with
  | (some x, some y) =>
    .ok (.object [("kty", .string "EC"), ("crv", .string "P-256"),
      ("x", .string (crypto.encode x)), ("y", .string (crypto.encode y))])
  | (none, _) => .error (.crypto "missing x coordinate")
  | (some _, none) => .error (.crypto "missing y coordinate")

def publicKeyJwkEd25519 (secret : List UInt8) : Json :=
  .object [("kty", .string "OKP"), ("crv", .string "Ed25519"),
    ("x", .string (crypto.encode (crypto.ed25519Public secret)))]

/-- The name a stored key gives its algorithm. -/
def algorithmName : Algorithm → String
  | .es256 => "ES256"
  | .edDSA => "EdDSA"
  | .bls12381G1Schnorr => "EcsdsaBls12381Bp1Sha256Sec1"

/-- The encoded secret and the public JWK of a new key. -/
def newKey (algorithm : Algorithm) (secret : List UInt8) : Except WscdError (String × Json) :=
  match algorithm with
  | .bls12381G1Schnorr => .error (.unsupported id "generate_key(Bls12381G1Schnorr)")
  | .es256 =>
    match publicKeyJwkP256 crypto secret with
    | .ok jwk => .ok (crypto.encode secret, jwk)
    | .error e => .error e
  | .edDSA => .ok (crypto.encode secret, publicKeyJwkEd25519 crypto secret)

/-- The record of a new key, with its JWK. -/
def draw (algorithm : Algorithm) (d : Draw) : Except WscdError (StoredKey × Json) :=
  match newKey crypto algorithm d.secret with
  | .error e => .error e
  | .ok (encoded, jwk) =>
    match jwkThumbprint crypto.toDigest jwk with
    | .error e => .error e
    | .ok kid => .ok (⟨kid, algorithmName algorithm, encoded, d.now⟩, jwk)

def generateKey (algorithm : Algorithm) (d : Draw) (self : SoftkeyPlugin) :
    Except WscdError GeneratedKey × SoftkeyPlugin :=
  match draw crypto algorithm d with
  | .error e => (.error e, self)
  | .ok (stored, jwk) =>
    (.ok ⟨⟨stored.kid⟩, jwk⟩, { self with keys := self.keys.insert stored.kid stored })

def loadP256SigningKey (stored : StoredKey) : Except WscdError (List UInt8) :=
  match crypto.decode stored.d with
  | .error e => .error (.crypto e)
  | .ok bytes =>
    match crypto.p256FromSlice bytes with
    | .error e => .error (.crypto e)
    | .ok secret => .ok secret

def loadEd25519SigningKey (stored : StoredKey) : Except WscdError (List UInt8) :=
  match crypto.decode stored.d with
  | .error e => .error (.crypto e)
  | .ok bytes =>
    if bytes.length = 32 then .ok bytes else .error (.crypto "invalid Ed25519 key length")

def sign (kid : KeyId) (data : List UInt8) (self : SoftkeyPlugin) : Except WscdError Signature :=
  match self.keys.lookup kid.asStr with
  | none => .error (.keyNotFound kid.asStr)
  | some stored =>
    match stored.algorithm with
    | "ES256" => (loadP256SigningKey crypto stored).map fun k => ⟨crypto.p256Sign k data⟩
    | "EdDSA" => (loadEd25519SigningKey crypto stored).map fun k => ⟨crypto.ed25519Sign k data⟩
    | alg => .error (.unsupported id s!"sign with algorithm {alg}")

def keyInfo (k : StoredKey) : KeyInfo where
  kid := ⟨k.kid⟩
  algorithm := if k.algorithm = "EdDSA" then .edDSA else .es256
  pluginId := id
  createdAt := k.createdAt

def listKeys (order : HashMap.IterOrder String StoredKey) (self : SoftkeyPlugin) : List KeyInfo :=
  (order.values self.keys).map keyInfo

def deleteKey (kid : KeyId) (self : SoftkeyPlugin) : Except WscdError Unit × SoftkeyPlugin :=
  match self.keys.lookup kid.asStr with
  | none => (.error (.keyNotFound kid.asStr), self)
  | some _ => (.ok (), { self with keys := self.keys.erase kid.asStr })

def exportPublicKey (kid : KeyId) (self : SoftkeyPlugin) : Except WscdError Json :=
  match self.keys.lookup kid.asStr with
  | none => .error (.keyNotFound kid.asStr)
  | some stored =>
    match stored.algorithm with
    | "ES256" =>
      match loadP256SigningKey crypto stored with
      | .error e => .error e
      | .ok secret => publicKeyJwkP256 crypto secret
    | "EdDSA" => (loadEd25519SigningKey crypto stored).map (publicKeyJwkEd25519 crypto)
    | alg => .error (.unsupported id s!"export_public_key for algorithm {alg}")

def importKey (algorithm : Algorithm) (d : Draw) (self : SoftkeyPlugin) :
    Except WscdError MigrationResult × SoftkeyPlugin :=
  match self.generateKey crypto algorithm d with
  | (.error e, self') => (.error e, self')
  | (.ok generated, self') => (.ok (.migrated generated.kid), self')

def securityProperties (kid : KeyId) (self : SoftkeyPlugin) :
    Except WscdError SecurityProperties :=
  match self.keys.lookup kid.asStr with
  | none => .error (.keyNotFound kid.asStr)
  | some _ => .ok ⟨.software, [], .unattested, ["swk"]⟩

/-! ## Lifecycle -/

def lifecycleStatus (contextId : String) (self : SoftkeyPlugin) :
    Except WscdError LifecycleStatus :=
  lifecycleStatusFields id contextId
    ((self.lifecycle.lookup contextId).map fun ctx => (ctx.factorKind, ctx.state, ctx.updatedAt))

/-- `for kid in kids { state.keys.remove(kid) }` -/
def removeKeys (kids : List KeyId) (keys : HashMap String StoredKey) : HashMap String StoredKey :=
  HashMap.eraseAll (kids.map KeyId.asStr) keys

def registerLifecycle (request : RegisterLifecycleRequest) (d : Draw) (now : Int)
    (self : SoftkeyPlugin) : Except WscdError RegistrationOutcome × SoftkeyPlugin :=
  match self.generateKey crypto .es256 d with
  | (.error e, self') => (.error e, self')
  | (.ok generated, self') =>
    let out := registerLifecycleContext self'.lifecycle request.contextId request.factorKind
      generated.kid now removeKeys self'.keys
    (.ok out.1, ⟨out.2.2, out.2.1⟩)

def activateLifecycle (request : ActivateLifecycleRequest) (now : Int) (self : SoftkeyPlugin) :
    Except WscdError ActivationOutcome × SoftkeyPlugin :=
  match activateLifecycleContext self.lifecycle request.contextId now with
  | .error e => (.error e, self)
  | .ok lifecycle => (.ok ⟨request.contextId, .active⟩, { self with lifecycle := lifecycle })

/-- Rotation leaves the context's state as it is. -/
def rotateLifecycle (request : RotateLifecycleRequest) (d : Draw) (now : Int)
    (self : SoftkeyPlugin) : Except WscdError RotationOutcome × SoftkeyPlugin :=
  match self.generateKey crypto .es256 d with
  | (.error e, self') => (.error e, self')
  | (.ok generated, self') =>
    match rotateLifecyclePushKey self'.lifecycle request.contextId generated.kid now with
    | .error e => (.error e, self')
    | .ok ctx =>
      (.ok ⟨request.contextId, ctx.state⟩,
        { self' with lifecycle := self'.lifecycle.insert request.contextId ctx })

def destroyLifecycle (request : DestroyLifecycleRequest) (now : Int) (self : SoftkeyPlugin) :
    Except WscdError DestructionOutcome × SoftkeyPlugin :=
  match self.lifecycle.lookup request.contextId with
  | none => (.error (.keyNotFound request.contextId), self)
  | some read =>
    let lifecycle :=
      match self.lifecycle.lookup request.contextId with
      | some ctx =>
        self.lifecycle.insert request.contextId
          { ctx with state := .destroyed, updatedAt := now, keyIds := [] }
      | none => self.lifecycle
    (.ok ⟨request.contextId, .destroyed, false⟩, ⟨removeKeys read.keyIds self.keys, lifecycle⟩)

end SoftkeyPlugin

/-! ## The plugin in its host -/

/-- The host of a softkey plugin: the third-party code and the streams of secrets and times,
read at `tick`. -/
structure SoftkeyHost where
  crypto : SoftkeyCrypto
  order : HashMap.IterOrder String Softkey.StoredKey
  draws : Nat → Draw
  clock : Nat → Int
  tick : Nat

namespace SoftkeyHost

def draw (host : SoftkeyHost) : Draw := host.draws host.tick

def now (host : SoftkeyHost) : Int := host.clock host.tick

def next (host : SoftkeyHost) : SoftkeyHost := { host with tick := host.tick + 1 }

/-- A method that changes the plugin, as a trait method. -/
def run {α : Type} (f : SoftkeyHost → SoftkeyPlugin → Except WscdError α × SoftkeyPlugin) :
    PluginM SoftkeyPlugin SoftkeyHost α := fun self host =>
  ((f host self).1, (f host self).2, host.next)

/-- A method that only reads the plugin, as a trait method. -/
def read {α : Type} (f : SoftkeyHost → SoftkeyPlugin → Except WscdError α) :
    PluginM SoftkeyPlugin SoftkeyHost α := fun self host => (f host self, self, host)

end SoftkeyHost

open SoftkeyHost in
instance : WscdPlugin SoftkeyPlugin SoftkeyHost where
  generateKey algorithm := run fun h => SoftkeyPlugin.generateKey h.crypto algorithm h.draw
  sign kid data _ := read fun h => SoftkeyPlugin.sign h.crypto kid data
  listKeys := read fun h self => .ok (self.listKeys h.order)
  attestationChain _ := read fun _ _ => .ok none
  deleteKey kid := run fun _ => SoftkeyPlugin.deleteKey kid
  exportPublicKey kid := read fun h => SoftkeyPlugin.exportPublicKey h.crypto kid
  supportsImport _ _ := true
  importKey algorithm := run fun h => SoftkeyPlugin.importKey h.crypto algorithm h.draw
  securityProperties kid self host := (self.securityProperties kid, host)
  lifecycleStatus contextId := read fun _ => SoftkeyPlugin.lifecycleStatus contextId
  registerLifecycle request := run fun h =>
    SoftkeyPlugin.registerLifecycle h.crypto request h.draw h.now
  activateLifecycle request := run fun h => SoftkeyPlugin.activateLifecycle request h.now
  rotateLifecycle request := run fun h =>
    SoftkeyPlugin.rotateLifecycle h.crypto request h.draw h.now
  destroyLifecycle request := run fun h => SoftkeyPlugin.destroyLifecycle request h.now

/-! ## A host for one secret -/

namespace SoftkeyHost

/-- The P-256 secret `1`. -/
def secretOne : List UInt8 := List.replicate 31 0 ++ [1]

/-- The coordinates of the P-256 base point, the public point of the secret `1`. -/
def basePoint : List UInt8 × List UInt8 :=
  ([107, 23, 209, 242, 225, 44, 66, 71, 248, 188, 230, 229, 99, 164, 64, 242, 119, 3, 125, 129,
    45, 235, 51, 160, 244, 161, 57, 69, 216, 152, 194, 150],
   [79, 227, 66, 226, 254, 26, 127, 155, 142, 231, 235, 74, 124, 15, 158, 22, 43, 206, 51, 87,
    107, 49, 94, 206, 203, 182, 64, 104, 55, 191, 81, 245])

/-- The public point of the P-256 secret `2`. -/
def doublePoint : List UInt8 × List UInt8 :=
  ([124, 242, 123, 24, 141, 3, 79, 126, 138, 82, 56, 3, 4, 181, 26, 195, 192, 137, 105, 226, 119,
    242, 27, 53, 166, 11, 72, 252, 71, 102, 153, 120],
   [7, 119, 85, 16, 219, 142, 208, 64, 41, 61, 154, 198, 159, 116, 48, 219, 186, 125, 173, 230, 60,
    233, 130, 41, 158, 4, 183, 157, 34, 120, 115, 209])

/-- The RFC 6979 signature of the octets `1, 2` with the secret `1`. -/
def signatureOne : List UInt8 :=
  [108, 242, 41, 214, 222, 199, 229, 97, 159, 43, 38, 46, 182, 178, 152, 210, 143, 147, 250, 236,
    40, 246, 16, 117, 147, 214, 151, 227, 175, 123, 152, 175, 253, 245, 51, 211, 248, 56, 122,
    124, 249, 166, 166, 27, 70, 174, 71, 145, 112, 228, 91, 210, 79, 16, 116, 99, 36, 66, 125, 2,
    77, 132, 120, 250]

/-- A host whose random numbers are always the secret `1`. The hash and the encoding are the real
ones, and the curve is given where a key of that secret and the message `1, 2` need it. -/
def secretOneHost : SoftkeyHost where
  crypto :=
    { sha256 := Lib.sha256
      encode := base64url
      decode := base64urlDecode
      p256FromSlice := fun octets =>
        if octets = secretOne then .ok octets else .error "crypto error"
      p256Point := fun secret =>
        if secret = secretOne then (some basePoint.1, some basePoint.2) else (none, none)
      p256Sign := fun secret data =>
        if secret = secretOne ∧ data = [1, 2] then signatureOne else []
      ed25519Public := fun _ => []
      ed25519Sign := fun _ _ => [] }
  order := HashMap.IterOrder.sorted
  draws := fun n => ⟨secretOne, n⟩
  clock := fun n => n
  tick := 0

/-- The public JWK of a P-256 point. -/
def pointJwk (point : List UInt8 × List UInt8) : Json :=
  .object [("kty", .string "EC"), ("crv", .string "P-256"), ("x", .string (base64url point.1)),
    ("y", .string (base64url point.2))]

/-- The thumbprint of the key of the secret `1`. -/
def kidOne : KeyId := ⟨"xx0BcA-wMohw8atYDJOe6peGModklG2wRHBlXHMvl0M"⟩

/-- The thumbprint of the key of the secret `2`. -/
def kidTwo : KeyId := ⟨"AhqHzaYXA5MzmDCrsseUsVBGKyfhDhvekx0THjH_xIE"⟩

theorem thumbprint_basePoint :
    jwkThumbprint ⟨Lib.sha256, base64url⟩ (pointJwk basePoint) = .ok kidOne.asStr := by
  decide +kernel

theorem thumbprint_doublePoint :
    jwkThumbprint ⟨Lib.sha256, base64url⟩ (pointJwk doublePoint) = .ok kidTwo.asStr := by
  decide +kernel

/-- The key that the secret `1` makes. -/
theorem draw_secretOne (now : Int) :
    SoftkeyPlugin.draw secretOneHost.crypto .es256 ⟨secretOne, now⟩ =
      .ok (⟨kidOne.asStr, "ES256", base64url secretOne, now⟩, pointJwk basePoint) := by
  have hnew : SoftkeyPlugin.newKey secretOneHost.crypto .es256 secretOne =
      .ok (base64url secretOne, pointJwk basePoint) := by rfl
  unfold SoftkeyPlugin.draw
  dsimp only
  rw [hnew]
  dsimp only
  rw [show jwkThumbprint secretOneHost.crypto.toDigest (pointJwk basePoint) = _ from
    thumbprint_basePoint]
  rfl

end SoftkeyHost

end Wscd
