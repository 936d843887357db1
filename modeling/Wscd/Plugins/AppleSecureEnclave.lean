import Wscd.Callbacks
import Wscd.Plugins.Jwk

/-!
# The Secure Enclave plugin

The plugin's records, by kid, and their exported form, the map itself; and how a key is
created and deleted behind the host's callback, under a random Keychain tag.
-/

namespace Wscd

open Lib

namespace AppleSecureEnclave

structure StoredKey where
  /-- The Keychain tag the host finds the key by. -/
  keyTag : String
  pubX : List UInt8
  pubY : List UInt8
  createdAt : Int
  deriving DecidableEq, Repr

structure ExportedContainer where
  keys : HashMap String StoredKey

end AppleSecureEnclave

/-- The public key of a new Secure Enclave key. -/
structure SecureEnclavePublicKey where
  x : List UInt8
  y : List UInt8
  deriving DecidableEq, Repr

/-- Host-provided access to the Secure Enclave. -/
structure SecureEnclaveCallback (W : Type) where
  generateKey : String → W → Except WscdError SecureEnclavePublicKey × W
  deleteKey : String → W → Except WscdError Unit × W

structure AppleSecureEnclavePlugin where
  keys : HashMap String AppleSecureEnclave.StoredKey

namespace AppleSecureEnclavePlugin

open AppleSecureEnclave

def id : String := "apple-se"

/-- Restore from an exported container. -/
def fromContainer (codec : Codec ExportedContainer) (container : List UInt8) :
    Except WscdError AppleSecureEnclavePlugin :=
  match codec.fromSlice container with
  | .error e => .error (.serialization e)
  | .ok exported => .ok ⟨exported.keys⟩

def keyIds (order : HashMap.IterOrder String StoredKey) (self : AppleSecureEnclavePlugin) :
    List KeyId :=
  (order.keys self.keys).map KeyId.mk

def securityProperties (kid : KeyId) (self : AppleSecureEnclavePlugin) :
    Except WscdError SecurityProperties :=
  match self.keys.lookup kid.asStr with
  | none => .error (.keyNotFound kid.asStr)
  | some _ => .ok ⟨.hardware, [], .unattested, ["hwk"]⟩

/-! ## Generating and deleting keys -/

/-- What surrounds a call of the plugin. -/
structure Host (W : Type) where
  callback : SecureEnclaveCallback W
  progress : ProgressCallback W
  rng : Rng W
  digest : Digest
  nowUnix : W → Int

/-- What a call asks of the Secure Enclave. -/
inductive EnclaveEvent where
  | generated (keyTag : String) (answer : Except WscdError SecureEnclavePublicKey)
  | deleted (keyTag : String) (answer : Except WscdError Unit)

/-- A call of the plugin: the state is that of the outside and that of the plugin. -/
abbrev EnclaveM (W α : Type) : Type :=
  Traced EnclaveEvent (W × AppleSecureEnclavePlugin) WscdError α

/-- `{b:02x}` for every octet -/
def hex (bytes : List UInt8) : String :=
  String.ofList (bytes.flatMap fun b => [(b.toNat / 16).digitChar, (b.toNat % 16).digitChar])

section Calls

variable {W : Type} (host : Host W)

def publicKeyJwk (x y : List UInt8) : Json :=
  .object [("kty", .string "EC"), ("crv", .string "P-256"),
    ("x", .string (host.digest.encode x)), ("y", .string (host.digest.encode y))]

def onProgress (p : OperationProgress) : EnclaveM W Unit :=
  Traced.modify fun s => (host.progress.onProgress p s.1, s.2)

/-- A fresh Keychain tag: 16 random octets under the plugin's prefix. -/
def randomKeyTag : EnclaveM W String :=
  Traced.update fun s =>
    ("apple-se-tag-" ++ hex (host.rng.bytes 16 s.1).1, (host.rng.bytes 16 s.1).2, s.2)

def generate (keyTag : String) : EnclaveM W SecureEnclavePublicKey :=
  Traced.ask (fun s =>
    ((host.callback.generateKey keyTag s.1).1, (host.callback.generateKey keyTag s.1).2, s.2))
    (.generated keyTag)

def delete (keyTag : String) : EnclaveM W Unit :=
  Traced.ask (fun s =>
    ((host.callback.deleteKey keyTag s.1).1, (host.callback.deleteKey keyTag s.1).2, s.2))
    (.deleted keyTag)

def generateKey (algorithm : Algorithm) : EnclaveM W GeneratedKey := do
  if algorithm ≠ .es256 then
    Traced.lift (.error (.unsupported id s!"generate_key({algorithm.asStr})"))
  else
    onProgress host (.started "generate_key")
    let keyTag ← randomKeyTag host
    let publicKey ← generate host keyTag
    let jwk := publicKeyJwk host publicKey.x publicKey.y
    let kid ← Traced.lift (jwkThumbprint host.digest jwk)
    Traced.modify fun s =>
      (s.1, ⟨s.2.keys.insert kid ⟨keyTag, publicKey.x, publicKey.y, host.nowUnix s.1⟩⟩)
    onProgress host .complete
    return ⟨⟨kid⟩, jwk⟩

/-- The record goes only once the key is gone; that the host no longer has it counts. -/
def deleteKey (kid : KeyId) : EnclaveM W Unit := do
  match ← Traced.get fun s => s.2.keys.lookup kid.asStr with
  | none => Traced.lift (.error (.keyNotFound kid.asStr))
  | some stored =>
    match ← Traced.attempt (delete host stored.keyTag) with
    | .ok () | .error (.keyNotFound _) =>
      Traced.modify fun s => (s.1, ⟨s.2.keys.erase kid.asStr⟩)
    | .error e => Traced.lift (.error e)

end Calls

end AppleSecureEnclavePlugin

end Wscd
