import Wscd.Plugins.Jwk
import Wscd.Plugins.R2psSession

/-!
# Keys of the R2PS plugin

Keys are generated and listed by the server; the plugin keeps none. Deleting a key is not in
the protocol, so the plugin refuses it.
-/

namespace Wscd

open Lib

/-- A key as the server lists it, its public key in SPKI DER under base64. -/
structure HsmKeyInfo where
  kid : String
  publicKey : String
  creationTime : Int
  deriving DecidableEq, Repr

/-- The requests of the client that concern the keys themselves. -/
structure R2psKeyClient (W : Type) where
  generateKey : W → Except R2psError (List UInt8) × W
  listKeys : List String → W → Except R2psError (List HsmKeyInfo) × W

/-- The decoders of a listed public key, and the text of a `FromUtf8Error`. -/
structure SpkiWire where
  decodeVec : String → Except String (List UInt8)
  /-- The coordinates of the point, in uncompressed form. -/
  fromPublicKeyDer : List UInt8 → Except String (Option (List UInt8) × Option (List UInt8))
  fromUtf8Error : List UInt8 → String

/-- The plugin's own state: the methods of the last signature and the lifecycle contexts. Its
client, like everything in the outside `W`, is the host's. -/
structure R2psPlugin (W : Type) where
  lastAmr : List String
  lifecycle : HashMap String R2psPlugin.LifecycleContext

namespace R2psPlugin

variable {W : Type}

/-- A public key JWK from SPKI DER under base64. -/
def publicKeyJwkFromSpki (digest : Digest) (spki : SpkiWire) (spkiB64 : String) :
    Except WscdError Json :=
  match spki.decodeVec spkiB64 with
  | .error e => .error (.crypto e)
  | .ok spkiDer =>
    match spki.fromPublicKeyDer spkiDer with
    | .error e => .error (.crypto s!"invalid SPKI: {e}")
    | .ok (none, _) => .error (.crypto "missing x")
    | .ok (some _, none) => .error (.crypto "missing y")
    | .ok (some x, some y) =>
      .ok (.object [("kty", .string "EC"), ("crv", .string "P-256"),
        ("x", .string (digest.encode x)), ("y", .string (digest.encode y))])

/-- `String::from_utf8` of a kid -/
def kidFromUtf8 (spki : SpkiWire) (kidBytes : List UInt8) : Except WscdError String :=
  match fromUtf8 kidBytes with
  | some kid => .ok kid
  | none => .error (.plugin s!"invalid kid: {spki.fromUtf8Error kidBytes}")

def findListed (kid : String) (keys : List HsmKeyInfo) : Except WscdError HsmKeyInfo :=
  match keys.find? fun k => k.kid = kid with
  | some info => .ok info
  | none => .error (.keyNotFound kid)

/-- Nobody is asked: a key is generated with one factor, whatever the algorithm asked for. -/
def generateKey (wire : R2psWire) (spki : SpkiWire) (digest : Digest) (client : R2psKeyClient W)
    (progress : ProgressCallback W) : HostM W GeneratedKey := do
  HostM.onProgress progress (.started "generate_key")
  HostM.onProgress progress (.networkRoundTrip 1 2)
  let answer ← Traced.update client.generateKey
  let kidBytes ← Traced.lift (clientResult wire "R2PS keygen" answer)
  let kid ← Traced.lift (kidFromUtf8 spki kidBytes)
  let listed ← Traced.update (client.listKeys ["P-256"])
  let keys ← Traced.lift (clientResult wire "R2PS list_keys" listed)
  let info ← Traced.lift (findListed kid keys)
  let jwk ← Traced.lift (publicKeyJwkFromSpki digest spki info.publicKey)
  HostM.onProgress progress .complete
  return ⟨⟨kid⟩, jwk⟩

def deleteKey (_ : KeyId) : Except WscdError Unit := .error (.unsupported "r2ps" "delete_key")

def securityProperties (_ : KeyId) (self : R2psPlugin W) : Except WscdError SecurityProperties :=
  .ok ⟨.remoteHsm, ["iso_18045_high"], .unattested, self.lastAmr⟩

end R2psPlugin

end Wscd
