import Wscd.Keyring
import Wscd.Lib.Run
import Wscd.Plugins.Fido2
import Wscd.Plugins.Softkey

/-!
# The softkey and the fido2 plugin are keyrings

`LifecycleBackend` is a plugin as a run of operations sees it. `softkeyBackend` and
`fido2Backend` are the two plugins, and both refine `Keyring`: an operation on the plugin is
the keyring's step, and restoring an export gives the keyring back. A `Session` is a plugin
with the exports taken of it so far.

Results:
1. `softkeyBackend_refines`, `fido2Backend_refines`: the refinement.
2. `Books.step`, `NoOrphans.step`: what a step of a session keeps, in the plugin and in every
   export.
-/

namespace Wscd

open Lib

/-- A plugin's operations, its exports, and the keyring it stands for. -/
structure LifecycleBackend (P V D : Type) where
  rules : KeyringRules
  kidOf : V → String
  keyring : P → Keyring V
  /-- What the key generation of an operation comes to. -/
  generated : LifecycleOp D → Except WscdError V
  apply : LifecycleOp D → P → Except WscdError Unit × P
  exportState : P → Except WscdError (List UInt8)
  fromState : List UInt8 → Except WscdError P

/-- An outcome without its value. -/
def withoutValue {α P : Type} (out : Except WscdError α × P) : Except WscdError Unit × P :=
  (out.1.map fun _ => (), out.2)

theorem withoutValue_eq_ok_iff {α P : Type} (out : Except WscdError α × P) :
    (withoutValue out).1 = .ok () ↔ out.1.isOk = true := by
  rcases out with ⟨e | a, p⟩
  · exact ⟨nofun, nofun⟩
  · exact ⟨fun _ => rfl, fun _ => rfl⟩

namespace LifecycleBackend

variable {P V D : Type}

/-- The plugin's operations are the keyring's. -/
def Simulates (B : LifecycleBackend P V D) : Prop :=
  ∀ op p, ((B.apply op p).1, B.keyring (B.apply op p).2) =
    (B.keyring p).step B.rules B.kidOf (B.generated op) op

/-- And an export that can be restored restores the keyring. -/
structure Refines (B : LifecycleBackend P V D) : Prop where
  apply_eq : B.Simulates
  restore_eq : ∀ p blob q, (∀ k v, (B.keyring p).keys.lookup k = some v → B.kidOf v = k) →
    B.exportState p = .ok blob → B.fromState blob = .ok q → B.keyring q = B.keyring p

variable {B : LifecycleBackend P V D}

theorem keyring_apply (hB : B.Simulates) (op : LifecycleOp D) (p : P) :
    B.keyring (B.apply op p).2 =
      ((B.keyring p).step B.rules B.kidOf (B.generated op) op).2 :=
  congrArg Prod.snd (hB op p)

/-- A call moves the plugin's keyring. -/
theorem moves_apply (hB : B.Simulates) (op : LifecycleOp D) (p : P) :
    Keyring.Moves B.rules B.kidOf (B.keyring p) op (B.generated op) (B.apply op p).1
      (B.keyring (B.apply op p).2) := by
  have hstep := (B.keyring p).step_moves B.rules B.kidOf (B.generated op) op
  rwa [← hB] at hstep

end LifecycleBackend

/-! ## The softkey plugin -/

namespace SoftkeyPlugin

open Softkey

variable (crypto : SoftkeyCrypto)

def toKeyring (self : SoftkeyPlugin) : Keyring StoredKey := ⟨self.keys, self.lifecycle⟩

def apply (op : LifecycleOp Draw) (self : SoftkeyPlugin) : Except WscdError Unit × SoftkeyPlugin :=
  match op with
  | .generateKey algorithm d => withoutValue (self.generateKey crypto algorithm d)
  | .deleteKey kid => withoutValue (self.deleteKey kid)
  | .registerLifecycle request d now => withoutValue (self.registerLifecycle crypto request d now)
  | .activateLifecycle request now => withoutValue (self.activateLifecycle request now)
  | .rotateLifecycle request d now => withoutValue (self.rotateLifecycle crypto request d now)
  | .destroyLifecycle request now => withoutValue (self.destroyLifecycle request now)

/-- The record an operation's key generation comes to. -/
def generated (op : LifecycleOp Draw) : Except WscdError StoredKey :=
  match op with
  | .generateKey algorithm d => (draw crypto algorithm d).map Prod.fst
  | .registerLifecycle _ d _ | .rotateLifecycle _ d _ => (draw crypto .es256 d).map Prod.fst
  | _ => .error (.unsupported id "generate_key")

def rules : KeyringRules := ⟨fun state => state, false⟩

end SoftkeyPlugin

def softkeyBackend (crypto : SoftkeyCrypto) (codec : SoftkeyPlugin.ContainerCodec)
    (order : HashMap.IterOrder String Softkey.StoredKey) :
    LifecycleBackend SoftkeyPlugin Softkey.StoredKey Draw where
  rules := SoftkeyPlugin.rules
  kidOf := Softkey.StoredKey.kid
  keyring := SoftkeyPlugin.toKeyring
  generated := SoftkeyPlugin.generated crypto
  apply := SoftkeyPlugin.apply crypto
  exportState := SoftkeyPlugin.exportContainer codec order
  fromState := SoftkeyPlugin.fromContainer codec

theorem softkey_apply_eq (crypto : SoftkeyCrypto) (op : LifecycleOp Draw) (p : SoftkeyPlugin) :
    ((p.apply crypto op).1, (p.apply crypto op).2.toKeyring) =
      p.toKeyring.step SoftkeyPlugin.rules Softkey.StoredKey.kid
        (SoftkeyPlugin.generated crypto op) op := by
  cases op with
  | generateKey algorithm d =>
    simp only [SoftkeyPlugin.apply, SoftkeyPlugin.generateKey, SoftkeyPlugin.generated,
      Keyring.step]
    rcases SoftkeyPlugin.draw crypto algorithm d with e | ⟨v, jwk⟩ <;> rfl
  | deleteKey kid =>
    simp only [SoftkeyPlugin.apply, SoftkeyPlugin.deleteKey, Keyring.step, SoftkeyPlugin.toKeyring]
    cases p.keys.lookup kid.asStr <;> rfl
  | registerLifecycle request d now =>
    simp only [SoftkeyPlugin.apply, SoftkeyPlugin.registerLifecycle, SoftkeyPlugin.generateKey,
      SoftkeyPlugin.generated, Keyring.step, registerLifecycleContext]
    rcases SoftkeyPlugin.draw crypto .es256 d with e | ⟨v, jwk⟩
    · rfl
    · simp only [Except.map, Keyring.listed, SoftkeyPlugin.toKeyring]
      cases p.lifecycle.lookup request.contextId <;> rfl
  | activateLifecycle request now =>
    simp only [SoftkeyPlugin.apply, SoftkeyPlugin.activateLifecycle, activateLifecycleContext,
      Keyring.step, SoftkeyPlugin.toKeyring]
    cases p.lifecycle.lookup request.contextId <;> rfl
  | rotateLifecycle request d now =>
    simp only [SoftkeyPlugin.apply, SoftkeyPlugin.rotateLifecycle, SoftkeyPlugin.generateKey,
      SoftkeyPlugin.generated, Keyring.step, rotateLifecyclePushKey]
    rcases SoftkeyPlugin.draw crypto .es256 d with e | ⟨v, jwk⟩
    · rfl
    · simp only [Except.map, SoftkeyPlugin.toKeyring]
      cases p.lifecycle.lookup request.contextId <;> rfl
  | destroyLifecycle request now =>
    simp only [SoftkeyPlugin.apply, SoftkeyPlugin.destroyLifecycle, Keyring.step,
      SoftkeyPlugin.toKeyring]
    cases p.lifecycle.lookup request.contextId <;> rfl

theorem softkeyBackend_simulates (crypto : SoftkeyCrypto)
    (codec : SoftkeyPlugin.ContainerCodec) (order : HashMap.IterOrder String Softkey.StoredKey) :
    (softkeyBackend crypto codec order).Simulates := softkey_apply_eq crypto

theorem softkeyBackend_refines (crypto : SoftkeyCrypto) (codec : SoftkeyPlugin.ContainerCodec)
    (order : HashMap.IterOrder String Softkey.StoredKey) (hcodec : codec.exported.Lawful) :
    (softkeyBackend crypto codec order).Refines where
  apply_eq := softkey_apply_eq crypto
  restore_eq p blob q hkeyed hexport hfrom := by
    simp only [softkeyBackend, SoftkeyPlugin.exportContainer, SoftkeyPlugin.fromContainer]
      at hexport hfrom
    cases hvec : codec.exported.toVec ⟨order.values p.keys, p.lifecycle⟩ with
    | error e => simp [hvec] at hexport
    | ok bytes =>
      simp only [hvec] at hexport
      cases hexport
      simp only [hcodec _ _ hvec] at hfrom
      cases hfrom
      have hkeys : HashMap.ofListLast Softkey.StoredKey.kid (order.values p.keys) = p.keys :=
        HashMap.ofListLast_of_mem_iff (order.mem_values p.keys) hkeyed
      simp only [softkeyBackend, SoftkeyPlugin.toKeyring, hkeys]

/-! ## The fido2 plugin -/

namespace Fido2SignPlugin

open Fido2

variable (crypto : Fido2Crypto)

def toKeyring (self : Fido2SignPlugin) : Keyring StoredFidoKey := ⟨self.keys, self.lifecycle⟩

def apply (op : LifecycleOp Fido2.Draw) (self : Fido2SignPlugin) :
    Except WscdError Unit × Fido2SignPlugin :=
  match op with
  | .generateKey algorithm d => withoutValue (self.generateKey crypto algorithm d)
  | .deleteKey kid => withoutValue (self.deleteKey kid)
  | .registerLifecycle request d now => withoutValue (self.registerLifecycle crypto request d now)
  | .activateLifecycle request now => withoutValue (self.activateLifecycle request now)
  | .rotateLifecycle request d now => withoutValue (self.rotateLifecycle crypto request d now)
  | .destroyLifecycle request now => withoutValue (self.destroyLifecycle request now)

/-- The record an operation's key generation comes to. A registration with another factor is
refused before it generates. -/
def generated (op : LifecycleOp Fido2.Draw) : Except WscdError StoredFidoKey :=
  match op with
  | .generateKey algorithm d => (draw crypto algorithm d).map Prod.fst
  | .registerLifecycle request d _ =>
    if request.factorKind ≠ .rawSign then
      .error (.unsupported id s!"register_lifecycle({request.factorKind.debug})")
    else (draw crypto .es256 d).map Prod.fst
  | .rotateLifecycle _ d _ => (draw crypto .es256 d).map Prod.fst
  | _ => .error (.unsupported id "generate_key")

def rules : KeyringRules := ⟨fun _ => .registered, true⟩

theorem mem_sortedKeys (order : HashMap.IterOrder String StoredFidoKey) (p : Fido2SignPlugin)
    (key : StoredFidoKey) : key ∈ p.sortedKeys order ↔ ∃ k, p.keys.lookup k = some key := by
  rw [sortedKeys, List.mem_mergeSort, order.mem_values]

end Fido2SignPlugin

def fido2Backend (crypto : Fido2Crypto) (codec : Codec Fido2.ExportedPluginState)
    (order : HashMap.IterOrder String Fido2.StoredFidoKey) :
    LifecycleBackend Fido2SignPlugin Fido2.StoredFidoKey Fido2.Draw where
  rules := Fido2SignPlugin.rules
  kidOf := Fido2.StoredFidoKey.kid
  keyring := Fido2SignPlugin.toKeyring
  generated := Fido2SignPlugin.generated crypto
  apply := Fido2SignPlugin.apply crypto
  exportState := Fido2SignPlugin.exportState codec order
  fromState := Fido2SignPlugin.fromState codec

theorem fido2_apply_eq (crypto : Fido2Crypto) (op : LifecycleOp Fido2.Draw)
    (p : Fido2SignPlugin) :
    ((p.apply crypto op).1, (p.apply crypto op).2.toKeyring) =
      p.toKeyring.step Fido2SignPlugin.rules Fido2.StoredFidoKey.kid
        (Fido2SignPlugin.generated crypto op) op := by
  cases op with
  | generateKey algorithm d =>
    simp only [Fido2SignPlugin.apply, Fido2SignPlugin.generateKey, Fido2SignPlugin.generated,
      Keyring.step]
    rcases Fido2SignPlugin.draw crypto algorithm d with e | ⟨v, jwk⟩ <;> rfl
  | deleteKey kid =>
    simp only [Fido2SignPlugin.apply, Fido2SignPlugin.deleteKey, Keyring.step,
      Fido2SignPlugin.toKeyring]
    cases p.keys.lookup kid.asStr <;> rfl
  | registerLifecycle request d now =>
    simp only [Fido2SignPlugin.apply, Fido2SignPlugin.registerLifecycle,
      Fido2SignPlugin.generateKey, Fido2SignPlugin.generated, Keyring.step,
      registerLifecycleContext]
    split
    · rfl
    · rcases Fido2SignPlugin.draw crypto .es256 d with e | ⟨v, jwk⟩
      · rfl
      · simp only [Except.map, Keyring.listed, Fido2SignPlugin.toKeyring]
        cases p.lifecycle.lookup request.contextId <;> rfl
  | activateLifecycle request now =>
    simp only [Fido2SignPlugin.apply, Fido2SignPlugin.activateLifecycle, activateLifecycleContext,
      Keyring.step, Fido2SignPlugin.toKeyring]
    cases p.lifecycle.lookup request.contextId <;> rfl
  | rotateLifecycle request d now =>
    simp only [Fido2SignPlugin.apply, Fido2SignPlugin.rotateLifecycle,
      Fido2SignPlugin.generateKey, Fido2SignPlugin.generated, Keyring.step,
      rotateLifecyclePushKey]
    rcases Fido2SignPlugin.draw crypto .es256 d with e | ⟨v, jwk⟩
    · rfl
    · simp only [Except.map, Fido2SignPlugin.toKeyring]
      cases p.lifecycle.lookup request.contextId <;> rfl
  | destroyLifecycle request now =>
    simp only [Fido2SignPlugin.apply, Fido2SignPlugin.destroyLifecycle, Keyring.step,
      Fido2SignPlugin.toKeyring]
    cases p.lifecycle.lookup request.contextId <;> rfl

theorem fido2Backend_simulates (crypto : Fido2Crypto) (codec : Codec Fido2.ExportedPluginState)
    (order : HashMap.IterOrder String Fido2.StoredFidoKey) :
    (fido2Backend crypto codec order).Simulates := fido2_apply_eq crypto

theorem fido2Backend_refines (crypto : Fido2Crypto) (codec : Codec Fido2.ExportedPluginState)
    (order : HashMap.IterOrder String Fido2.StoredFidoKey) (hcodec : codec.Lawful) :
    (fido2Backend crypto codec order).Refines where
  apply_eq := fido2_apply_eq crypto
  restore_eq p blob q hkeyed hexport hfrom := by
    simp only [fido2Backend, Fido2SignPlugin.exportState, Fido2SignPlugin.fromState]
      at hexport hfrom
    cases hvec : codec.toVec ⟨p.sortedKeys order, p.lifecycle⟩ with
    | error e => simp [hvec] at hexport
    | ok bytes =>
      simp only [hvec] at hexport
      cases hexport
      simp only [hcodec _ _ hvec] at hfrom
      -- the width check may refuse the blob, but it changes nothing
      split at hfrom
      · cases hfrom
      · cases hfrom
        have hkeys : HashMap.ofListFirst Fido2.StoredFidoKey.kid (p.sortedKeys order) = p.keys :=
          HashMap.ofListFirst_of_mem_iff (Fido2SignPlugin.mem_sortedKeys order p) hkeyed
        simp only [fido2Backend, Fido2SignPlugin.toKeyring, hkeys]

/-! ## Concrete plugins -/

/-- A codec that knows one value and its encoding. -/
def onlyCodec {α : Type} [DecidableEq α] (value : α) (blob : List UInt8) : Codec α where
  toVec x := if x = value then .ok blob else .error "unknown value"
  fromSlice bytes := if bytes = blob then .ok value else .error "expected value"

theorem onlyCodec_lawful {α : Type} [DecidableEq α] (value : α) (blob : List UInt8) :
    (onlyCodec value blob).Lawful := by
  intro x bytes h
  simp only [onlyCodec] at h ⊢
  split at h
  · cases h
    rw [if_pos rfl, ‹x = value›]
  · cases h

theorem onlyCodec_toVec {α : Type} [DecidableEq α] (value : α) (blob : List UInt8) :
    (onlyCodec value blob).toVec value = .ok blob := if_pos rfl

/-- The export of a plugin without keys and contexts. -/
def emptyBlob : List UInt8 :=
  "\x7b\"keys\":[],\"lifecycle\":\x7b\x7d\x7d".toUTF8.data.toList

def emptyContainerCodec : SoftkeyPlugin.ContainerCodec :=
  ⟨onlyCodec ⟨[], ∅⟩ emptyBlob, onlyCodec [] []⟩

/-- The softkey plugin whose random numbers are always the secret `1`. -/
def softkeyOne : LifecycleBackend SoftkeyPlugin Softkey.StoredKey Draw :=
  softkeyBackend SoftkeyHost.secretOneHost.crypto emptyContainerCodec .sorted

theorem softkeyOne_refines : softkeyOne.Refines :=
  softkeyBackend_refines _ _ _ (onlyCodec_lawful _ _)

def drawOne : Draw := ⟨SoftkeyHost.secretOne, 0⟩

def recordOne : Softkey.StoredKey :=
  ⟨SoftkeyHost.kidOne.asStr, "ES256", base64url SoftkeyHost.secretOne, 0⟩

theorem draw_drawOne :
    (SoftkeyPlugin.draw SoftkeyHost.secretOneHost.crypto .es256 drawOne).map Prod.fst =
      .ok recordOne := by
  rw [drawOne, SoftkeyHost.draw_secretOne]
  rfl

/-! ### An authenticator with two keys -/

namespace TwoKeys

open SoftkeyHost

/-- A plain EC2 COSE key, encoded. -/
def coseKey (point : List UInt8 × List UInt8) : List UInt8 :=
  [0xa5, 0x01, 0x02, 0x03, 0x26, 0x20, 0x01, 0x21, 0x58, 0x20] ++ point.1 ++
    [0x22, 0x58, 0x20] ++ point.2

def coseValue (point : List UInt8 × List UInt8) : Cbor :=
  .map [(.integer 1, .integer 2), (.integer 3, .integer (-7)), (.integer (-1), .integer 1),
    (.integer (-2), .bytes point.1), (.integer (-3), .bytes point.2)]

/-- The third-party code, with CBOR given where the two keys need it. -/
def crypto : Fido2Crypto where
  sha256 := Lib.sha256
  encode := base64url
  cbor :=
    { fromReader := fun bytes =>
        if bytes = coseKey basePoint then .ok (coseValue basePoint, [])
        else if bytes = coseKey doublePoint then .ok (coseValue doublePoint, [])
        else .error "failed to fill whole buffer"
      intoWriter := fun _ => [] }
  kdf := sha256Kdf
  p256 :=
    { generator := some ⟨basePoint.1, basePoint.2⟩
      add := fun p _ => p
      mul := fun p _ => p
      fromSec1Bytes := fun _ => .error "crypto error"
      mul_generator_isSome := fun _ _ => rfl }

/-- A ceremony that ends with the key of the given point. -/
def drawOf (point : List UInt8 × List UInt8) : Fido2.Draw where
  ceremony := .ok ⟨[1], ⟨[2], coseKey point, -65539, []⟩⟩
  clientDataHash := [3]
  ikm := [4]
  now := 0

def recordOf (point : List UInt8 × List UInt8) (kid : KeyId) : Fido2.StoredFidoKey :=
  ⟨kid.asStr, [1], [2], point.1, point.2, -65539, [], false, [3], none, 0⟩

/-- The fido2 plugin on this authenticator. -/
def fido2Two : LifecycleBackend Fido2SignPlugin Fido2.StoredFidoKey Fido2.Draw :=
  fido2Backend crypto (onlyCodec ⟨[], ∅⟩ emptyBlob) .sorted

theorem fido2Two_refines : fido2Two.Refines :=
  fido2Backend_refines _ _ _ (onlyCodec_lawful _ _)

/-- A ceremony that ends with a key makes the record of its point. -/
theorem draw_of_coordinates {point : List UInt8 × List UInt8} {kid : KeyId}
    (hcoordinates : Fido2SignPlugin.p256Coordinates crypto (coseKey point) [4] =
      .ok (point.1, point.2, none))
    (hwidth : point.1.length = 32)
    (hkid : jwkThumbprint ⟨Lib.sha256, base64url⟩ (pointJwk point) = .ok kid.asStr) :
    (Fido2SignPlugin.draw crypto .es256 (drawOf point)).map Prod.fst =
      .ok (recordOf point kid) := by
  have hjwk (key : Fido2.StoredFidoKey) (hx : key.pubX = point.1) (hy : key.pubY = point.2) :
      Fido2SignPlugin.buildPublicKeyJwk crypto key = pointJwk point := by
    have halgorithm : Fido2SignPlugin.keyAlgorithm key = .es256 :=
      if_neg (by rw [hx, hwidth]; decide)
    rw [Fido2SignPlugin.buildPublicKeyJwk, halgorithm, hx, hy]
    rfl
  unfold Fido2SignPlugin.draw drawOf
  dsimp only
  rw [hcoordinates]
  dsimp only [Fido2SignPlugin.generatedRecord]
  rw [hjwk _ rfl rfl, show jwkThumbprint crypto.toDigest (pointJwk point) = _ from hkid]
  rfl

theorem draw_basePoint : (Fido2SignPlugin.draw crypto .es256 (drawOf basePoint)).map Prod.fst =
    .ok (recordOf basePoint kidOne) :=
  draw_of_coordinates (by rfl) (by rfl) thumbprint_basePoint

theorem draw_doublePoint : (Fido2SignPlugin.draw crypto .es256 (drawOf doublePoint)).map Prod.fst =
    .ok (recordOf doublePoint kidTwo) :=
  draw_of_coordinates (by rfl) (by rfl) thumbprint_doublePoint

end TwoKeys

/-! ### Requests on one context -/

namespace LifecycleDemo

def registerCtx : RegisterLifecycleRequest := ⟨"", "ctx", .rawSign⟩

def activateCtx : ActivateLifecycleRequest := ⟨"", "ctx"⟩

def rotateCtx : RotateLifecycleRequest := ⟨"", "ctx"⟩

def destroyCtx : DestroyLifecycleRequest := ⟨"", "ctx", .localOnly, none⟩

end LifecycleDemo

/-! ## Sessions -/

/-- A plugin with the exports taken of it, the kids generated in it so far and, of those,
the ones an operation on a context generated. -/
structure Session (P : Type) where
  plugin : P
  exports : List (List UInt8)
  made : List KeyId
  owned : List KeyId

/-- An operation, an export, or a restore of one of the exports. -/
inductive SessionOp (D : Type) where
  | call (op : LifecycleOp D)
  | exportState
  | restore (n : Nat)

variable {P V D : Type}

namespace SessionOp

/-- The kids an operation generates. -/
def newKids (B : LifecycleBackend P V D) : SessionOp D → List KeyId
  | .call op => Keyring.newKids B.kidOf (B.generated op)
  | _ => []

/-- The kids an operation on a context generates. -/
def newOwned (B : LifecycleBackend P V D) : SessionOp D → List KeyId
  | .call op => Keyring.newOwned B.kidOf op (B.generated op)
  | _ => []

theorem newOwned_subset (B : LifecycleBackend P V D) (op : SessionOp D) :
    op.newOwned B ⊆ op.newKids B := by
  cases op with
  | call op => exact Keyring.newOwned_subset B.kidOf op (B.generated op)
  | exportState => exact List.Subset.refl _
  | restore n => exact List.Subset.refl _

end SessionOp

namespace Session

def start (plugin : P) : Session P := ⟨plugin, [], [], []⟩

def pluginAfter (B : LifecycleBackend P V D) (s : Session P) : SessionOp D → P
  | .call op => (B.apply op s.plugin).2
  | .exportState => s.plugin
  | .restore n =>
    match (s.exports[n]?).map B.fromState with
    | some (.ok plugin) => plugin
    | _ => s.plugin

def exportsAfter (B : LifecycleBackend P V D) (s : Session P) : SessionOp D → List (List UInt8)
  | .exportState =>
    match B.exportState s.plugin with
    | .ok blob => s.exports ++ [blob]
    | .error _ => s.exports
  | _ => s.exports

def step (B : LifecycleBackend P V D) (s : Session P) (op : SessionOp D) : Session P where
  plugin := s.pluginAfter B op
  exports := s.exportsAfter B op
  made := s.made ++ op.newKids B
  owned := s.owned ++ op.newOwned B

/-- What the operation generates has a new kid. -/
def Fresh (B : LifecycleBackend P V D) (s : Session P) (op : SessionOp D) : Prop :=
  Keyring.Fresh s.made (op.newKids B)

/-- A rotation that generates a key names a context that exists. -/
def KnownContext (B : LifecycleBackend P V D) (s : Session P) : SessionOp D → Prop
  | .call op => (B.keyring s.plugin).KnownContext op (B.generated op)
  | _ => True

/-- The keyrings of a session: the plugin's own and the ones its exports restore. -/
def Restorable (B : LifecycleBackend P V D) (s : Session P) (r : Keyring V) : Prop :=
  r = B.keyring s.plugin ∨ ∃ blob ∈ s.exports, ∃ q, B.fromState blob = .ok q ∧ r = B.keyring q

/-- The books are in order, in the plugin and in every export. -/
def Books (B : LifecycleBackend P V D) (s : Session P) : Prop :=
  ∀ r, s.Restorable B r → Keyring.Ordered B.kidOf s.made s.owned r

/-- No lifecycle key is an orphan, in the plugin and in every export. -/
def NoOrphans (B : LifecycleBackend P V D) (s : Session P) : Prop :=
  ∀ r, s.Restorable B r → Keyring.NoOrphan s.owned r

variable {B : LifecycleBackend P V D} {s : Session P}

theorem Books.plugin (h : s.Books B) :
    Keyring.Ordered B.kidOf s.made s.owned (B.keyring s.plugin) :=
  h _ (.inl rfl)

/-- A step adds at most one keyring, the one a call leaves. -/
theorem restorable_step (hB : B.Refines)
    (hkeyed : ∀ k v, (B.keyring s.plugin).keys.lookup k = some v → B.kidOf v = k)
    {op : SessionOp D} {r : Keyring V} (hr : (s.step B op).Restorable B r) :
    s.Restorable B r ∨ ∃ op', op = .call op' ∧ r = B.keyring (B.apply op' s.plugin).2 := by
  cases op with
  | call op' =>
    rcases hr with hr | hr
    · exact .inr ⟨op', rfl, hr⟩
    · exact .inl (.inr hr)
  | exportState =>
    left
    rcases hr with hr | ⟨blob, hblob, q, hq, rfl⟩
    · exact .inl hr
    · simp only [step, exportsAfter] at hblob
      cases hexport : B.exportState s.plugin with
      | error e =>
        rw [hexport] at hblob
        exact .inr ⟨blob, hblob, q, hq, rfl⟩
      | ok new =>
        rw [hexport] at hblob
        rcases List.mem_append.mp hblob with hblob | hblob
        · exact .inr ⟨blob, hblob, q, hq, rfl⟩
        · -- the new export restores the plugin's own keyring
          rw [List.mem_singleton.mp hblob] at hq
          exact .inl (hB.restore_eq _ _ _ hkeyed hexport hq)
  | restore n =>
    left
    rcases hr with rfl | hr
    · simp only [step, pluginAfter]
      cases hn : s.exports[n]? with
      | none => exact .inl rfl
      | some blob =>
        dsimp only [Option.map]
        cases hq : B.fromState blob with
        | error e => exact .inl rfl
        | ok q => exact .inr ⟨blob, List.mem_of_getElem? hn, q, hq, rfl⟩
    · exact .inr hr

theorem Books.step (hB : B.Refines) (h : s.Books B) (op : SessionOp D) (hfresh : s.Fresh B op) :
    (s.step B op).Books B := by
  intro r hr
  rcases restorable_step hB h.plugin.keyed hr with hr | ⟨op', rfl, rfl⟩
  · exact (h r hr).grow (op.newOwned_subset B)
  · exact h.plugin.of_moves hfresh (LifecycleBackend.moves_apply hB.apply_eq op' s.plugin)

theorem NoOrphans.step (hB : B.Refines) (hbooks : s.Books B) (h : s.NoOrphans B)
    (op : SessionOp D) (hfresh : s.Fresh B op) (hknown : s.KnownContext B op) :
    (s.step B op).NoOrphans B := by
  intro r hr
  rcases restorable_step hB hbooks.plugin.keyed hr with hold | ⟨op', rfl, rfl⟩
  · exact (h r hold).grow (hbooks r hold) hfresh (op.newOwned_subset B)
  · have hmove := LifecycleBackend.moves_apply hB.apply_eq op' s.plugin
    exact (h _ (.inl rfl)).of_moves hbooks.plugin hfresh hknown hmove

/-- The books are in order at the start, if the plugin has neither keys nor contexts. -/
theorem books_start {p : P} (hp : B.keyring p = ⟨∅, ∅⟩) : (start p).Books B := by
  rintro r (rfl | ⟨blob, hblob, -⟩)
  · show Keyring.Ordered B.kidOf [] [] (B.keyring p)
    rw [hp]
    exact
      { keyed := fun k v hk => by simp at hk
        stored_made := fun kid hk => absurd (Finmap.lookup_empty _) hk
        owned_made := fun kid hk => hk
        listed_owned := fun c kid hk => by simp [Keyring.listed] at hk
        disjoint := fun c c' kid hk => by simp [Keyring.listed] at hk }
  · exact absurd hblob List.not_mem_nil

theorem noOrphans_start (B : LifecycleBackend P V D) (p : P) : (start p).NoOrphans B :=
  fun _ _ _ hkid => absurd hkid List.not_mem_nil

end Session

end Wscd
