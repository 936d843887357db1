import Wscd.Types

/-!
# Lifecycle contexts

The bookkeeping the softkey and the fido2 plugin share: which keys back a registered
context, what factor it registered with and when it last changed. None of the helpers
looks at the state a context is in before it moves it.
-/

namespace Wscd

open Lib

structure LifecycleContext where
  factorKind : FactorKind
  state : LifecycleState
  updatedAt : Int
  keyIds : List KeyId
  deriving DecidableEq, Repr

/-- The contexts of a plugin, by context id. -/
abbrev LifecycleMap : Type := HashMap String LifecycleContext

/-- Shared body of `lifecycle_status`. -/
def lifecycleStatusFields (pluginId contextId : String)
    (found : Option (FactorKind × LifecycleState × Int)) : Except WscdError LifecycleStatus :=
  match found with
  | some (factorKind, state, updatedAt) =>
    .ok ⟨contextId, pluginId, factorKind, state, updatedAt⟩
  | none => .error (.keyNotFound contextId)

/-- Shared body of `activate_lifecycle`: straight to `Active`, whatever the state was. -/
def activateLifecycleContext (lifecycle : LifecycleMap) (contextId : String) (now : Int) :
    Except WscdError LifecycleMap :=
  match lifecycle.lookup contextId with
  | some ctx => .ok (lifecycle.insert contextId { ctx with state := .active, updatedAt := now })
  | none => .error (.keyNotFound contextId)

/-- Shared prefix of `rotate_lifecycle`: the context with the new key appended. The caller
applies its own rule for the state and stores the context back. -/
def rotateLifecyclePushKey (lifecycle : LifecycleMap) (contextId : String) (newKid : KeyId)
    (now : Int) : Except WscdError LifecycleContext :=
  match lifecycle.lookup contextId with
  | some ctx => .ok { ctx with keyIds := ctx.keyIds ++ [newKid], updatedAt := now }
  | none => .error (.keyNotFound contextId)

/-- Shared tail of `register_lifecycle`: the keys of an old context of that id are purged
from the store before the context is overwritten. -/
def registerLifecycleContext {σ : Type} (lifecycle : LifecycleMap) (contextId : String)
    (factorKind : FactorKind) (newKid : KeyId) (now : Int) (purgeStaleKeys : List KeyId → σ → σ)
    (store : σ) : RegistrationOutcome × LifecycleMap × σ :=
  let store' :=
    match lifecycle.lookup contextId with
    | some oldCtx => purgeStaleKeys oldCtx.keyIds store
    | none => store
  (⟨contextId, .registered⟩,
    lifecycle.insert contextId ⟨factorKind, .registered, now, [newKid]⟩, store')

end Wscd
