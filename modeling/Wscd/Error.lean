/-!
# Errors

`WscdError` is the error type every operation of the manager and of a plugin
returns; `PinFailure` says why a PIN could not be set or used. `display` is the
text the source attaches to each variant, which the manager embeds in the errors
it builds itself.
-/

namespace Wscd

/-- Why a PIN could not be set or used. -/
inductive PinFailure where
  | tooShort (minLength : Nat)
  | tooLong
  | invalidEncoding
  | policyViolation
  | invalid
  | blocked
  | authBlocked
  | notSet
  deriving DecidableEq, Repr

namespace PinFailure

def display : PinFailure → String
  | .tooShort minLength =>
    s!"PIN is shorter than the authenticator's minimum of {minLength} characters"
  | .tooLong => "PIN is longer than 63 bytes"
  | .invalidEncoding => "PIN is not valid UTF-8"
  | .policyViolation => "PIN violates the authenticator's PIN policy"
  | .invalid => "PIN is incorrect"
  | .blocked => "PIN is blocked"
  | .authBlocked => "PIN entry is temporarily blocked; reconnect the authenticator"
  | .notSet => "the authenticator has no PIN set"

instance : ToString PinFailure := ⟨display⟩

end PinFailure

inductive WscdError where
  | noPlugin (kid : String)
  | noDefault (op : String)
  | unsupported (plugin op : String)
  | keyNotFound (kid : String)
  | authRequired
  | authCancelled
  | reEnrollmentRequired (kid : String)
  | plugin (msg : String)
  | callback (msg : String)
  | serialization (msg : String)
  | crypto (msg : String)
  | pin (failure : PinFailure)
  | strongBoxUnavailable
  /-- A `generate` failed and so did the attempt to delete what it may have left. -/
  | unconfirmedCleanup (plugin reason : String)
  deriving DecidableEq, Repr

namespace WscdError

def display : WscdError → String
  | .noPlugin kid => s!"no plugin found for key {kid}"
  | .noDefault op => s!"no default plugin configured for operation {op}"
  | .unsupported name op => s!"plugin {name} does not support operation {op}"
  | .keyNotFound kid => s!"key {kid} not found"
  | .authRequired => "authentication required"
  | .authCancelled => "authentication cancelled by user"
  | .reEnrollmentRequired _ => "key migration requires re-enrollment"
  | .plugin msg => s!"plugin error: {msg}"
  | .callback msg => s!"callback error: {msg}"
  | .serialization msg => s!"serialization error: {msg}"
  | .crypto msg => s!"crypto error: {msg}"
  | .pin failure => s!"PIN error: {failure}"
  | .strongBoxUnavailable => "StrongBox is unavailable on this device"
  | .unconfirmedCleanup name reason => s!"{name}: {reason}"

instance : ToString WscdError := ⟨display⟩

end WscdError

/-- What has a value goes on with it. -/
theorem ok_bind {ε α β : Type} (a : α) (f : α → Except ε β) : (Except.ok a >>= f) = f a := rfl

theorem exists_of_bind_ok {ε α β : Type} {x : Except ε α} {f : α → Except ε β} {b : β}
    (h : x >>= f = .ok b) : ∃ a, x = .ok a ∧ f a = .ok b := by
  cases x with
  | error e => cases h
  | ok a => exact ⟨a, rfl, h⟩

theorem exists_of_map_ok {ε α β : Type} {x : Except ε α} {f : α → β} {b : β}
    (h : x.map f = .ok b) : ∃ a, x = .ok a := by
  cases x with
  | error e => cases h
  | ok a => exact ⟨a, rfl⟩

end Wscd
