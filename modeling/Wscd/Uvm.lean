import Wscd.PreviewSign.Responses

/-!
# The `uvm` extension

How an authenticator says by which method it verified the user, read out of the signed
authenticator data, and the methods that name a factor without a guess.
-/

namespace Wscd.Uvm

open Cbor PreviewSign

def userVerifyFingerprintInternal : Nat := 0x2

def userVerifyPasscodeInternal : Nat := 0x4

def userVerifyFaceprintInternal : Nat := 0x10

def userVerifyPatternInternal : Nat := 0x80

def userVerifyPasscodeExternal : Nat := 0x800

def userVerifyPatternExternal : Nat := 0x1000

structure UvmEntry where
  userVerificationMethod : Nat
  keyProtectionType : Nat
  matcherProtectionType : Nat
  deriving DecidableEq, Repr

def parseEntry (entry : Cbor) : Option UvmEntry :=
  match entry.asArray with
  | some [method, keyProtection, matcherProtection] => do
    let method ← method.asInteger.bind toU32
    let keyProtection ← keyProtection.asInteger.bind toU16
    let matcherProtection ← matcherProtection.asInteger.bind toU16
    return ⟨method, keyProtection, matcherProtection⟩
  | _ => none

/-- The `uvm` output of an assertion; none whenever it is not there or not well formed. -/
def parseUvmExtension (cbor : CborCodec) (authData : List UInt8) : Option (List UvmEntry) :=
  if authData.length ≤ 32 then none
  else if authDataFlags authData &&& authDataFlagEd = 0 ∨
      authDataFlags authData &&& authDataFlagAt ≠ 0 then none
  else if authData.length < authDataHeaderLen then none
  else do
    let extensions ← readOption cbor (authData.drop authDataHeaderLen)
    let entriesCbor ← (getValueByText (← extensions.asMap) "uvm").bind asArray
    let entries ← entriesCbor.mapM parseEntry
    if entries.isEmpty then none else some entries

/-- The factor `uvm` names: of one entry only, and no biometric method, which may be the
device's or another's. -/
def classifyUvmForTs12 (entries : List UvmEntry) : Option AuthFactor :=
  match entries with
  | [entry] =>
    let method := entry.userVerificationMethod
    if method = userVerifyFingerprintInternal ∨ method = userVerifyFaceprintInternal then none
    else if method = userVerifyPatternInternal ∨ method = userVerifyPatternExternal then
      (AuthFactor.new .knowledge "pattern").toOption
    else if method = userVerifyPasscodeInternal ∨ method = userVerifyPasscodeExternal then
      (AuthFactor.new .knowledge "other").toOption
    else none
  | _ => none

theorem classifyUvmForTs12_verifies {entries : List UvmEntry} {f : AuthFactor}
    (h : classifyUvmForTs12 entries = some f) : Verifies f := by
  unfold classifyUvmForTs12 at h
  split at h
  · dsimp only at h
    split at h
    · cases h
    split at h
    · obtain rfl : (⟨.knowledge, "pattern"⟩ : AuthFactor) = f := Option.some.inj h
      exact ⟨by decide, by decide⟩
    split at h
    · obtain rfl : (⟨.knowledge, "other"⟩ : AuthFactor) = f := Option.some.inj h
      exact ⟨by decide, by decide⟩
    · cases h
  · cases h

end Wscd.Uvm
