import Wscd.FactorSoundness

/-!
# The `uvm` output, accepted and classified

What `parse_uvm_extension` accepts is exactly the format: a non-empty array of integer
triples, each integer in the range of its field. What a whole ceremony is credited with is the
factor that every one of its assertions names by a single such triple.

Results:
1. `parseEntry_iff`, `mapM_parseEntry_iff`: one entry, and all of them or none.
2. `parseUvmExtension_iff`, `uvm_format_is_exact`: the authenticator data the parser accepts.
3. `agreed_factor_is_unanimous`: the factor of a ceremony, whatever the order of its
   assertions.
-/

namespace Wscd.Uvm

open Cbor PreviewSign

/-! ## Entries -/

/-- The numbers of an entry are those of a `u32` and two `u16`. -/
structure UvmEntry.Fits (e : UvmEntry) : Prop where
  method : e.userVerificationMethod < 2 ^ 32
  keyProtection : e.keyProtectionType < 2 ^ 16
  matcherProtection : e.matcherProtectionType < 2 ^ 16

/-- An entry as WebAuthn writes it. -/
def encodeEntry (e : UvmEntry) : Cbor :=
  .array [.integer e.userVerificationMethod, .integer e.keyProtectionType,
    .integer e.matcherProtectionType]

/-- A number read through a range check is that number, and in the range. -/
theorem asInteger_bind_iff {read : Int → Option Nat} {bound : Nat}
    (hread : ∀ m, read m = if 0 ≤ m ∧ m < bound then some m.toNat else none) (v : Cbor) (n : Nat) :
    v.asInteger.bind read = some n ↔ v = .integer n ∧ n < bound := by
  cases v with
  | integer m =>
    show read m = some n ↔ _
    rw [hread, integer.injEq]
    split
    · rw [Option.some.injEq]
      omega
    · simp only [reduceCtorEq, false_iff]
      omega
  | _ => simp [asInteger]

theorem asInteger_toU32_iff (v : Cbor) (n : Nat) :
    v.asInteger.bind toU32 = some n ↔ v = .integer n ∧ n < 2 ^ 32 :=
  asInteger_bind_iff (fun _ => rfl) v n

theorem asInteger_toU16_iff (v : Cbor) (n : Nat) :
    v.asInteger.bind toU16 = some n ↔ v = .integer n ∧ n < 2 ^ 16 :=
  asInteger_bind_iff (fun _ => rfl) v n

theorem parseEntry_iff (v : Cbor) (e : UvmEntry) :
    parseEntry v = some e ↔ v = encodeEntry e ∧ e.Fits := by
  constructor
  · intro h
    unfold parseEntry at h
    split at h
    · rename_i method keyProtection matcherProtection harray
      obtain ⟨m, hm, h₁⟩ := Option.bind_eq_some_iff.mp h
      obtain ⟨k, hk, h₂⟩ := Option.bind_eq_some_iff.mp h₁
      obtain ⟨p, hp, h₃⟩ := Option.bind_eq_some_iff.mp h₂
      cases h₃
      obtain ⟨rfl, hmethod⟩ := (asInteger_toU32_iff method m).mp hm
      obtain ⟨rfl, hkey⟩ := (asInteger_toU16_iff keyProtection k).mp hk
      obtain ⟨rfl, hmatcher⟩ := (asInteger_toU16_iff matcherProtection p).mp hp
      exact ⟨asArray_eq_some_iff.mp harray, hmethod, hkey, hmatcher⟩
    · cases h
  · rintro ⟨rfl, hfits⟩
    unfold parseEntry encodeEntry
    dsimp only [asArray]
    rw [(asInteger_toU32_iff _ _).mpr ⟨rfl, hfits.method⟩,
      (asInteger_toU16_iff _ _).mpr ⟨rfl, hfits.keyProtection⟩,
      (asInteger_toU16_iff _ _).mpr ⟨rfl, hfits.matcherProtection⟩]
    rfl

/-- Either every value is an entry, or the whole array is refused. -/
theorem mapM_parseEntry_iff (vs : List Cbor) (es : List UvmEntry) :
    vs.mapM parseEntry = some es ↔ vs = es.map encodeEntry ∧ ∀ e ∈ es, e.Fits := by
  induction vs generalizing es with
  | nil =>
    rw [List.mapM_nil]
    constructor
    · intro h
      cases h
      exact ⟨rfl, fun e he => absurd he List.not_mem_nil⟩
    · rintro ⟨hnil, -⟩
      rw [List.map_eq_nil_iff.mp hnil.symm]
      rfl
  | cons v vs ih =>
    rw [List.mapM_cons]
    constructor
    · intro h
      obtain ⟨e, he, h₁⟩ := Option.bind_eq_some_iff.mp h
      obtain ⟨rest, hrest, h₂⟩ := Option.bind_eq_some_iff.mp h₁
      cases h₂
      obtain ⟨rfl, hfits⟩ := (parseEntry_iff v e).mp he
      obtain ⟨rfl, hall⟩ := (ih rest).mp hrest
      exact ⟨rfl, List.forall_mem_cons.mpr ⟨hfits, hall⟩⟩
    · rintro ⟨hcons, hall⟩
      cases es with
      | nil => cases hcons
      | cons e rest =>
        obtain ⟨rfl, rfl⟩ := List.cons.inj hcons
        obtain ⟨hfits, hrest⟩ := List.forall_mem_cons.mp hall
        rw [(parseEntry_iff _ e).mpr ⟨rfl, hfits⟩, (ih rest).mpr ⟨rfl, hrest⟩]
        rfl

/-! ## Authenticator data -/

/-- The authenticator data of an assertion says that extensions follow its header. -/
structure ExtensionsFollow (authData : List UInt8) : Prop where
  header : 37 ≤ authData.length
  extensions : authDataFlags authData &&& authDataFlagEd ≠ 0
  noCredential : authDataFlags authData &&& authDataFlagAt = 0

/-- The first `uvm` value of the extensions is the array of the entries `es`. -/
def CarriesUvm (cbor : CborCodec) (authData : List UInt8) (es : List UvmEntry) : Prop :=
  ∃ entries, cbor.read (authData.drop 37) = .ok (.map entries) ∧
    getValueByText entries "uvm" = some (.array (es.map encodeEntry))

theorem extensionsFollow_iff (authData : List UInt8) :
    ExtensionsFollow authData ↔ 37 ≤ authData.length ∧
      ∃ flags, authData[32]? = some flags ∧ flags &&& 0x80 ≠ 0 ∧ flags &&& 0x40 = 0 := by
  have hflags {flags : UInt8} (h : authData[32]? = some flags) :
      authDataFlags authData = flags := by
    rw [authDataFlags, List.getD_eq_getElem?_getD, h]
    rfl
  constructor
  · rintro ⟨hlength, hed, hat⟩
    obtain ⟨flags, hoctet, hset⟩ := (authDataFlags_and_ne_zero_iff authData _).mp hed
    rw [hflags hoctet] at hat
    exact ⟨hlength, flags, hoctet, hset, hat⟩
  · rintro ⟨hlength, flags, hoctet, hset, hclear⟩
    rw [← hflags hoctet] at hset hclear
    exact ⟨hlength, hset, hclear⟩

theorem carriesUvm_iff (cbor : CborCodec) (authData : List UInt8) (es : List UvmEntry) :
    CarriesUvm cbor authData es ↔ ∃ entries, cbor.read (authData.drop 37) = .ok (.map entries) ∧
      FirstUnder (.text "uvm") (.array (es.map encodeEntry)) entries := by
  simp only [CarriesUvm, getValueByText_eq_some_iff]

theorem parseUvmExtension_iff (cbor : CborCodec) (authData : List UInt8) (es : List UvmEntry) :
    parseUvmExtension cbor authData = some es ↔
      es ≠ [] ∧ (∀ e ∈ es, e.Fits) ∧ ExtensionsFollow authData ∧ CarriesUvm cbor authData es := by
  constructor
  · intro h
    unfold parseUvmExtension at h
    split at h
    · cases h
    split at h
    · cases h
    rename_i hflags
    split at h
    · cases h
    rename_i hlength
    obtain ⟨extensions, hread, h₁⟩ := Option.bind_eq_some_iff.mp h
    obtain ⟨entries, hmap, h₂⟩ := Option.bind_eq_some_iff.mp h₁
    obtain ⟨vs, huvm, h₃⟩ := Option.bind_eq_some_iff.mp h₂
    obtain ⟨parsed, hparsed, h₄⟩ := Option.bind_eq_some_iff.mp h₃
    obtain ⟨rfl, hfits⟩ := (mapM_parseEntry_iff vs parsed).mp hparsed
    split at h₄
    · cases h₄
    rename_i hnonempty
    cases h₄
    rw [not_or, not_not] at hflags
    refine ⟨by simpa using hnonempty, hfits, ⟨not_lt.mp hlength, hflags.1, hflags.2⟩, entries, ?_,
      ?_⟩
    · rw [← asMap_eq_some_iff.mp hmap]
      exact (readOption_eq_some_iff cbor).mp hread
    · obtain ⟨v, hv, harray⟩ := Option.bind_eq_some_iff.mp huvm
      rw [hv, asArray_eq_some_iff.mp harray]
  · -- no step of the parser fails on what carries fitting entries
    rintro ⟨hne, hfits, ⟨hlength, hed, hat⟩, entries, hread, huvm⟩
    unfold parseUvmExtension
    rw [if_neg (by omega), if_neg (by simp [hed, hat]), if_neg (by unfold authDataHeaderLen; omega)]
    have hextensions : readOption cbor (authData.drop authDataHeaderLen) = some (.map entries) :=
      (readOption_eq_some_iff cbor).mpr hread
    rw [hextensions]
    show ((getValueByText entries "uvm").bind asArray).bind _ = _
    rw [huvm]
    show ((es.map encodeEntry).mapM parseEntry).bind _ = _
    rw [(mapM_parseEntry_iff _ es).mpr ⟨rfl, hfits⟩]
    show (if es.isEmpty then none else some es) = some es
    rw [if_neg (by simpa using hne)]

/-- Entries of the format stand among others that can be written. -/
theorem writable_extensions {before after : List (Cbor × Cbor)} {es : List UvmEntry}
    (hbefore : (Cbor.map before).Writable) (hafter : (Cbor.map after).Writable)
    (hfits : ∀ e ∈ es, e.Fits) :
    (Cbor.map (before ++ (.text "uvm", .array (es.map encodeEntry)) :: after)).Writable := by
  refine List.forall_mem_append.mpr ⟨hbefore, List.forall_mem_cons.mpr ⟨⟨?_, ?_⟩, hafter⟩⟩
  · exact fitsWithin_text 255 "uvm"
  · intro v hv
    obtain ⟨e, he, rfl⟩ := List.mem_map.mp hv
    obtain ⟨hmethod, hkey, hmatcher⟩ := hfits e he
    simp only [encodeEntry, fitsWithin_array, List.forall_mem_cons, List.not_mem_nil,
      fitsWithin_integer, false_imp_iff, implies_true, and_true]
    omega

theorem getValueByText_append_cons {before after : List (Cbor × Cbor)} {key : String} {v : Cbor}
    (hbefore : ∀ e ∈ before, e.1.asText ≠ some key) :
    getValueByText (before ++ (.text key, v) :: after) key = some v := by
  unfold getValueByText
  rw [List.find?_append, List.find?_eq_none.mpr fun e he => by simpa using hbefore e he]
  simp [asText]

/-- The parser accepts the `uvm` output wherever it stands among the extensions, and nothing
else: what it returns is all that the first `uvm` value holds. Where both are is said last, octet
by octet. -/
theorem uvm_format_is_exact (cbor : CborCodec) (hcbor : cbor.Lawful) :
    (∀ (es : List UvmEntry) (header rest : List UInt8) (before after : List (Cbor × Cbor)),
      es ≠ [] → (∀ e ∈ es, e.Fits) → header.length = 37 →
      authDataFlags header &&& authDataFlagEd ≠ 0 → authDataFlags header &&& authDataFlagAt = 0 →
      (Cbor.map before).Writable → (Cbor.map after).Writable →
      (∀ e ∈ before, e.1.asText ≠ some "uvm") →
      parseUvmExtension cbor (header ++ (cbor.intoWriter
        (.map (before ++ (.text "uvm", .array (es.map encodeEntry)) :: after)) ++ rest)) =
          some es) ∧
    (∀ authData es, parseUvmExtension cbor authData = some es →
      es ≠ [] ∧ (∀ e ∈ es, e.Fits) ∧ ExtensionsFollow authData ∧ CarriesUvm cbor authData es) ∧
    (∀ authData entries vs, cbor.read (authData.drop 37) = .ok (.map entries) →
      getValueByText entries "uvm" = some (.array vs) →
      (∃ v ∈ vs, ∀ e : UvmEntry, e.Fits → v ≠ encodeEntry e) →
      parseUvmExtension cbor authData = none) ∧
    (∀ authData, ExtensionsFollow authData ↔ 37 ≤ authData.length ∧
      ∃ flags, authData[32]? = some flags ∧ flags &&& 0x80 ≠ 0 ∧ flags &&& 0x40 = 0) ∧
    ∀ authData es, CarriesUvm cbor authData es ↔
      ∃ entries, cbor.read (authData.drop 37) = .ok (.map entries) ∧
        FirstUnder (.text "uvm") (.array (es.map encodeEntry)) entries := by
  refine ⟨fun es header rest before after hne hfits hlength hed hat hwritten hwritten' hbefore =>
      ?_,
    fun authData es => (parseUvmExtension_iff cbor authData es).mp,
    fun authData entries vs hread huvm hbad => ?_, extensionsFollow_iff, carriesUvm_iff cbor⟩
  · have hflags (tail : List UInt8) : authDataFlags (header ++ tail) = authDataFlags header := by
      unfold authDataFlags
      rw [List.getD_eq_getElem?_getD, List.getElem?_append_left (by omega),
        List.getD_eq_getElem?_getD]
    refine (parseUvmExtension_iff cbor _ es).mpr ⟨hne, hfits, ⟨?_, ?_, ?_⟩,
      before ++ (.text "uvm", .array (es.map encodeEntry)) :: after, ?_, ?_⟩
    · rw [List.length_append]
      omega
    · rwa [hflags]
    · rwa [hflags]
    · rw [List.drop_left' hlength]
      exact hcbor.read_append (writable_extensions hwritten hwritten' hfits) rest
    · exact getValueByText_append_cons hbefore
  · refine Option.eq_none_iff_forall_ne_some.mpr fun es hes => ?_
    obtain ⟨-, hfits, -, entries', hread', huvm'⟩ := (parseUvmExtension_iff cbor authData es).mp hes
    cases hread.symm.trans hread'
    cases huvm.symm.trans huvm'
    obtain ⟨v, hv, hnone⟩ := hbad
    obtain ⟨e, he, rfl⟩ := List.mem_map.mp hv
    exact hnone e (hfits e he) rfl

theorem uvm_format_is_exact_behind :
    parseUvmExtension cborWire ((List.replicate 32 0 ++ [0x85, 0, 0, 0, 1]) ++
      (cborWire.intoWriter (.map ([(.text "credProps", .null)] ++
        (.text "uvm", .array ([⟨0x4, 2, 65535⟩].map encodeEntry)) :: [])) ++ [])) =
      some [⟨0x4, 2, 65535⟩] :=
  (uvm_format_is_exact cborWire cborWire_lawful).1 [⟨0x4, 2, 65535⟩] _ [] _ [] (by simp)
    (fun e he => by
      obtain rfl := List.mem_singleton.mp he
      exact ⟨by decide, by decide, by decide⟩)
    rfl (by decide) (by decide) (by simp [Writable]) (by simp [Writable]) (fun e he => by
      obtain rfl := List.mem_singleton.mp he
      simp [asText])

/-! ## The factor of a ceremony -/

/-- The factor a verification method names: a passcode, or a pattern. -/
def methodFactor (method : Nat) : Option AuthFactor :=
  if method = userVerifyPasscodeInternal ∨ method = userVerifyPasscodeExternal then
    some ⟨.knowledge, "other"⟩
  else if method = userVerifyPatternInternal ∨ method = userVerifyPatternExternal then
    some ⟨.knowledge, "pattern"⟩
  else none

/-- No method is in two of the groups, so their order does not matter. -/
theorem classifyUvmForTs12_singleton (e : UvmEntry) :
    classifyUvmForTs12 [e] = methodFactor e.userVerificationMethod := by
  have hpattern : (AuthFactor.new .knowledge "pattern").toOption =
      some ⟨.knowledge, "pattern"⟩ := rfl
  have hother : (AuthFactor.new .knowledge "other").toOption = some ⟨.knowledge, "other"⟩ := rfl
  unfold classifyUvmForTs12 methodFactor userVerifyFingerprintInternal userVerifyFaceprintInternal
    userVerifyPasscodeInternal userVerifyPasscodeExternal userVerifyPatternInternal
    userVerifyPatternExternal
  dsimp only
  rw [hpattern, hother]
  by_cases hpass : e.userVerificationMethod = 0x4 ∨ e.userVerificationMethod = 0x800
  · rw [if_neg (by omega), if_neg (by omega), if_pos hpass, if_pos hpass]
  by_cases hdrawn : e.userVerificationMethod = 0x80 ∨ e.userVerificationMethod = 0x1000
  · rw [if_neg (by omega), if_pos hdrawn, if_neg hpass, if_pos hdrawn]
  · rw [if_neg hdrawn, if_neg hpass, if_neg hpass, if_neg hdrawn, ite_self]

theorem classifyUvmForTs12_iff (es : List UvmEntry) (f : AuthFactor) :
    classifyUvmForTs12 es = some f ↔
      ∃ e, es = [e] ∧ methodFactor e.userVerificationMethod = some f := by
  match es with
  | [] => exact iff_of_false nofun (by rintro ⟨e, h, -⟩; cases h)
  | [e] =>
    rw [classifyUvmForTs12_singleton]
    constructor
    · intro h
      exact ⟨e, rfl, h⟩
    · rintro ⟨e', h, hf⟩
      cases h
      exact hf
  | _ :: _ :: _ => exact iff_of_false nofun (by rintro ⟨e, h, -⟩; cases h)

/-- The assertion carries the user verified flag, and a `uvm` output of one entry, which names
the factor `f`. -/
def Attests (wire : R2psWire) (f : AuthFactor) (authenticatorData : String) : Prop :=
  ∃ d e, wire.decodeVec authenticatorData = .ok d ∧ 32 < d.length ∧
    authDataFlags d &&& authDataFlagUv ≠ 0 ∧ parseUvmExtension wire.cbor d = some [e] ∧
    methodFactor e.userVerificationMethod = some f

theorem attests_iff (wire : R2psWire) (f : AuthFactor) (a : String) :
    Attests wire f a ↔ authenticatorDataUvFlag wire a = true ∧
      classifyAuthenticatorDataUvm wire a = some f := by
  unfold authenticatorDataUvFlag classifyAuthenticatorDataUvm Attests
  cases hdecode : wire.decodeVec a with
  | error e => simp
  | ok d =>
    simp only [Bool.and_eq_true, decide_eq_true_eq, Option.bind_eq_some_iff,
      classifyUvmForTs12_iff, Except.ok.injEq]
    constructor
    · rintro ⟨_, e, rfl, hlength, huv, hparse, hf⟩
      exact ⟨⟨hlength, huv⟩, [e], hparse, e, rfl, hf⟩
    · rintro ⟨⟨hlength, huv⟩, _, hparse, e, rfl, hf⟩
      exact ⟨d, e, rfl, hlength, huv, hparse, hf⟩

theorem methodFactor_eq_some_iff (method : Nat) (f : AuthFactor) :
    methodFactor method = some f ↔
      (method = 0x4 ∨ method = 0x800) ∧ f = ⟨.knowledge, "other"⟩ ∨
      (method = 0x80 ∨ method = 0x1000) ∧ f = ⟨.knowledge, "pattern"⟩ := by
  unfold methodFactor userVerifyPasscodeInternal userVerifyPasscodeExternal
    userVerifyPatternInternal userVerifyPatternExternal
  split
  · rename_i hpass
    rw [Option.some.injEq, eq_comm]
    exact ⟨fun hf => .inl ⟨hpass, hf⟩, fun h => h.elim And.right fun h => by omega⟩
  · rename_i hpass
    split
    · rename_i hdrawn
      rw [Option.some.injEq, eq_comm]
      exact ⟨fun hf => .inr ⟨hdrawn, hf⟩, fun h => h.elim (absurd ·.1 hpass) And.right⟩
    · rename_i hdrawn
      exact iff_of_false nofun (by rintro (⟨h, -⟩ | ⟨h, -⟩) <;> contradiction)

/-- What attests to a factor, octet by octet. -/
theorem attests_octets_iff (wire : R2psWire) (f : AuthFactor) (a : String) :
    Attests wire f a ↔ ∃ d flags entries e, wire.decodeVec a = .ok d ∧ 37 ≤ d.length ∧
      d[32]? = some flags ∧ flags &&& 0x04 ≠ 0 ∧ flags &&& 0x80 ≠ 0 ∧ flags &&& 0x40 = 0 ∧
      wire.cbor.read (d.drop 37) = .ok (.map entries) ∧
      FirstUnder (.text "uvm") (.array [encodeEntry e]) entries ∧ e.Fits ∧
      ((e.userVerificationMethod = 0x4 ∨ e.userVerificationMethod = 0x800) ∧
          f = ⟨.knowledge, "other"⟩ ∨
        (e.userVerificationMethod = 0x80 ∨ e.userVerificationMethod = 0x1000) ∧
          f = ⟨.knowledge, "pattern"⟩) := by
  simp only [Attests, parseUvmExtension_iff, methodFactor_eq_some_iff, extensionsFollow_iff,
    carriesUvm_iff]
  constructor
  · rintro ⟨d, e, hdecode, -, huv, ⟨-, hfits, ⟨hlength, flags, hoctet, hed, hat⟩, entries, hread,
      hfirst⟩, hmethod⟩
    obtain ⟨flags', hoctet', huv⟩ := (authDataFlags_and_ne_zero_iff d _).mp huv
    cases hoctet.symm.trans hoctet'
    exact ⟨d, flags, entries, e, hdecode, hlength, hoctet, huv, hed, hat, hread, hfirst,
      hfits e (List.mem_singleton_self e), hmethod⟩
  · rintro ⟨d, flags, entries, e, hdecode, hlength, hoctet, huv, hed, hat, hread, hfirst, hfits,
      hmethod⟩
    refine ⟨d, e, hdecode, by omega, ?_, ⟨by simp, by simpa using hfits, ⟨hlength, flags, hoctet,
      hed, hat⟩, entries, hread, hfirst⟩, hmethod⟩
    exact (authDataFlags_and_ne_zero_iff d _).mpr ⟨flags, hoctet, huv⟩

/-- A ceremony is credited with a factor exactly when there is an assertion and every one
attests to that factor; the order makes no difference, and what is lost stays lost. What attests to
a factor is said last, octet by octet. -/
theorem agreed_factor_is_unanimous (wire : R2psWire) :
    (∀ as f, (recordOf wire as).agreedVerifiedFactor = some f ↔
      as ≠ [] ∧ ∀ a ∈ as, Attests wire f a) ∧
    (∀ as bs, as.Perm bs →
      (recordOf wire as).agreedVerifiedFactor = (recordOf wire bs).agreedVerifiedFactor) ∧
    (∀ as bs, as ≠ [] → (recordOf wire as).agreedVerifiedFactor = none →
      (recordOf wire (as ++ bs)).agreedVerifiedFactor = none) ∧
    ∀ f a, Attests wire f a ↔ ∃ d flags entries e, wire.decodeVec a = .ok d ∧ 37 ≤ d.length ∧
      d[32]? = some flags ∧ flags &&& 0x04 ≠ 0 ∧ flags &&& 0x80 ≠ 0 ∧ flags &&& 0x40 = 0 ∧
      wire.cbor.read (d.drop 37) = .ok (.map entries) ∧
      FirstUnder (.text "uvm") (.array [encodeEntry e]) entries ∧ e.Fits ∧
      ((e.userVerificationMethod = 0x4 ∨ e.userVerificationMethod = 0x800) ∧
          f = ⟨.knowledge, "other"⟩ ∨
        (e.userVerificationMethod = 0x80 ∨ e.userVerificationMethod = 0x1000) ∧
          f = ⟨.knowledge, "pattern"⟩) := by
  have hiff (as : List String) (f : AuthFactor) :
      (recordOf wire as).agreedVerifiedFactor = some f ↔ as ≠ [] ∧ ∀ a ∈ as, Attests wire f a := by
    rw [agreedVerifiedFactor_iff]
    simp only [AgreeOn, attests_iff]
  refine ⟨hiff, fun as bs hperm => ?_, fun as bs hne hnone => ?_, attests_octets_iff wire⟩
  · refine Option.ext fun f => ?_
    rw [hiff, hiff]
    simp only [ne_eq, hperm.mem_iff, ← List.length_eq_zero_iff, hperm.length_eq]
  · refine Option.eq_none_iff_forall_ne_some.mpr fun f hf => ?_
    obtain ⟨-, hall⟩ := (hiff (as ++ bs) f).mp hf
    have hearlier := (hiff as f).mpr ⟨hne, fun a ha => hall a (List.mem_append_left _ ha)⟩
    rw [hnone] at hearlier
    cases hearlier

end Wscd.Uvm
