import Wscd.CryptoLaws
import Wscd.Lib.Map

/-!
# Describing an authenticator

`describe_authenticator` reads `getInfo` by itself, without the enrolment ceremony's
`parse_pin_info`: the options through a map that keeps the last boolean under a name, the
protocol list cut down to the numbers of a `u32`. The ceremony takes the first entry under a
name and the list as it is.

Results:
1. `parseGetInfo_ok`, `parsePinInfo_ok`: both read the entries of one and the same map.
2. `views_agree_iff`: both see the same PIN exactly when the first `clientPin` entry is not
   overruled by a later one.
3. `suitable_sound_iff`: a verdict for a raw transport is right exactly when no protocol list
   is left empty by the cut.
-/

namespace Wscd

open Lib Cbor PreviewSign ClientPin

/-- The extension identifier the plugin's makeCredential needs. -/
def previewSignExtension : String := "previewSign"

inductive EnrolmentSuitability where
  | suitable
  | unsuitable (reason : String)
  deriving DecidableEq, Repr

structure AuthenticatorInfo where
  versions : List String
  aaguid : { b : List UInt8 // b.length = 16 }
  clientPin : PinState
  minPinLength : Nat
  forcePinChange : Bool
  /-- The attempts left; only when a PIN is set. -/
  pinRetries : Option Nat
  pinUvAuthProtocols : List Nat
  extensions : List String
  options : HashMap String Bool
  enrolmentSuitability : EnrolmentSuitability

namespace AuthenticatorInfo

/-! ## Reading `getInfo` -/

def textList (v : Option Cbor) : List String :=
  ((v.bind asArray).map fun a => a.filterMap asText).getD []

/-- An option, if its name is a text and its value a boolean. -/
def optionEntry (e : Cbor × Cbor) : Option (String × Bool) :=
  e.1.asText.bind fun name => e.2.asBool.map fun value => (name, value)

/-- `<[u8; 16]>::try_from(bytes).ok()` -/
def aaguidOf (b : List UInt8) : Option { b : List UInt8 // b.length = 16 } :=
  if h : b.length = 16 then some ⟨b, h⟩ else none

/-- An entry of the protocol list as a `u32`. -/
def protocolNumber (v : Cbor) : Option Nat := v.asInteger.bind toU32

def pinStateOf : Option Bool → PinState
  | some true => .set
  | some false => .notSet
  | none => .unsupported

variable (crypto : CtapCrypto)

def parseGetInfo (body : List UInt8) : Except WscdError AuthenticatorInfo :=
  match crypto.cbor.read body with
  | .error e => .error (.crypto s!"invalid getInfo CBOR: {e}")
  | .ok value =>
    match value.asMap with
    | none => .error (.crypto "getInfo response is not a CBOR map")
    | some entries =>
      match ((getValueByInt entries 3).bind asBytes).bind aaguidOf with
      | none => .error (.crypto "getInfo aaguid missing or not 16 bytes")
      | some aaguid =>
        let options : HashMap String Bool :=
          (((getValueByInt entries 4).bind asMap).map fun m =>
            HashMap.collect (m.filterMap optionEntry)).getD ∅
        .ok {
          versions := textList (getValueByInt entries 1)
          aaguid := aaguid
          clientPin := pinStateOf (options.lookup "clientPin")
          minPinLength :=
            (((getValueByInt entries 0x0d).bind asInteger).bind toU32).getD defaultMinPinLength
          forcePinChange := ((getValueByInt entries 0x0c).bind asBool).getD false
          pinRetries := none
          pinUvAuthProtocols :=
            (((getValueByInt entries 6).bind asArray).map fun a =>
              a.filterMap protocolNumber).getD []
          extensions := textList (getValueByInt entries 2)
          options := options
          enrolmentSuitability := .suitable }

/-- `PinUvAuthProtocol::from_int` -/
def fromInt (n : Nat) : Option PinUvAuthProtocol :=
  match n with
  | 1 => some .one
  | 2 => some .two
  | _ => none

/-- What the plugin's ceremony needs, judged from `getInfo` alone. -/
def suitability (info : AuthenticatorInfo) (performsUv : Bool) : EnrolmentSuitability :=
  if previewSignExtension ∉ info.extensions then
    .unsuitable "the authenticator does not advertise the previewSign extension"
  else if performsUv then .suitable
  else if info.clientPin = .unsupported then
    .unsuitable ("the authenticator has no PIN support (clientPin option absent), but " ++
      "enrolment needs PIN user verification")
  else if info.forcePinChange then
    .unsuitable "the authenticator requires its PIN to be changed before it can be used"
  else if info.pinRetries = some 0 then
    .unsuitable ("the authenticator's PIN is blocked (no attempts left), so the PIN token " ++
      "exchange enrolment needs cannot succeed")
  else if info.pinUvAuthProtocols ≠ [] ∧
      ¬ info.pinUvAuthProtocols.any fun p => (fromInt p).isSome then
    .unsuitable "the authenticator supports no PinUvAuthProtocol this library implements (1 or 2)"
  else .suitable

/-! ## Asking the authenticator -/

def subcmdGetPinRetries : Int := 0x01

def pinRetriesCommand (protocol : PinUvAuthProtocol) : List UInt8 :=
  encodeCommand crypto.cbor ctap2ClientPin (.map (subcommandParams protocol subcmdGetPinRetries))

/-- The attempts in the answer to a `getPinRetries`. -/
def parsePinRetries (response : List UInt8) : Except WscdError Nat :=
  match splitClientPinStatus response with
  | .error e => .error e
  | .ok body =>
    match crypto.cbor.read body with
    | .error e => .error (.crypto s!"invalid getPinRetries CBOR: {e}")
    | .ok value =>
      match ((value.asMap.bind fun m => getValueByInt m 3).bind asInteger).bind toU32 with
      | some retries => .ok retries
      | none => .error (.crypto "getPinRetries response missing pinRetries (key 3)")

/-- The protocol the attempts are asked under. -/
def retriesProtocol (info : AuthenticatorInfo) : PinUvAuthProtocol :=
  (info.pinUvAuthProtocols.findSome? fromInt).getD .one

variable {W : Type} (transport : Ctap2Transport W)

def getPinRetries (protocol : PinUvAuthProtocol) : HostM W Nat := do
  let response ← HostM.sendCommand transport (pinRetriesCommand crypto protocol)
  Traced.lift (parsePinRetries crypto response)

/-- The attempts left are asked for only when a PIN is set. -/
def withPinRetries (info : AuthenticatorInfo) : HostM W AuthenticatorInfo :=
  if info.clientPin = .set then do
    let retries ← getPinRetries crypto transport (retriesProtocol info)
    return { info with pinRetries := some retries }
  else pure info

def describeAuthenticator : HostM W AuthenticatorInfo := do
  let response ← HostM.sendCommand transport [ctap2GetInfo]
  let body ← Traced.lift (splitStatus response)
  let parsed ← Traced.lift (parseGetInfo crypto body)
  let info ← withPinRetries crypto transport parsed
  let performsUv ← Traced.get transport.performsUserVerification
  return { info with enrolmentSuitability := suitability info performsUv }

/-! ## What both readers read -/

/-- The values under `clientPin` in the options of a `getInfo` map, in wire order. -/
def clientPinValues (entries : List (Cbor × Cbor)) : List Cbor :=
  ((((getValueByInt entries 4).bind asMap).getD []).filter
    fun e => e.1.asText = some "clientPin").map Prod.snd

/-- The advertised `pinUvAuthProtocols`; none when the entry is absent or no array. -/
def advertisedProtocols (entries : List (Cbor × Cbor)) : List Cbor :=
  ((getValueByInt entries 6).bind asArray).getD []

variable {crypto} {transport} {body : List UInt8} {info : AuthenticatorInfo}
  {pinInfo : AuthenticatorPinInfo} {w w' : W} {l : List HostEvent}

theorem lookup_collect_optionEntry (opts : List (Cbor × Cbor)) (name : String) :
    (HashMap.collect (opts.filterMap optionEntry)).lookup name =
      (((opts.filter fun e => e.1.asText = some name).map Prod.snd).filterMap asBool).getLast? := by
  rw [HashMap.lookup_collect]
  congr 1
  induction opts with
  | nil => rfl
  | cons e opts ih =>
    rcases e with ⟨k, v⟩
    cases hk : k.asText with
    | none => simp [optionEntry, hk, ih]
    | some s =>
      by_cases hs : s = name
      · cases hv : v.asBool with
        | none => simp [optionEntry, hk, hv, hs, ih]
        | some b => simp [optionEntry, hk, hv, hs, ih]
      · cases hv : v.asBool with
        | none => simp [optionEntry, hk, hv, hs, ih]
        | some b => simp [optionEntry, hk, hv, hs, ih]

theorem fromInt_protocolNumber (v : Cbor) : (protocolNumber v).bind fromInt = protocolOf v := by
  cases v with
  | integer n =>
    by_cases h₁ : n = 1
    · subst h₁
      rfl
    by_cases h₂ : n = 2
    · subst h₂
      rfl
    have hnone : protocolOf (.integer n) = none := by simp [protocolOf, asInteger, h₁, h₂]
    rw [hnone]
    show (toU32 n).bind fromInt = none
    unfold toU32
    split
    · show fromInt n.toNat = none
      unfold fromInt
      split
      · omega
      · omega
      · rfl
    · rfl
  | _ => rfl

/-- Cutting the list down to the numbers of a `u32` loses no entry that names a protocol. -/
theorem findSome?_fromInt (vs : List Cbor) :
    (vs.filterMap protocolNumber).findSome? fromInt = vs.findSome? protocolOf := by
  induction vs with
  | nil => rfl
  | cons v vs ih =>
    have hv := fromInt_protocolNumber v
    cases hu : protocolNumber v with
    | none =>
      rw [hu] at hv
      rw [List.filterMap_cons_none hu, ih, List.findSome?_cons, ← hv]
      rfl
    | some p =>
      rw [hu] at hv
      rw [List.filterMap_cons_some hu, List.findSome?_cons, List.findSome?_cons, ih, ← hv]
      rfl

/-- What a description takes from the map `entries`. -/
structure ReadFrom (entries : List (Cbor × Cbor)) (info : AuthenticatorInfo) : Prop where
  clientPin : info.clientPin = pinStateOf ((clientPinValues entries).filterMap asBool).getLast?
  minPinLength : info.minPinLength =
    (((getValueByInt entries 0x0d).bind asInteger).bind toU32).getD defaultMinPinLength
  forcePinChange : info.forcePinChange = ((getValueByInt entries 0x0c).bind asBool).getD false
  pinUvAuthProtocols : info.pinUvAuthProtocols =
    (advertisedProtocols entries).filterMap protocolNumber
  extensions : info.extensions = textList (getValueByInt entries 2)

theorem parseGetInfo_ok (h : parseGetInfo crypto body = .ok info) :
    ∃ entries, crypto.cbor.read body = .ok (.map entries) ∧ ReadFrom entries info ∧
      info.pinRetries = none := by
  unfold parseGetInfo at h
  cases hread : crypto.cbor.read body with
  | error e =>
    rw [hread] at h
    cases h
  | ok value =>
    rw [hread] at h
    dsimp only at h
    cases hmap : value.asMap with
    | none =>
      rw [hmap] at h
      cases h
    | some entries =>
      rw [hmap] at h
      dsimp only at h
      split at h
      · cases h
      cases h
      obtain rfl := asMap_eq_some_iff.mp hmap
      refine ⟨entries, rfl, ⟨?_, rfl, rfl, ?_, rfl⟩, rfl⟩
      · unfold clientPinValues
        cases (getValueByInt entries 4).bind asMap with
        | none => rfl
        | some opts => exact congrArg pinStateOf (lookup_collect_optionEntry opts "clientPin")
      · unfold advertisedProtocols
        cases (getValueByInt entries 6).bind asArray <;> rfl

/-- The ceremony's reading, of the same lists. -/
theorem parsePinInfo_ok (h : parsePinInfo crypto body = .ok pinInfo) :
    ∃ entries, crypto.cbor.read body = .ok (.map entries) ∧
      pinInfo.protocol = ((advertisedProtocols entries).findSome? protocolOf).getD .one ∧
      pinInfo.pinState = pinStateOf ((clientPinValues entries).head?.bind asBool) ∧
      pinInfo.minPinLength =
        (((getValueByInt entries 0x0d).bind asInteger).bind toU32).getD defaultMinPinLength := by
  unfold parsePinInfo at h
  cases hread : crypto.cbor.read body with
  | error e =>
    rw [hread] at h
    cases h
  | ok value =>
    rw [hread] at h
    dsimp only at h
    cases hmap : value.asMap with
    | none =>
      rw [hmap] at h
      cases h
    | some entries =>
      rw [hmap] at h
      cases h
      obtain rfl := asMap_eq_some_iff.mp hmap
      refine ⟨entries, rfl, ?_, ?_, rfl⟩
      · unfold advertisedProtocols
        cases (getValueByInt entries 6).bind asArray <;> rfl
      · unfold clientPinValues
        rw [List.head?_map, List.head?_filter]
        cases (getValueByInt entries 4).bind asMap with
        | none => rfl
        | some opts =>
          show (match (getValueByText opts "clientPin").bind asBool with
            | some true => PinState.set
            | some false => .notSet
            | none => .unsupported) = _
          rfl

/-! ## The run of a description -/

theorem getPinRetries_ok {protocol : PinUvAuthProtocol} {n : Nat}
    (h : getPinRetries crypto transport protocol w = (.ok n, w', l)) :
    ∃ answer, l = [.sentCommand (pinRetriesCommand crypto protocol) (.ok answer)] ∧
      parsePinRetries crypto answer = .ok n := by
  unfold getPinRetries at h
  obtain ⟨answer, w₁, l₁, l₂, hsend, h₁, rfl⟩ := Traced.bind_ok_iff.mp h
  obtain ⟨-, rfl⟩ := Traced.ask_ok_iff.mp hsend
  obtain ⟨hparse, -, rfl⟩ := Traced.lift_ok_iff.mp h₁
  exact ⟨answer, rfl, hparse⟩

/-- The event asks for the attempts under `protocol`, whatever the answer. -/
def AsksRetries (crypto : CtapCrypto) (protocol : PinUvAuthProtocol) (e : HostEvent) : Prop :=
  ∃ answer, e = .sentCommand (pinRetriesCommand crypto protocol) answer

theorem logs_withPinRetries (info : AuthenticatorInfo) :
    Traced.Logs (AsksRetries crypto (retriesProtocol info))
      (withPinRetries crypto transport info) := by
  have hask : Traced.Logs (AsksRetries crypto (retriesProtocol info))
      (getPinRetries crypto transport (retriesProtocol info)) := by
    refine Traced.Logs.bind (fun w e he => ?_) fun _ => Traced.logs_of_silent fun _ => rfl
    exact ⟨_, List.mem_singleton.mp he⟩
  unfold withPinRetries
  split
  · exact hask.bind fun _ => Traced.logs_of_silent fun _ => rfl
  · exact Traced.logs_of_silent fun _ => rfl

/-- A description asks for `getInfo`, and beyond that for the attempts at most. -/
theorem describeAuthenticator_log {response : List UInt8}
    (hresponse : (transport.ctap2SendCommand [ctap2GetInfo] w).1 = .ok response)
    (hbody : splitStatus response = .ok body) (hparse : parseGetInfo crypto body = .ok info) :
    ∃ l, (describeAuthenticator crypto transport w).2.2 =
        .sentCommand [ctap2GetInfo] (.ok response) :: l ∧
      ∀ e ∈ l, AsksRetries crypto (retriesProtocol info) e := by
  rcases hrun : describeAuthenticator crypto transport w with ⟨r, w', l⟩
  unfold describeAuthenticator at hrun
  rcases Traced.bind_cases hrun with ⟨e, -, herror⟩ | ⟨answer, w₁, l₁, l₂, hsend, h₁, rfl⟩
  · obtain ⟨hanswer, -⟩ := Traced.ask_cases herror
    rw [hanswer] at hresponse
    cases hresponse
  obtain ⟨hanswer, rfl⟩ := Traced.ask_ok_iff.mp hsend
  rw [hanswer] at hresponse
  cases hresponse
  rw [hbody, Traced.lift_ok_bind, hparse, Traced.lift_ok_bind] at h₁
  refine ⟨l₂, rfl, ?_⟩
  have hl₂ : l₂ = (r, w', l₂).2.2 := rfl
  rw [hl₂, ← h₁]
  exact (logs_withPinRetries info).bind (fun _ => Traced.logs_of_silent fun _ => rfl) w₁

/-! ## The two views of one body -/

/-- The first `clientPin` entry has the last word: it is a boolean and so is the value the
last boolean entry gives, or no entry is a boolean at all. -/
def FirstPinEntryStands (vs : List Cbor) : Prop :=
  (∀ v ∈ vs, v.asBool = none) ∨
    ∃ b, vs.head? = some (.bool b) ∧ (vs.filterMap asBool).getLast? = some b

theorem firstPinEntryStands_iff (vs : List Cbor) :
    FirstPinEntryStands vs ↔ (vs.filterMap asBool).getLast? = vs.head?.bind asBool := by
  constructor
  · rintro (hnone | ⟨b, hhead, hlast⟩)
    · rw [List.filterMap_eq_nil_iff.mpr hnone]
      cases vs with
      | nil => rfl
      | cons v vs => exact (hnone v List.mem_cons_self).symm
    · rw [hlast, hhead]
      rfl
  · intro h
    cases hlast : (vs.filterMap asBool).getLast? with
    | none =>
      exact .inl (List.filterMap_eq_nil_iff.mp (List.getLast?_eq_none_iff.mp hlast))
    | some b =>
      rw [hlast] at h
      obtain ⟨v, hhead, hv⟩ := Option.bind_eq_some_iff.mp h.symm
      obtain rfl := asBool_eq_some_iff.mp hv
      exact .inr ⟨b, hhead, hlast⟩

theorem pinStateOf_injective : Function.Injective pinStateOf := by
  intro a b h
  rcases a with _ | _ | _ <;> rcases b with _ | _ | _ <;> first | rfl | cases h

/-- Both readers see the same: the PIN, its shortest length, and the protocol, also that of
whatever a description sends after its `getInfo`. -/
structure ViewsAgree (crypto : CtapCrypto) (body : List UInt8) (info : AuthenticatorInfo)
    (pinInfo : AuthenticatorPinInfo) : Prop where
  pinState : info.clientPin = pinInfo.pinState
  minPinLength : info.minPinLength = pinInfo.minPinLength
  protocol : retriesProtocol info = pinInfo.protocol
  asked : ∀ {W : Type} (transport : Ctap2Transport W) (w : W) (response : List UInt8),
    (transport.ctap2SendCommand [ctap2GetInfo] w).1 = .ok response →
    splitStatus response = .ok body →
    ∃ l, (describeAuthenticator crypto transport w).2.2 =
        .sentCommand [ctap2GetInfo] (.ok response) :: l ∧
      ∀ e ∈ l, AsksRetries crypto pinInfo.protocol e

/-- The protocol and the shortest length are the same whatever the body holds. -/
theorem retriesProtocol_eq (hinfo : parseGetInfo crypto body = .ok info)
    (hpin : parsePinInfo crypto body = .ok pinInfo) :
    retriesProtocol info = pinInfo.protocol ∧ info.minPinLength = pinInfo.minPinLength := by
  obtain ⟨entries, hread, hfrom, -⟩ := parseGetInfo_ok hinfo
  obtain ⟨entries', hread', hprotocol, -, hlength⟩ := parsePinInfo_ok hpin
  cases hread.symm.trans hread'
  constructor
  · rw [hprotocol, retriesProtocol, hfrom.pinUvAuthProtocols, findSome?_fromInt]
  · rw [hlength, hfrom.minPinLength]

/-- The two views agree exactly when the first `clientPin` entry is not overruled. -/
theorem views_agree_iff {entries : List (Cbor × Cbor)}
    (hread : crypto.cbor.read body = .ok (.map entries))
    (hinfo : parseGetInfo crypto body = .ok info) (hpin : parsePinInfo crypto body = .ok pinInfo) :
    ViewsAgree crypto body info pinInfo ↔ FirstPinEntryStands (clientPinValues entries) := by
  obtain ⟨entries₁, hread₁, hfrom, -⟩ := parseGetInfo_ok hinfo
  obtain ⟨entries₂, hread₂, -, hstate, -⟩ := parsePinInfo_ok hpin
  cases hread.symm.trans hread₁
  cases hread.symm.trans hread₂
  have hviews : info.clientPin = pinInfo.pinState ↔
      FirstPinEntryStands (clientPinValues entries) := by
    rw [hfrom.clientPin, hstate, pinStateOf_injective.eq_iff, firstPinEntryStands_iff]
  obtain ⟨hprotocol, hlength⟩ := retriesProtocol_eq hinfo hpin
  constructor
  · intro h
    exact hviews.mp h.pinState
  · intro h
    refine ⟨hviews.mpr h, hlength, hprotocol, fun transport w response hresponse hbody => ?_⟩
    obtain ⟨l, hl, hlogs⟩ := describeAuthenticator_log hresponse hbody hinfo
    rw [hprotocol] at hlogs
    exact ⟨l, hl, hlogs⟩

namespace GetInfoDemo

/-- A `getInfo` answer with the options `opts` and the protocol list `protocols`. -/
def entriesWith (opts : List (Cbor × Cbor)) (protocols : List Cbor) : List (Cbor × Cbor) :=
  [(.integer 2, .array [.text previewSignExtension]), (.integer 3, .bytes (List.replicate 16 0)),
    (.integer 4, .map opts), (.integer 6, .array protocols)]

def bodyWith (opts : List (Cbor × Cbor)) (protocols : List Cbor) : List UInt8 :=
  cborWire.intoWriter (.map (entriesWith opts protocols))

theorem read_body (opts : List (Cbor × Cbor)) (protocols : List Cbor) :
    scalarCrypto.cbor.read (bodyWith opts protocols) = .ok (.map (entriesWith opts protocols)) :=
  cborWire_read _

theorem parses (opts : List (Cbor × Cbor)) (protocols : List Cbor) :
    (∃ info, parseGetInfo scalarCrypto (bodyWith opts protocols) = .ok info) ∧
      ∃ pinInfo, parsePinInfo scalarCrypto (bodyWith opts protocols) = .ok pinInfo := by
  constructor
  · unfold parseGetInfo
    rw [read_body]
    exact ⟨_, rfl⟩
  · unfold parsePinInfo
    rw [read_body]
    exact ⟨_, rfl⟩

end GetInfoDemo

theorem views_agree_iff_repeated :
    ∃ info pinInfo,
      parseGetInfo scalarCrypto (GetInfoDemo.bodyWith [(.text "clientPin", .bool true),
        (.text "clientPin", .null)] [.integer (-1), .integer 2]) = .ok info ∧
      ViewsAgree scalarCrypto (GetInfoDemo.bodyWith [(.text "clientPin", .bool true),
        (.text "clientPin", .null)] [.integer (-1), .integer 2]) info pinInfo := by
  obtain ⟨⟨info, hinfo⟩, pinInfo, hpin⟩ := GetInfoDemo.parses
    [(.text "clientPin", .bool true), (.text "clientPin", .null)] [.integer (-1), .integer 2]
  exact ⟨info, pinInfo, hinfo, (views_agree_iff (GetInfoDemo.read_body _ _) hinfo hpin).mpr
    (.inr ⟨true, rfl, rfl⟩)⟩

/-- `{"clientPin": true, "clientPin": false}`: a PIN is set for the ceremony, and none is for
the description. -/
theorem views_disagree : ¬ ∀ (crypto : CtapCrypto) (body : List UInt8) (info : AuthenticatorInfo)
    (pinInfo : AuthenticatorPinInfo), parseGetInfo crypto body = .ok info →
    parsePinInfo crypto body = .ok pinInfo → ViewsAgree crypto body info pinInfo := by
  intro hall
  obtain ⟨⟨info, hinfo⟩, pinInfo, hpin⟩ := GetInfoDemo.parses
    [(.text "clientPin", .bool true), (.text "clientPin", .bool false)] []
  have hstate := (hall _ _ info pinInfo hinfo hpin).pinState
  obtain ⟨_, hread, hfrom, -⟩ := parseGetInfo_ok hinfo
  obtain ⟨_, hread', -, hpinState, -⟩ := parsePinInfo_ok hpin
  cases (GetInfoDemo.read_body _ _).symm.trans hread
  cases (GetInfoDemo.read_body _ _).symm.trans hread'
  rw [hfrom.clientPin, hpinState] at hstate
  cases hstate

/-! ## Verdicts for a raw transport -/

/-- What `getInfo` and the attempts `l` asked for have to say for an enrolment over a raw
transport to have a chance. -/
structure Backed (crypto : CtapCrypto) (body : List UInt8) (entries : List (Cbor × Cbor))
    (info : AuthenticatorInfo) (l : List HostEvent) : Prop where
  previewSign : .text previewSignExtension ∈ ((getValueByInt entries 2).bind asArray).getD []
  clientPin : ∃ b, .bool b ∈ clientPinValues entries
  notForced : (getValueByInt entries 0x0c).bind asBool ≠ some true
  retries : info.clientPin = .set → ∃ protocol answer n,
    .sentCommand (pinRetriesCommand crypto protocol) (.ok answer) ∈ l ∧
      parsePinRetries crypto answer = .ok n ∧ 0 < n
  protocol : ∀ pinInfo, parsePinInfo crypto body = .ok pinInfo → advertisedProtocols entries = [] ∨
    ∃ v ∈ advertisedProtocols entries, protocolOf v = some pinInfo.protocol

theorem suitability_raw {info : AuthenticatorInfo} (h : suitability info false = .suitable) :
    previewSignExtension ∈ info.extensions ∧ info.clientPin ≠ .unsupported ∧
      info.forcePinChange = false ∧ info.pinRetries ≠ some 0 ∧
      (info.pinUvAuthProtocols ≠ [] → ∃ p ∈ info.pinUvAuthProtocols, (fromInt p).isSome) := by
  unfold suitability at h
  split at h
  · cases h
  rename_i hextension
  rw [if_neg Bool.false_ne_true] at h
  split at h
  · cases h
  rename_i hpin
  split at h
  · cases h
  rename_i hforced
  split at h
  · cases h
  rename_i hretries
  split at h
  · cases h
  rename_i hprotocols
  refine ⟨not_not.mp hextension, hpin, Bool.eq_false_iff.mpr hforced, hretries, fun hne => ?_⟩
  exact List.any_eq_true.mp (not_not.mp fun hnone => hprotocols ⟨hne, hnone⟩)

theorem text_mem_of_mem_textList {v : Option Cbor} {s : String} (h : s ∈ textList v) :
    .text s ∈ (v.bind asArray).getD [] := by
  unfold textList at h
  cases ha : v.bind asArray with
  | none =>
    rw [ha] at h
    exact absurd h List.not_mem_nil
  | some vs =>
    rw [ha] at h
    obtain ⟨t, ht, hs⟩ := List.mem_filterMap.mp h
    obtain rfl := asText_eq_some_iff.mp hs
    exact ht

theorem withPinRetries_ok {info' : AuthenticatorInfo}
    (h : withPinRetries crypto transport info w = (.ok info', w', l)) :
    ∃ retries, info' = { info with pinRetries := retries } ∧
      (info.clientPin = .set → ∃ protocol answer n,
        l = [.sentCommand (pinRetriesCommand crypto protocol) (.ok answer)] ∧
          parsePinRetries crypto answer = .ok n ∧ retries = some n) := by
  unfold withPinRetries at h
  split at h
  · obtain ⟨n, w₁, l₁, l₂, hasked, h₁, rfl⟩ := Traced.bind_ok_iff.mp h
    obtain ⟨rfl, -, rfl⟩ := Traced.pure_ok_iff.mp h₁
    obtain ⟨answer, rfl, hanswer⟩ := getPinRetries_ok hasked
    exact ⟨some n, rfl, fun _ => ⟨_, answer, n, rfl, hanswer, rfl⟩⟩
  · rename_i hset
    obtain ⟨rfl, -, -⟩ := Traced.pure_ok_iff.mp h
    exact ⟨info.pinRetries, rfl, fun h => absurd h hset⟩

theorem describeAuthenticator_ok (h : describeAuthenticator crypto transport w = (.ok info, w', l)) :
    ∃ response body parsed retries l',
      l = .sentCommand [ctap2GetInfo] (.ok response) :: l' ∧
      (transport.ctap2SendCommand [ctap2GetInfo] w).1 = .ok response ∧
      splitStatus response = .ok body ∧ parseGetInfo crypto body = .ok parsed ∧
      (parsed.clientPin = .set → ∃ protocol answer n,
        l' = [.sentCommand (pinRetriesCommand crypto protocol) (.ok answer)] ∧
          parsePinRetries crypto answer = .ok n ∧ retries = some n) ∧
      info = { parsed with
        pinRetries := retries
        enrolmentSuitability := suitability { parsed with pinRetries := retries }
          (transport.performsUserVerification w') } := by
  unfold describeAuthenticator at h
  obtain ⟨response, w₁, l₁, l₂, hsend, h₁, rfl⟩ := Traced.bind_ok_iff.mp h
  obtain ⟨body, w₂, l₃, l₄, hsplitRun, h₂, rfl⟩ := Traced.bind_ok_iff.mp h₁
  obtain ⟨parsed, w₃, l₅, l₆, hparseRun, h₃, rfl⟩ := Traced.bind_ok_iff.mp h₂
  obtain ⟨withRetries, w₄, l₇, l₈, hretriesRun, h₄, rfl⟩ := Traced.bind_ok_iff.mp h₃
  obtain ⟨performsUv, w₅, l₉, l₁₀, hget, h₅, rfl⟩ := Traced.bind_ok_iff.mp h₄
  obtain ⟨hanswer, rfl⟩ := Traced.ask_ok_iff.mp hsend
  obtain ⟨hsplit, -, rfl⟩ := Traced.lift_ok_iff.mp hsplitRun
  obtain ⟨hparse, -, rfl⟩ := Traced.lift_ok_iff.mp hparseRun
  obtain ⟨retries, rfl, hretries⟩ := withPinRetries_ok hretriesRun
  obtain ⟨rfl, rfl, rfl⟩ := Traced.get_ok_iff.mp hget
  obtain ⟨rfl, rfl, rfl⟩ := Traced.pure_ok_iff.mp h₅
  refine ⟨response, body, parsed, retries, l₇, by simp, ?_, hsplit, hparse, hretries, rfl⟩
  rw [hanswer]

/-- A body that the description accepts, the ceremony accepts. -/
theorem parsePinInfo_of_read {entries : List (Cbor × Cbor)}
    (hread : crypto.cbor.read body = .ok (.map entries)) :
    ∃ pinInfo, parsePinInfo crypto body = .ok pinInfo := by
  unfold parsePinInfo
  rw [hread]
  exact ⟨_, rfl⟩

/-- With a protocol of ours in the cut list, the ceremony takes one off the list itself. -/
theorem protocol_advertised {entries : List (Cbor × Cbor)}
    (hread : crypto.cbor.read body = .ok (.map entries))
    (hpin : parsePinInfo crypto body = .ok pinInfo)
    (hsupported : ∃ p ∈ (advertisedProtocols entries).filterMap protocolNumber,
      (fromInt p).isSome) :
    ∃ v ∈ advertisedProtocols entries, protocolOf v = some pinInfo.protocol := by
  obtain ⟨p, hp, hsome⟩ := hsupported
  obtain ⟨entries', hread', hprotocol, -⟩ := parsePinInfo_ok hpin
  cases hread.symm.trans hread'
  rw [← findSome?_fromInt] at hprotocol
  cases hfind : ((advertisedProtocols entries).filterMap protocolNumber).findSome? fromInt with
  | none =>
    rw [List.findSome?_eq_none_iff.mp hfind p hp] at hsome
    cases hsome
  | some protocol =>
    rw [hfind] at hprotocol
    obtain rfl : pinInfo.protocol = protocol := hprotocol
    rw [findSome?_fromInt] at hfind
    exact List.exists_of_findSome?_eq_some hfind

theorem bool_mem_of_pinStateOf {vs : List Cbor}
    (h : pinStateOf (vs.filterMap asBool).getLast? ≠ .unsupported) : ∃ b, .bool b ∈ vs := by
  cases hlast : (vs.filterMap asBool).getLast? with
  | none =>
    rw [hlast] at h
    exact absurd rfl h
  | some b =>
    obtain ⟨v, hv, hb⟩ := List.mem_filterMap.mp (List.mem_of_getLast? hlast)
    rw [asBool_eq_some_iff.mp hb] at hv
    exact ⟨b, hv⟩

/-- A verdict for a raw transport is backed by what the authenticator said, exactly when the
protocol list is empty or has a number of a `u32` among its entries. -/
theorem suitable_sound_iff {response : List UInt8} {entries : List (Cbor × Cbor)}
    (h : describeAuthenticator crypto transport w = (.ok info, w', l))
    (hresponse : (transport.ctap2SendCommand [ctap2GetInfo] w).1 = .ok response)
    (hbody : splitStatus response = .ok body) (hread : crypto.cbor.read body = .ok (.map entries))
    (hraw : ∀ w, transport.performsUserVerification w = false)
    (hsuitable : info.enrolmentSuitability = .suitable) :
    Backed crypto body entries info l ↔
      (advertisedProtocols entries ≠ [] →
        ∃ v ∈ advertisedProtocols entries, ∃ n, protocolNumber v = some n) := by
  obtain ⟨response', body', parsed, retries, l', rfl, hresponse', hbody', hparse, hretries, rfl⟩ :=
    describeAuthenticator_ok h
  cases hresponse.symm.trans hresponse'
  cases hbody.symm.trans hbody'
  obtain ⟨entries', hread', hfrom, -⟩ := parseGetInfo_ok hparse
  cases hread.symm.trans hread'
  rw [hraw] at hsuitable
  obtain ⟨hextension, hpin, hforced, hleft, hprotocols⟩ := suitability_raw hsuitable
  dsimp only at hextension hpin hforced hleft hprotocols
  rw [hfrom.pinUvAuthProtocols] at hprotocols
  constructor
  · intro hbacked hne
    obtain ⟨pinInfo, hpinInfo⟩ := parsePinInfo_of_read hread
    rcases hbacked.protocol pinInfo hpinInfo with hempty | ⟨v, hv, hprotocol⟩
    · exact absurd hempty hne
    · -- the protocol that is used is on the list, as a number
      rw [← fromInt_protocolNumber] at hprotocol
      obtain ⟨n, hn, -⟩ := Option.bind_eq_some_iff.mp hprotocol
      exact ⟨v, hv, n, hn⟩
  · intro hnumber
    refine ⟨?_, ?_, ?_, ?_, ?_⟩
    · rw [hfrom.extensions] at hextension
      exact text_mem_of_mem_textList hextension
    · rw [hfrom.clientPin] at hpin
      exact bool_mem_of_pinStateOf hpin
    · intro htrue
      rw [hfrom.forcePinChange, htrue] at hforced
      cases hforced
    · intro hset
      obtain ⟨protocol, answer, n, rfl, hanswer, rfl⟩ := hretries hset
      refine ⟨protocol, answer, n, by simp, hanswer, Nat.pos_of_ne_zero fun hzero => hleft ?_⟩
      rw [hzero]
    · intro pinInfo hpinInfo
      by_cases hne : advertisedProtocols entries = []
      · exact .inl hne
      · -- a number keeps the cut list from being empty, which would count as absent
        obtain ⟨v, hv, n, hn⟩ := hnumber hne
        have hcut : (advertisedProtocols entries).filterMap protocolNumber ≠ [] :=
          List.ne_nil_of_mem (List.mem_filterMap.mpr ⟨v, hv, hn⟩)
        exact .inr (protocol_advertised hread hpinInfo (hprotocols hcut))

namespace GetInfoDemo

/-- An authenticator without a PIN that advertises `protocols`. -/
def authenticator (protocols : List Cbor) : Ctap2Transport Unit :=
  ⟨fun _ w => (.ok (0x00 :: bodyWith [(.text "clientPin", .bool false)] protocols), w),
    fun _ => false⟩

end GetInfoDemo

open GetInfoDemo in
theorem suitable_sound_iff_listed :
    ∃ info l, describeAuthenticator scalarCrypto (authenticator [.integer (-1), .integer 2]) () =
      (.ok info, (), l) ∧
      Backed scalarCrypto (bodyWith [(.text "clientPin", .bool false)] [.integer (-1), .integer 2])
        (entriesWith [(.text "clientPin", .bool false)] [.integer (-1), .integer 2]) info l := by
  obtain ⟨info, l, hrun, hsuitable⟩ : ∃ info l,
      describeAuthenticator scalarCrypto (authenticator [.integer (-1), .integer 2]) () =
        (.ok info, (), l) ∧ info.enrolmentSuitability = .suitable := ⟨_, _, rfl, rfl⟩
  exact ⟨info, l, hrun, (suitable_sound_iff hrun rfl rfl (read_body _ _) (fun _ => rfl)
    hsuitable).mpr fun _ => ⟨.integer 2,
      by simp [entriesWith, advertisedProtocols, asArray], 2, rfl⟩⟩

open GetInfoDemo in
/-- `[-1]` is cut down to no list at all, which stands for protocol one. -/
theorem suitable_without_protocol : ¬ ∀ (crypto : CtapCrypto) (transport : Ctap2Transport Unit)
    (info : AuthenticatorInfo) (l : List HostEvent) (response body : List UInt8)
    (entries : List (Cbor × Cbor)),
    describeAuthenticator crypto transport () = (.ok info, (), l) →
    (transport.ctap2SendCommand [ctap2GetInfo] ()).1 = .ok response →
    splitStatus response = .ok body → crypto.cbor.read body = .ok (.map entries) →
    (∀ w, transport.performsUserVerification w = false) →
    info.enrolmentSuitability = .suitable → Backed crypto body entries info l := by
  intro hall
  obtain ⟨info, l, hrun, hsuitable⟩ : ∃ info l,
      describeAuthenticator scalarCrypto (authenticator [.integer (-1)]) () = (.ok info, (), l) ∧
        info.enrolmentSuitability = .suitable := ⟨_, _, rfl, rfl⟩
  have hbacked := hall _ _ info l _ _ _ hrun rfl rfl (read_body _ _) (fun _ => rfl) hsuitable
  obtain ⟨pinInfo, hpin⟩ := parsePinInfo_of_read (read_body _ _)
  rcases hbacked.protocol pinInfo hpin with hempty | ⟨v, hv, hprotocol⟩
  · cases hempty
  · obtain rfl : v = .integer (-1) := by simpa [entriesWith, advertisedProtocols, asArray] using hv
    cases hprotocol

end AuthenticatorInfo

end Wscd
