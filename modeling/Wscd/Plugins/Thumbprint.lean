import Mathlib.Data.Bool.AllAny
import Wscd.Cbor
import Wscd.Lib.PrefixCode
import Wscd.Lib.Sha256
import Wscd.Plugins.Jwk

/-!
# What a thumbprint is taken of

`jwk_thumbprint` builds the text it hashes by hand. The text can be taken apart in one way
only, whatever characters the members hold, because a quoted string ends at its first
unescaped quote.

Results:
1. `escapeChar_prefixFree`, `quote_prefixFree`: no escape is the beginning of another, and a
   quoted string shows where it ends.
2. `canonicalForm_eq_iff`: two texts are equal exactly when the JWKs have the same type and
   the same required members.
3. `canonicalForm_eq_ok_iff`: the text is the required members in lexicographic order, without
   white space.
4. `thumbprint_is_canonical`: when there is a thumbprint, and what it is taken of.
-/

namespace Wscd

open Lib

namespace Json

/-! ## Quoted strings -/

/-- The characters with an escape of their own. -/
def escaped : List Char := '"' :: '\\' :: (List.range 32).map Char.ofNat

theorem toList_escapeChar (c : Char) :
    (escapeChar c).toList =
      if c = '"' then ['\\', '"']
      else if c = '\\' then ['\\', '\\']
      else if c.toNat = 0x08 then ['\\', 'b']
      else if c.toNat = 0x09 then ['\\', 't']
      else if c.toNat = 0x0a then ['\\', 'n']
      else if c.toNat = 0x0c then ['\\', 'f']
      else if c.toNat = 0x0d then ['\\', 'r']
      else if c.toNat < 0x10 then ['\\', 'u', '0', '0', '0'] ++ Nat.toDigits 16 c.toNat
      else if c.toNat < 0x20 then ['\\', 'u', '0', '0'] ++ Nat.toDigits 16 c.toNat
      else [c] := by
  simp [escapeChar, apply_ite String.toList]

theorem toList_escapeChar_of_not_mem {c : Char} (h : c ∉ escaped) :
    (escapeChar c).toList = [c] ∧ c ≠ '"' ∧ c ≠ '\\' := by
  have hquote : c ≠ '"' := by
    rintro rfl
    exact h (by decide)
  have hslash : c ≠ '\\' := by
    rintro rfl
    exact h (by decide)
  have hcontrol : ¬ c.toNat < 32 := by
    intro hlt
    refine h (List.mem_cons_of_mem _ (List.mem_cons_of_mem _ (List.mem_map.mpr ?_)))
    exact ⟨c.toNat, List.mem_range.mpr hlt, Char.ofNat_toNat c⟩
  refine ⟨?_, hquote, hslash⟩
  rw [toList_escapeChar, if_neg hquote, if_neg hslash, if_neg (by omega), if_neg (by omega),
    if_neg (by omega), if_neg (by omega), if_neg (by omega), if_neg (by omega), if_neg hcontrol]

/-- Two escapes that begin alike have one length, and equal escapes are of one character. -/
theorem escapes_differ : ∀ c ∈ escaped, ∀ c' ∈ escaped,
    (escapeChar c).toList.take 2 = (escapeChar c').toList.take 2 →
      (escapeChar c).toList.length = (escapeChar c').toList.length ∧
        ((escapeChar c).toList = (escapeChar c').toList → c = c') := by
  -- checked over the list, not over all characters
  intro c hc
  refine List.all_iff_forall_prop.mp ?_
  revert c
  refine List.all_iff_forall_prop.mp ?_
  simp only [toList_escapeChar]
  decide +kernel

theorem escapes_begin : ∀ c ∈ escaped,
    (escapeChar c).toList.head? = some '\\' ∧ 2 ≤ (escapeChar c).toList.length := by
  refine List.all_iff_forall_prop.mp ?_
  simp only [toList_escapeChar]
  decide +kernel

theorem toList_escapeChar_eq (c : Char) :
    (c ∈ escaped ∧ ∃ second tail, (escapeChar c).toList = '\\' :: second :: tail) ∨
      ((escapeChar c).toList = [c] ∧ c ≠ '"' ∧ c ≠ '\\') := by
  by_cases hc : c ∈ escaped
  · obtain ⟨hhead, hlength⟩ := escapes_begin c hc
    match hlist : (escapeChar c).toList, hhead, hlength with
    | first :: second :: tail, hhead, _ =>
      cases hhead
      exact .inl ⟨hc, second, tail, rfl⟩
  · exact .inr (toList_escapeChar_of_not_mem hc)

/-- No escape is the beginning of another. -/
theorem escapeChar_prefixFree : PrefixFree fun c => (escapeChar c).toList := by
  intro c c' t t' h
  dsimp only at h
  rcases toList_escapeChar_eq c with ⟨hc, second, tail, hlist⟩ | ⟨hlist, -, hslash⟩
  · rcases toList_escapeChar_eq c' with ⟨hc', second', tail', hlist'⟩ | ⟨hlist', -, hslash'⟩
    · have hsecond : second = second' := by
        rw [hlist, hlist'] at h
        exact (List.cons.inj (List.cons.inj h).2).1
      have htake : (escapeChar c).toList.take 2 = (escapeChar c').toList.take 2 := by
        rw [hlist, hlist', hsecond]
        rfl
      obtain ⟨hlength, hinj⟩ := escapes_differ c hc c' hc' htake
      obtain ⟨hword, hrest⟩ := List.append_inj h hlength
      exact ⟨hinj hword, hrest⟩
    · rw [hlist, hlist'] at h
      exact absurd (List.cons.inj h).1.symm hslash'
  · rcases toList_escapeChar_eq c' with ⟨hc', second', tail', hlist'⟩ | ⟨hlist', -, hslash'⟩
    · rw [hlist, hlist'] at h
      exact absurd (List.cons.inj h).1 hslash
    · rw [hlist, hlist'] at h
      exact List.cons.inj h

theorem escapeChar_neverBegins_quote : NeverBegins (fun c => (escapeChar c).toList) '"' := by
  intro c t t' h
  dsimp only at h
  rcases toList_escapeChar_eq c with ⟨-, second, tail, hlist⟩ | ⟨hlist, hquote, -⟩
  · rw [hlist] at h
    exact absurd (List.cons.inj h).1 (by decide)
  · rw [hlist] at h
    exact hquote (List.cons.inj h).1

theorem toList_quote (s : String) :
    (quote s).toList = ['"'] ++ (s.toList.flatMap (fun c => (escapeChar c).toList) ++ ['"']) := by
  simp [quote, List.flatMap_map]

/-- A quoted string shows where it ends, and which string it is. -/
theorem quote_prefixFree : PrefixFree fun s => (quote s).toList := by
  intro s s' t t' h
  simp only [toList_quote] at h
  obtain ⟨hs, ht⟩ :=
    ((escapeChar_prefixFree.delimited escapeChar_neverBegins_quote).after ['"']) _ _ t t' h
  exact ⟨String.toList_inj.mp hs, ht⟩

theorem quote_neverBegins {stop : Char} (hstop : stop ≠ '"') :
    NeverBegins (fun s => (quote s).toList) stop := by
  intro s t t' h
  simp only [toList_quote] at h
  exact hstop (List.cons.inj h).1.symm

end Json

/-! ## The text that is hashed -/

/-- `jwk.get(name).and_then(|v| v.as_str())` -/
def jwkMember (jwk : Json) (name : String) : Option String := (jwk.get name).bind Json.asStr

/-- The text `jwk_thumbprint` hashes. -/
def canonicalForm (jwk : Json) : Except WscdError String :=
  match jwkMember jwk "kty" with
  | none => .error (.plugin "JWK has no kty")
  | some kty => do
    let members ← thumbprintMembers kty
    let parts ← members.mapM (thumbprintMember jwk kty)
    return "\x7b" ++ ",".intercalate parts ++ "\x7d"

theorem jwkThumbprint_eq (digest : Digest) (jwk : Json) :
    jwkThumbprint digest jwk =
      (canonicalForm jwk).map fun text => digest.encode (digest.sha256 (utf8 text)) := by
  unfold jwkThumbprint canonicalForm
  show (match jwkMember jwk "kty" with | none => _ | some kty => _) = _
  cases jwkMember jwk "kty" with
  | none => rfl
  | some kty =>
    dsimp only
    cases thumbprintMembers kty with
    | error e => rfl
    | ok members =>
      rw [ok_bind, ok_bind]
      cases members.mapM (thumbprintMember jwk kty) with
      | error e => rfl
      | ok parts => rfl

/-- Members with their values, as they stand in the text. -/
def renderMembers (pairs : List (String × String)) : String :=
  "\x7b" ++ ",".intercalate (pairs.map fun m => Json.quote m.1 ++ ":" ++ Json.quote m.2) ++ "\x7d"

theorem renderMembers_injective : Function.Injective renderMembers := by
  intro ps qs h
  have hmember : PrefixFree fun m : String × String =>
      (Json.quote m.1 ++ ":" ++ Json.quote m.2).toList := by
    have hpair := Json.quote_prefixFree.pair Json.quote_prefixFree [':']
    intro m m' t t' hm
    refine hpair m m' t t' ?_
    simpa using hm
  have hbegins : NeverBegins (fun m : String × String =>
      (Json.quote m.1 ++ ":" ++ Json.quote m.2).toList) '\x7d' := by
    intro m t t' hm
    dsimp only at hm
    rw [String.toList_append, String.toList_append, List.append_assoc, List.append_assoc] at hm
    exact Json.quote_neverBegins (by decide) m.1 _ _ hm
  have hlist := congrArg String.toList h
  simp only [renderMembers, String.toList_append, String.toList_intercalate, List.map_map,
    List.append_assoc] at hlist
  exact (hmember.separated hbegins (by decide)).injective (List.append_cancel_left hlist)

/-- The members among `names` that are strings, with their values. -/
def presentMembers (jwk : Json) (names : List String) : List (String × String) :=
  names.filterMap fun name => (jwkMember jwk name).map fun value => (name, value)

theorem mem_presentMembers {jwk : Json} {names : List String} {m : String × String} :
    m ∈ presentMembers jwk names ↔ m.1 ∈ names ∧ jwkMember jwk m.1 = some m.2 := by
  unfold presentMembers
  rw [List.mem_filterMap]
  constructor
  · rintro ⟨name, hname, h⟩
    obtain ⟨value, hvalue, rfl⟩ := Option.map_eq_some_iff.mp h
    exact ⟨hname, hvalue⟩
  · rintro ⟨hname, hvalue⟩
    exact ⟨m.1, hname, by rw [hvalue]; rfl⟩

theorem presentMembers_map_fst {jwk : Json} {pairs : List (String × String)}
    (h : ∀ m ∈ pairs, jwkMember jwk m.1 = some m.2) :
    presentMembers jwk (pairs.map Prod.fst) = pairs := by
  unfold presentMembers
  rw [List.filterMap_map]
  refine (List.filterMap_congr fun m hm => ?_).trans List.filterMap_some
  rw [Function.comp_apply, h m hm]
  rfl

theorem map_fst_presentMembers {jwk : Json} {names : List String}
    (h : ∀ name ∈ names, jwkMember jwk name ≠ none) :
    (presentMembers jwk names).map Prod.fst = names := by
  unfold presentMembers
  rw [List.map_filterMap]
  refine (List.filterMap_congr fun name hname => ?_).trans List.filterMap_some
  obtain ⟨value, hvalue⟩ := Option.ne_none_iff_exists'.mp (h name hname)
  rw [hvalue]
  rfl

theorem thumbprintMember_of_some {jwk : Json} {name value : String} (kty : String)
    (h : jwkMember jwk name = some value) :
    thumbprintMember jwk kty name = .ok (Json.quote name ++ ":" ++ Json.quote value) := by
  unfold jwkMember at h
  rw [thumbprintMember, h]

theorem thumbprintMember_of_none {jwk : Json} {name : String} (kty : String)
    (h : jwkMember jwk name = none) : ∃ e, thumbprintMember jwk kty name = .error e := by
  unfold jwkMember at h
  rw [thumbprintMember, h]
  exact ⟨_, rfl⟩

/-- The loop over the required members goes through when they are all there, and else not. -/
theorem mapM_thumbprintMember (jwk : Json) (kty : String) (names : List String) :
    ((∀ name ∈ names, jwkMember jwk name ≠ none) →
      names.mapM (thumbprintMember jwk kty) = .ok ((presentMembers jwk names).map
        fun m => Json.quote m.1 ++ ":" ++ Json.quote m.2)) ∧
    ((∃ name ∈ names, jwkMember jwk name = none) →
      ∃ e, names.mapM (thumbprintMember jwk kty) = .error e) := by
  induction names with
  | nil => exact ⟨fun _ => rfl, fun ⟨name, hname, _⟩ => absurd hname List.not_mem_nil⟩
  | cons name names ih =>
    rw [List.mapM_cons]
    cases hvalue : jwkMember jwk name with
    | none =>
      refine ⟨fun h => absurd hvalue (h name List.mem_cons_self), fun _ => ?_⟩
      obtain ⟨e, he⟩ := thumbprintMember_of_none kty hvalue
      rw [he]
      exact ⟨e, rfl⟩
    | some value =>
      rw [thumbprintMember_of_some kty hvalue, ok_bind]
      constructor
      · intro h
        rw [ih.1 fun n hn => h n (List.mem_cons_of_mem _ hn)]
        have hpresent : presentMembers jwk (name :: names) =
            (name, value) :: presentMembers jwk names := by
          unfold presentMembers
          rw [List.filterMap_cons_some (b := (name, value)) (by rw [hvalue]; rfl)]
        rw [hpresent]
        rfl
      · rintro ⟨n, hn, hnone⟩
        rcases List.mem_cons.mp hn with rfl | hn
        · rw [hvalue] at hnone
          cases hnone
        · obtain ⟨e, he⟩ := ih.2 ⟨n, hn, hnone⟩
          rw [he]
          exact ⟨e, rfl⟩

/-! ## When there is a thumbprint, and when two are of one text -/

/-- RFC 7638: the required members by key type. -/
def rfc7638Members : List (String × List String) :=
  [("EC", ["crv", "kty", "x", "y"]), ("OKP", ["crv", "kty", "x"]), ("RSA", ["e", "kty", "n"]),
    ("oct", ["k", "kty"])]

theorem thumbprintMembers_of_mem {kty : String} {names : List String}
    (h : (kty, names) ∈ rfc7638Members) : thumbprintMembers kty = .ok names ∧ "kty" ∈ names := by
  simp only [rfc7638Members, List.mem_cons, List.not_mem_nil, or_false, Prod.mk.injEq] at h
  rcases h with ⟨rfl, rfl⟩ | ⟨rfl, rfl⟩ | ⟨rfl, rfl⟩ | ⟨rfl, rfl⟩ <;> exact ⟨rfl, by decide⟩

theorem thumbprintMembers_cases (kty : String) :
    (∃ names, (kty, names) ∈ rfc7638Members) ∨
      kty ∉ rfc7638Members.map Prod.fst ∧ ∃ e, thumbprintMembers kty = .error e := by
  by_cases hmem : kty ∈ rfc7638Members.map Prod.fst
  · obtain ⟨⟨_, names⟩, hpair, rfl⟩ := List.mem_map.mp hmem
    exact .inl ⟨names, hpair⟩
  · refine .inr ⟨hmem, ?_⟩
    simp only [rfc7638Members, List.map_cons, List.map_nil, List.mem_cons, List.not_mem_nil,
      or_false, not_or] at hmem
    obtain ⟨hEC, hOKP, hRSA, hoct⟩ := hmem
    unfold thumbprintMembers
    split
    · exact absurd rfl hEC
    · exact absurd rfl hOKP
    · exact absurd rfl hRSA
    · exact absurd rfl hoct
    · exact ⟨_, rfl⟩

/-- Why a JWK has no thumbprint. -/
inductive LacksRequired (jwk : Json) : Prop where
  | noType : jwkMember jwk "kty" = none → LacksRequired jwk
  | unknownType {kty : String} :
      jwkMember jwk "kty" = some kty → kty ∉ rfc7638Members.map Prod.fst → LacksRequired jwk
  | missing {kty name : String} {names : List String} :
      jwkMember jwk "kty" = some kty → (kty, names) ∈ rfc7638Members → name ∈ names →
      jwkMember jwk name = none → LacksRequired jwk

/-- The JWKs have one type and the same members required for it. -/
def SameKey (jwk jwk' : Json) : Prop :=
  jwkMember jwk "kty" = jwkMember jwk' "kty" ∧
    ∀ kty names, (kty, names) ∈ rfc7638Members → jwkMember jwk "kty" = some kty →
      ∀ name ∈ names, jwkMember jwk name = jwkMember jwk' name

/-- The text of a JWK, or what it lacks. -/
theorem canonicalForm_cases (jwk : Json) :
    (∃ kty names, jwkMember jwk "kty" = some kty ∧ (kty, names) ∈ rfc7638Members ∧
      (∀ name ∈ names, jwkMember jwk name ≠ none) ∧
      canonicalForm jwk = .ok (renderMembers (presentMembers jwk names))) ∨
    (LacksRequired jwk ∧ ∃ e, canonicalForm jwk = .error e) := by
  unfold canonicalForm
  cases hkty : jwkMember jwk "kty" with
  | none => exact .inr ⟨.noType hkty, _, rfl⟩
  | some kty =>
    dsimp only
    rcases thumbprintMembers_cases kty with ⟨names, hnames⟩ | ⟨hunknown, e, he⟩
    · rw [(thumbprintMembers_of_mem hnames).1, ok_bind]
      obtain ⟨hall, hsome⟩ := mapM_thumbprintMember jwk kty names
      by_cases hpresent : ∀ name ∈ names, jwkMember jwk name ≠ none
      · refine .inl ⟨kty, names, rfl, hnames, hpresent, ?_⟩
        rw [hall hpresent]
        rfl
      · obtain ⟨name, hname, hnone⟩ : ∃ name ∈ names, jwkMember jwk name = none := by
          simpa using hpresent
        obtain ⟨e, he⟩ := hsome ⟨name, hname, hnone⟩
        rw [he]
        exact .inr ⟨.missing hkty hnames hname hnone, e, rfl⟩
    · rw [he]
      exact .inr ⟨.unknownType hkty hunknown, e, rfl⟩

theorem names_unique {kty : String} {names names' : List String}
    (h : (kty, names) ∈ rfc7638Members) (h' : (kty, names') ∈ rfc7638Members) : names = names' :=
  Except.ok.inj ((thumbprintMembers_of_mem h).1.symm.trans (thumbprintMembers_of_mem h').1)

/-- A JWK with a text lacks nothing. -/
theorem LacksRequired.no_text {jwk : Json} (h : LacksRequired jwk) (text : String) :
    canonicalForm jwk ≠ .ok text := by
  intro htext
  rcases canonicalForm_cases jwk with ⟨kty, names, hkty, hnames, hpresent, -⟩ | ⟨-, e, he⟩
  · cases h with
    | noType hnone =>
      rw [hkty] at hnone
      cases hnone
    | unknownType hkty' hunknown =>
      rw [hkty] at hkty'
      cases hkty'
      exact hunknown (List.mem_map_of_mem hnames)
    | missing hkty' hnames' hname hnone =>
      rw [hkty] at hkty'
      cases hkty'
      rw [names_unique hnames' hnames] at hname
      exact hpresent _ hname hnone
  · rw [he] at htext
    cases htext

theorem canonicalForm_eq_iff {jwk jwk' : Json} {text text' : String}
    (h : canonicalForm jwk = .ok text) (h' : canonicalForm jwk' = .ok text') :
    text = text' ↔ SameKey jwk jwk' := by
  rcases canonicalForm_cases jwk with ⟨kty, names, hkty, hnames, hpresent, htext⟩ | ⟨hlacks, -⟩
  swap
  · exact absurd h (hlacks.no_text text)
  rcases canonicalForm_cases jwk' with
    ⟨kty', names', hkty', hnames', hpresent', htext'⟩ | ⟨hlacks, -⟩
  swap
  · exact absurd h' (hlacks.no_text text')
  cases h.symm.trans htext
  cases h'.symm.trans htext'
  have hktyMem := (thumbprintMembers_of_mem hnames).2
  constructor
  · intro heq
    have hmembers := renderMembers_injective heq
    have hsame : ∀ name ∈ names, jwkMember jwk name = jwkMember jwk' name := by
      intro name hname
      obtain ⟨value, hvalue⟩ := Option.ne_none_iff_exists'.mp (hpresent name hname)
      have hmem : (name, value) ∈ presentMembers jwk names := mem_presentMembers.mpr ⟨hname, hvalue⟩
      rw [hmembers] at hmem
      rw [hvalue, (mem_presentMembers.mp hmem).2]
    refine ⟨hsame "kty" hktyMem, fun kty₁ names₁ hnames₁ hkty₁ => ?_⟩
    rw [hkty] at hkty₁
    cases hkty₁
    rwa [names_unique hnames₁ hnames]
  · rintro ⟨htype, hsame⟩
    rw [hkty, hkty'] at htype
    cases htype
    cases names_unique hnames hnames'
    have hmembers : presentMembers jwk names = presentMembers jwk' names := by
      refine List.filterMap_congr fun name hname => ?_
      rw [hsame kty names hnames hkty name hname]
    rw [hmembers]

/-- The text of a JWK is its required members with their values, and nothing else. -/
theorem canonicalForm_eq_ok_iff (jwk : Json) (text : String) :
    canonicalForm jwk = .ok text ↔
      ∃ (kty : String) (pairs : List (String × String)), jwkMember jwk "kty" = some kty ∧
        (kty, pairs.map Prod.fst) ∈ rfc7638Members ∧
        (∀ m ∈ pairs, jwkMember jwk m.1 = some m.2) ∧ text = renderMembers pairs := by
  constructor
  · intro h
    rcases canonicalForm_cases jwk with ⟨kty, names, hkty, hnames, hpresent, htext⟩ | ⟨hlacks, -⟩
    · cases h.symm.trans htext
      refine ⟨kty, presentMembers jwk names, hkty, ?_, fun m hm => (mem_presentMembers.mp hm).2,
        rfl⟩
      rwa [map_fst_presentMembers hpresent]
    · exact absurd h (hlacks.no_text text)
  · rintro ⟨kty, pairs, hkty, hpairs, hvalues, rfl⟩
    have hpresent : ∀ name ∈ pairs.map Prod.fst, jwkMember jwk name ≠ none := by
      intro name hname
      obtain ⟨m, hm, rfl⟩ := List.mem_map.mp hname
      rw [hvalues m hm]
      exact Option.some_ne_none _
    rcases canonicalForm_cases jwk with ⟨kty', names, hkty', hnames, -, htext⟩ | ⟨hlacks, -⟩
    · cases hkty.symm.trans hkty'
      cases names_unique hpairs hnames
      rw [htext, presentMembers_map_fst hvalues]
    · cases hlacks with
      | noType hnone => cases hkty.symm.trans hnone
      | unknownType hkty' hunknown =>
        cases hkty.symm.trans hkty'
        exact absurd (List.mem_map_of_mem hpairs) hunknown
      | missing hkty' hnames hname hnone =>
        cases hkty.symm.trans hkty'
        rw [names_unique hnames hpairs] at hname
        exact absurd hnone (hpresent _ hname)

/-- There is a thumbprint exactly when nothing required is lacking; it is taken of the canonical
form, which is the required members in lexicographic order with nothing between them but the
separators, and two canonical forms are one text exactly for one key. -/
theorem thumbprint_is_canonical (digest : Digest) :
    (∀ jwk, (∃ e, jwkThumbprint digest jwk = .error e) ↔ LacksRequired jwk) ∧
    (∀ jwk kid, jwkThumbprint digest jwk = .ok kid ↔
      ∃ text, canonicalForm jwk = .ok text ∧ kid = digest.encode (digest.sha256 (utf8 text))) ∧
    (∀ jwk text, canonicalForm jwk = .ok text ↔
      ∃ (kty : String) (pairs : List (String × String)), jwkMember jwk "kty" = some kty ∧
        (kty, pairs.map Prod.fst) ∈ rfc7638Members ∧
        (∀ m ∈ pairs, jwkMember jwk m.1 = some m.2) ∧
        text = "\x7b" ++ ",".intercalate
          (pairs.map fun m => Json.quote m.1 ++ ":" ++ Json.quote m.2) ++ "\x7d") ∧
    (∀ names ∈ rfc7638Members.map Prod.snd, names.Pairwise (· < ·)) ∧
    ∀ jwk jwk' text text', canonicalForm jwk = .ok text → canonicalForm jwk' = .ok text' →
      (text = text' ↔ SameKey jwk jwk') := by
  refine ⟨fun jwk => ?_, fun jwk kid => ?_, canonicalForm_eq_ok_iff, by decide +kernel,
    fun _ _ _ _ => canonicalForm_eq_iff⟩
  · rw [jwkThumbprint_eq]
    constructor
    · rintro ⟨e, he⟩
      rcases canonicalForm_cases jwk with ⟨kty, names, -, -, -, htext⟩ | ⟨hlacks, -⟩
      · rw [htext] at he
        cases he
      · exact hlacks
    · intro hlacks
      rcases canonicalForm_cases jwk with ⟨kty, names, -, -, -, htext⟩ | ⟨-, e, he⟩
      · exact absurd htext (hlacks.no_text _)
      · rw [he]
        exact ⟨e, rfl⟩
  · rw [jwkThumbprint_eq]
    cases canonicalForm jwk with
    | error e =>
      constructor
      · intro h
        cases h
      · rintro ⟨text, htext, -⟩
        cases htext
    | ok text =>
      constructor
      · intro h
        exact ⟨text, rfl, (Except.ok.inj h).symm⟩
      · rintro ⟨text', htext, rfl⟩
        cases htext
        rfl

/-- Order and optional members make no difference. -/
theorem thumbprint_is_canonical_optional :
    canonicalForm (.object [("kty", .string "oct"), ("k", .string "AA\"")]) =
      canonicalForm (.object [("alg", .null), ("k", .string "AA\""), ("kty", .string "oct")]) := by
  have hiff := (thumbprint_is_canonical ⟨Lib.sha256, base64url⟩).2.2.2.2
    (.object [("kty", .string "oct"), ("k", .string "AA\"")])
    (.object [("alg", .null), ("k", .string "AA\""), ("kty", .string "oct")]) _ _ rfl rfl
  refine congrArg Except.ok (hiff.mpr ⟨rfl, ?_⟩)
  intro kty names hnames hkty
  cases hkty
  cases names_unique hnames (by decide : ("oct", ["k", "kty"]) ∈ rfc7638Members)
  decide

end Wscd
