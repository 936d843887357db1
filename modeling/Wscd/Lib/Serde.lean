import Mathlib.Data.List.Forall2
import Wscd.Lib.Map

/-!
# Derived decoders

`Content` is a document as a self-describing format presents it to a decoder. The readers
are the ones a `derive` writes: a record comes from an object, where an unknown member is
skipped and a known one stands at most once, or from a positional array; a unit variant
comes from its name or from an object of its name and null; the entries of a map may
repeat a key. `none` is an error.

Results:
1. `asSeq_eq_some_iff`, `asMap_eq_some_iff`: a list or a map is read if all its parts are.
2. `required_eq_some_iff`, `defaulted_eq_some_iff`: what a member of an object reads as.
3. `forall_of_asSeq`, `forall_of_asMap`: what holds of everything read holds of the parts.
4. `asSeq_map`, `asMap_map`: what is written element by element is read back.
-/

namespace Lib

/-- A document. A number that is no 64-bit integer is a `float`. -/
inductive Content where
  | null
  | bool (b : Bool)
  | int (n : Int)
  | float (lexeme : String)
  | str (s : String)
  | seq (items : List Content)
  | map (members : List (String × Content))
  deriving Repr

namespace Content

variable {α β : Type}

/-- A format can write the document and read it back: 64-bit integers only, and at most as
many containers inside each other. -/
def Writable : Nat → Content → Prop
  | _, .null | _, .bool _ | _, .str _ => True
  | _, .int n => -(2 ^ 63) ≤ n ∧ n < 2 ^ 64
  | _, .float _ => False
  | 0, .seq _ | 0, .map _ => False
  | depth + 1, .seq items => ∀ c ∈ items, Writable depth c
  | depth + 1, .map members => ∀ m ∈ members, Writable depth m.2

/-! ## Scalars -/

def asStr : Content → Option String
  | .str s => some s
  | _ => none

def asI64 : Content → Option Int
  | .int n => if -(2 ^ 63) ≤ n ∧ n < 2 ^ 63 then some n else none
  | _ => none

def asUnitVariant (ofName : String → Option α) : Content → Option α
  | .str s => ofName s
  | .map [(s, .null)] => ofName s
  | _ => none

theorem asI64_int {n : Int} (h : -(2 ^ 63) ≤ n ∧ n < 2 ^ 63) : asI64 (.int n) = some n := if_pos h

theorem of_asI64_eq_some {c : Content} {n : Int} (h : asI64 c = some n) :
    -(2 ^ 63) ≤ n ∧ n < 2 ^ 63 := by
  unfold asI64 at h
  split at h
  · obtain ⟨hn, heq⟩ := Option.ite_none_right_eq_some.mp h
    cases heq
    exact hn
  · cases h

/-! ## Lists and maps -/

def asSeq (read : Content → Option α) : Content → Option (List α)
  | .seq items => items.mapM read
  | _ => none

/-- The entries of a map. -/
def asMap (read : Content → Option α) : Content → Option (List (String × α))
  | .map members => members.mapM fun m => (read m.2).map fun a => (m.1, a)
  | _ => none

theorem mapM_eq_some_iff (f : α → Option β) (as : List α) (bs : List β) :
    as.mapM f = some bs ↔ List.Forall₂ (fun a b => f a = some b) as bs := by
  induction as generalizing bs with
  | nil =>
    rw [List.mapM_nil, List.forall₂_nil_left_iff]
    exact Option.some_inj.trans eq_comm
  | cons a as ih =>
    rw [List.mapM_cons, List.forall₂_cons_left_iff]
    constructor
    · intro h
      obtain ⟨b, hb, hrest⟩ := Option.bind_eq_some_iff.mp h
      obtain ⟨bs', hbs', heq⟩ := Option.bind_eq_some_iff.mp hrest
      cases heq
      exact ⟨b, bs', hb, (ih bs').mp hbs', rfl⟩
    · rintro ⟨b, bs', hb, hbs', rfl⟩
      rw [hb, (ih bs').mpr hbs']
      rfl

theorem asSeq_eq_some_iff (read : Content → Option α) (c : Content) (as : List α) :
    asSeq read c = some as ↔
      ∃ items, c = .seq items ∧ List.Forall₂ (fun item a => read item = some a) items as := by
  cases c with
  | seq items =>
    refine (mapM_eq_some_iff read items as).trans ⟨fun h => ⟨items, rfl, h⟩, ?_⟩
    rintro ⟨_, ⟨⟩, h⟩
    exact h
  | _ => exact ⟨nofun, by rintro ⟨_, ⟨⟩, -⟩⟩

theorem asMap_eq_some_iff (read : Content → Option α) (c : Content) (as : List (String × α)) :
    asMap read c = some as ↔
      ∃ members, c = .map members ∧
        List.Forall₂ (fun m a => m.1 = a.1 ∧ read m.2 = some a.2) members as := by
  have hentry (m : String × Content) (a : String × α) :
      ((read m.2).map fun a => (m.1, a)) = some a ↔ m.1 = a.1 ∧ read m.2 = some a.2 := by
    rw [Option.map_eq_some_iff]
    constructor
    · rintro ⟨v, hv, rfl⟩
      exact ⟨rfl, hv⟩
    · rintro ⟨hname, hv⟩
      exact ⟨a.2, hv, by rw [hname]⟩
  cases c with
  | map members =>
    have hmembers : asMap read (.map members) = some as ↔
        List.Forall₂ (fun m a => m.1 = a.1 ∧ read m.2 = some a.2) members as := by
      simp only [asMap, mapM_eq_some_iff, hentry]
    refine hmembers.trans ⟨fun h => ⟨members, rfl, h⟩, ?_⟩
    rintro ⟨_, ⟨⟩, h⟩
    exact h
  | _ => exact ⟨nofun, by rintro ⟨_, ⟨⟩, -⟩⟩

theorem exists_left_of_forall₂ {R : α → β → Prop} {as : List α} {bs : List β}
    (h : List.Forall₂ R as bs) {b : β} (hb : b ∈ bs) : ∃ a ∈ as, R a b := by
  induction h with
  | nil => cases hb
  | cons hR _ ih =>
    rcases List.mem_cons.mp hb with rfl | hb
    · exact ⟨_, List.mem_cons_self, hR⟩
    · obtain ⟨a, ha, hab⟩ := ih hb
      exact ⟨a, List.mem_cons_of_mem _ ha, hab⟩

/-- What holds of everything that is read holds of every item of a list. -/
theorem forall_of_asSeq {P : α → Prop} {read : Content → Option α}
    (hread : ∀ c a, read c = some a → P a) {c : Content} {as : List α}
    (h : asSeq read c = some as) : ∀ a ∈ as, P a := by
  obtain ⟨items, -, hitems⟩ := (asSeq_eq_some_iff read c as).mp h
  intro a ha
  obtain ⟨item, -, hitem⟩ := exists_left_of_forall₂ hitems ha
  exact hread item a hitem

theorem forall_of_asMap {P : α → Prop} {read : Content → Option α}
    (hread : ∀ c a, read c = some a → P a) {c : Content} {as : List (String × α)}
    (h : asMap read c = some as) : ∀ a ∈ as, P a.2 := by
  obtain ⟨members, -, hmembers⟩ := (asMap_eq_some_iff read c as).mp h
  intro a ha
  obtain ⟨m, -, -, hm⟩ := exists_left_of_forall₂ hmembers ha
  exact hread m.2 a.2 hm

/-- A list that is written item by item is read back. -/
theorem asSeq_map {read : Content → Option α} {write : α → Content} {as : List α}
    (h : ∀ a ∈ as, read (write a) = some a) : asSeq read (.seq (as.map write)) = some as := by
  refine (asSeq_eq_some_iff read _ as).mpr ⟨_, rfl, ?_⟩
  rw [List.forall₂_map_left_iff, List.forall₂_same]
  exact h

/-- So is a map. -/
theorem asMap_map {read : Content → Option α} {write : α → Content} {as : List (String × α)}
    (h : ∀ a ∈ as, read (write a.2) = some a.2) :
    asMap read (.map (as.map fun a => (a.1, write a.2))) = some as := by
  refine (asMap_eq_some_iff read _ as).mpr ⟨_, rfl, ?_⟩
  rw [List.forall₂_map_left_iff, List.forall₂_same]
  exact fun a ha => ⟨rfl, h a ha⟩

/-! ## Members of an object -/

/-- The values under a name. -/
def values (name : String) (members : List (String × Content)) : List Content :=
  (members.filter fun m => m.1 = name).map Prod.snd

/-- A member without a default. -/
def required (name : String) (read : Content → Option α) (members : List (String × Content)) :
    Option α :=
  match values name members with
  | [v] => read v
  | _ => none

/-- A member that may be left out. -/
def defaulted (name : String) (otherwise : α) (read : Content → Option α)
    (members : List (String × Content)) : Option α :=
  match values name members with
  | [] => some otherwise
  | [v] => read v
  | _ => none

theorem required_eq_some_iff (name : String) (read : Content → Option α)
    (members : List (String × Content)) (a : α) :
    required name read members = some a ↔ ∃ v, values name members = [v] ∧ read v = some a := by
  unfold required
  split
  · rename_i v hv
    simp [hv]
  · rename_i hne
    exact ⟨nofun, fun ⟨v, hv, _⟩ => absurd hv (hne v)⟩

theorem defaulted_eq_some_iff (name : String) (otherwise : α) (read : Content → Option α)
    (members : List (String × Content)) (a : α) :
    defaulted name otherwise read members = some a ↔
      (values name members = [] ∧ a = otherwise) ∨
        ∃ v, values name members = [v] ∧ read v = some a := by
  unfold defaulted
  split
  · rename_i hv
    simp [hv, eq_comm]
  · rename_i v hv
    simp [hv]
  · rename_i hnil hne
    refine ⟨nofun, ?_⟩
    rintro (⟨hv, -⟩ | ⟨v, hv, -⟩)
    · exact absurd hv hnil
    · exact absurd hv (hne v)

end Content

end Lib
