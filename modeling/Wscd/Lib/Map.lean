import Mathlib.Data.Finmap
import Mathlib.Data.Finset.Sort
import Mathlib.Data.String.Basic

/-!
# Hash maps and the order they are walked in

`HashMap K V` is a hash map without its iteration order: two maps with the same
lookups are equal. Mathlib's `Finmap` is that type. A program that walks a hash
map sees its entries in an order the hasher picked, so every function that walks
one takes an `IterOrder`, and a statement over all of them holds for any order.

Results:
1. `lookup_insert_eq_ite`, `lookup_erase_eq_ite`: what one update does to every key
   at once.
2. `erase_insert`: erasing a key forgets what was inserted under it.
3. `lookup_eraseAll`, `eraseAll_cons`: erasing a list of keys.
4. `lookup_insertNew_eq_ite`, `lookup_ofListFirst`: filling a map from a list, the
   first entry for a key winning.
5. `lookup_collect`, `collect_entries`: filling a map from a list of entries, the last one
   winning, and from its own entries.
-/

namespace Lib

/-- A hash map, up to the order its entries are walked in. -/
abbrev HashMap (K V : Type) : Type := Finmap fun _ : K => V

namespace HashMap

variable {K V : Type} [DecidableEq K]

/-! ## One update -/

theorem lookup_insert_eq_ite (m : HashMap K V) (k k' : K) (v : V) :
    (Finmap.insert k v m).lookup k' = if k' = k then some v else m.lookup k' := by
  by_cases h : k' = k
  · subst h
    rw [Finmap.lookup_insert, if_pos rfl]
  · rw [Finmap.lookup_insert_of_ne m h, if_neg h]

theorem lookup_erase_eq_ite (m : HashMap K V) (k k' : K) :
    (Finmap.erase k m).lookup k' = if k' = k then none else m.lookup k' := by
  by_cases h : k' = k
  · subst h
    rw [Finmap.lookup_erase, if_pos rfl]
  · rw [Finmap.lookup_erase_ne h, if_neg h]

theorem mem_keys_iff (m : HashMap K V) (k : K) : k ∈ m.keys ↔ m.lookup k ≠ none := by
  rw [Finmap.mem_keys, ← Finmap.lookup_isSome, Option.isSome_iff_ne_none]

/-- Erasing a key forgets what was inserted under it. -/
theorem erase_insert (m : HashMap K V) (k : K) (v : V) :
    Finmap.erase k (Finmap.insert k v m) = Finmap.erase k m := by
  refine Finmap.ext_lookup fun k' => ?_
  rw [lookup_erase_eq_ite, lookup_erase_eq_ite]
  by_cases hk : k' = k
  · rw [if_pos hk, if_pos hk]
  · rw [if_neg hk, if_neg hk, lookup_insert_eq_ite, if_neg hk]

/-! ## Erasing a list of keys -/

/-- `for k in ks { m.remove(k) }` -/
def eraseAll (ks : List K) (m : HashMap K V) : HashMap K V :=
  ks.foldl (fun m k => Finmap.erase k m) m

theorem eraseAll_cons (k : K) (ks : List K) (m : HashMap K V) :
    eraseAll (k :: ks) m = eraseAll ks (Finmap.erase k m) := rfl

theorem lookup_eraseAll (ks : List K) (m : HashMap K V) (k : K) :
    (eraseAll ks m).lookup k = if k ∈ ks then none else m.lookup k := by
  induction ks generalizing m with
  | nil => simp [eraseAll]
  | cons hd tl ih =>
    rw [eraseAll_cons, ih, lookup_erase_eq_ite]
    by_cases htl : k ∈ tl <;> by_cases hhd : k = hd <;> simp [htl, hhd]

theorem eraseAll_append (ks ls : List K) (m : HashMap K V) :
    eraseAll (ks ++ ls) m = eraseAll ls (eraseAll ks m) :=
  List.foldl_append

/-! ## Filling a map from a list -/

/-- `m.entry(k).or_insert(v)` -/
def insertNew (k : K) (v : V) (m : HashMap K V) : HashMap K V :=
  match m.lookup k with
  | some _ => m
  | none => Finmap.insert k v m

theorem lookup_insertNew_eq_ite (m : HashMap K V) (k k' : K) (v : V) :
    (insertNew k v m).lookup k' = if k' = k then some ((m.lookup k).getD v) else m.lookup k' := by
  unfold insertNew
  cases h : m.lookup k with
  | some w =>
    by_cases hk : k' = k
    · subst hk
      simp [h]
    · simp [hk]
  | none => simpa [h] using lookup_insert_eq_ite m k k' v

/-- The map a list of records fills, the first record for a key winning. -/
def ofListFirst (key : V → K) (vs : List V) : HashMap K V :=
  vs.foldl (fun m v => insertNew (key v) v m) ∅

/-- The map a list of records fills, the last record for a key winning. -/
def ofListLast (key : V → K) (vs : List V) : HashMap K V :=
  vs.foldl (fun m v => Finmap.insert (key v) v m) ∅

theorem lookup_foldl_insertNew (key : V → K) (vs : List V) (m : HashMap K V) (k : K) :
    (vs.foldl (fun m v => insertNew (key v) v m) m).lookup k =
      (m.lookup k).or (vs.find? fun v => key v = k) := by
  induction vs generalizing m with
  | nil => simp
  | cons v vs ih =>
    rw [List.foldl_cons, ih, lookup_insertNew_eq_ite, List.find?_cons]
    by_cases hk : k = key v
    · subst hk
      cases m.lookup (key v) <;> simp
    · have hk' : ¬ key v = k := fun h => hk h.symm
      simp [hk, hk']

theorem lookup_ofListFirst (key : V → K) (vs : List V) (k : K) :
    (ofListFirst key vs).lookup k = vs.find? fun v => key v = k := by
  rw [ofListFirst, lookup_foldl_insertNew]
  simp

theorem lookup_foldl_insert (key : V → K) (vs : List V) (m : HashMap K V) (k : K) :
    (vs.foldl (fun m v => Finmap.insert (key v) v m) m).lookup k =
      (vs.reverse.find? fun v => key v = k).or (m.lookup k) := by
  induction vs generalizing m with
  | nil => simp
  | cons v vs ih =>
    rw [List.foldl_cons, ih, lookup_insert_eq_ite, List.reverse_cons, List.find?_append]
    by_cases hk : k = key v
    · subst hk
      cases vs.reverse.find? fun w => key w = key v <;> simp
    · have hk' : ¬ key v = k := fun h => hk h.symm
      cases vs.reverse.find? fun w => key w = k <;> simp [hk, hk']

theorem lookup_ofListLast (key : V → K) (vs : List V) (k : K) :
    (ofListLast key vs).lookup k = vs.reverse.find? fun v => key v = k := by
  rw [ofListLast, lookup_foldl_insert]
  simp

/-- `kvs.into_iter().collect()`, the last entry for a key winning. -/
def collect (kvs : List (K × V)) : HashMap K V :=
  kvs.foldl (fun m e => Finmap.insert e.1 e.2 m) ∅

theorem lookup_collect (kvs : List (K × V)) (k : K) :
    (collect kvs).lookup k = ((kvs.filter fun e => e.1 = k).map Prod.snd).getLast? := by
  unfold collect
  induction kvs using List.reverseRecOn with
  | nil => rfl
  | append_singleton kvs e ih =>
    rw [List.foldl_append, List.foldl_cons, List.foldl_nil, lookup_insert_eq_ite, ih,
      List.filter_append]
    by_cases h : e.1 = k
    · simp [h]
    · simp [h, Ne.symm h]

/-- Looking a key up among the records of a map. -/
theorem find?_eq_lookup {key : V → K} {m : HashMap K V} {vs : List V}
    (hmem : ∀ v, v ∈ vs ↔ ∃ k, m.lookup k = some v)
    (hkey : ∀ k v, m.lookup k = some v → key v = k) (k : K) :
    (vs.find? fun v => key v = k) = m.lookup k := by
  cases hfind : vs.find? fun v => key v = k with
  | some v =>
    have hk : key v = k := by simpa using List.find?_some hfind
    obtain ⟨k', hk'⟩ := (hmem v).mp (List.mem_of_find?_eq_some hfind)
    rw [← hk, hkey k' v hk', hk']
  | none =>
    refine Eq.symm (Option.eq_none_iff_forall_ne_some.mpr fun v hv => ?_)
    have hnone := List.find?_eq_none.mp hfind v ((hmem v).mpr ⟨k, hv⟩)
    simp [hkey k v hv] at hnone

/-- Filing the records of a map anew gives the map back, in whatever order they come. -/
theorem ofListFirst_of_mem_iff {key : V → K} {m : HashMap K V} {vs : List V}
    (hmem : ∀ v, v ∈ vs ↔ ∃ k, m.lookup k = some v)
    (hkey : ∀ k v, m.lookup k = some v → key v = k) : ofListFirst key vs = m := by
  refine Finmap.ext_lookup fun k => ?_
  rw [lookup_ofListFirst]
  exact find?_eq_lookup hmem hkey k

theorem ofListLast_of_mem_iff {key : V → K} {m : HashMap K V} {vs : List V}
    (hmem : ∀ v, v ∈ vs ↔ ∃ k, m.lookup k = some v)
    (hkey : ∀ k v, m.lookup k = some v → key v = k) : ofListLast key vs = m := by
  refine Finmap.ext_lookup fun k => ?_
  rw [lookup_ofListLast]
  exact find?_eq_lookup (fun v => List.mem_reverse.trans (hmem v)) hkey k

/-! ## Walking a map -/

/-- An iteration order: a way to list the entries of every map, each once. -/
structure IterOrder (K V : Type) [DecidableEq K] where
  entries : HashMap K V → List (K × V)
  nodup : ∀ m, ((entries m).map Prod.fst).Nodup
  mem_entries : ∀ m k v, (k, v) ∈ entries m ↔ m.lookup k = some v

namespace IterOrder

variable (ord : IterOrder K V)

/-- `m.keys()` -/
def keys (m : HashMap K V) : List K := (ord.entries m).map Prod.fst

/-- `m.values()` -/
def values (m : HashMap K V) : List V := (ord.entries m).map Prod.snd

theorem mem_keys (m : HashMap K V) (k : K) : k ∈ ord.keys m ↔ m.lookup k ≠ none := by
  unfold keys
  rw [List.mem_map]
  constructor
  · rintro ⟨⟨k', v⟩, hmem, rfl⟩
    rw [(ord.mem_entries m k' v).mp hmem]
    exact Option.some_ne_none v
  · intro h
    obtain ⟨v, hv⟩ := Option.ne_none_iff_exists'.mp h
    exact ⟨(k, v), (ord.mem_entries m k v).mpr hv, rfl⟩

theorem mem_values (m : HashMap K V) (v : V) : v ∈ ord.values m ↔ ∃ k, m.lookup k = some v := by
  unfold values
  rw [List.mem_map]
  constructor
  · rintro ⟨⟨k, v'⟩, hmem, rfl⟩
    exact ⟨k, (ord.mem_entries m k v').mp hmem⟩
  · rintro ⟨k, hk⟩
    exact ⟨(k, v), (ord.mem_entries m k v).mpr hk, rfl⟩

/-- Where every value knows its key, a walk comes to the value of a key once. -/
theorem filter_values_of_keyed {name : V → K} {m : HashMap K V}
    (hkeyed : ∀ k v, m.lookup k = some v → name v = k) (k : K) :
    (ord.values m).filter (fun v => name v = k) = (m.lookup k).toList := by
  have hname : ∀ entry ∈ ord.entries m, name entry.2 = entry.1 := fun entry hentry =>
    hkeyed entry.1 entry.2 ((ord.mem_entries m entry.1 entry.2).mp hentry)
  have hmem (entry : K × V) : entry ∈ (ord.entries m).filter (fun e => name e.2 = k) ↔
      entry ∈ (m.lookup k).toList.map (Prod.mk k) := by
    rw [List.mem_filter, decide_eq_true_eq, List.mem_map]
    simp only [Option.mem_toList]
    constructor
    · rintro ⟨hentry, rfl⟩
      rw [hname entry hentry]
      exact ⟨entry.2, (ord.mem_entries m _ _).mp hentry, rfl⟩
    · rintro ⟨v, hv, rfl⟩
      exact ⟨(ord.mem_entries m k v).mpr hv, hkeyed k v hv⟩
  have hperm : ((ord.entries m).filter fun e => name e.2 = k).Perm
      ((m.lookup k).toList.map (Prod.mk k)) := by
    refine (List.perm_ext_iff_of_nodup ((ord.nodup m).of_map.filter _) ?_).mpr hmem
    cases m.lookup k with
    | none => exact List.nodup_nil
    | some v => exact List.nodup_singleton _
  rw [values, List.filter_map]
  cases hlookup : m.lookup k with
  | none =>
    rw [hlookup] at hperm
    exact congrArg (List.map Prod.snd) (List.perm_nil.mp hperm)
  | some v =>
    rw [hlookup] at hperm
    exact congrArg (List.map Prod.snd) (List.perm_singleton.mp hperm)

/-- A walk over a map of one entry. -/
theorem values_insert_empty (k : K) (v : V) : ord.values (Finmap.insert k v ∅) = [v] := by
  have hmem (entry : K × V) : entry ∈ ord.entries (Finmap.insert k v ∅) ↔ entry = (k, v) := by
    rcases entry with ⟨k', v'⟩
    rw [ord.mem_entries, lookup_insert_eq_ite, Finmap.lookup_empty]
    by_cases h : k' = k
    · simp [h, eq_comm]
    · simp [h]
  have hnodup := (ord.nodup (Finmap.insert k v ∅)).of_map
  have hentries : ord.entries (Finmap.insert k v ∅) = [(k, v)] := by
    refine List.perm_singleton.mp ((List.perm_ext_iff_of_nodup hnodup (List.nodup_singleton _)).mpr
      fun entry => ?_)
    rw [hmem, List.mem_singleton]
  rw [values, hentries]
  rfl

/-- Collecting the entries of a map gives the map back. -/
theorem collect_entries (m : HashMap K V) : collect (ord.entries m) = m := by
  refine Finmap.ext_lookup fun k => ?_
  rw [lookup_collect]
  cases hlast : (((ord.entries m).filter fun e => e.1 = k).map Prod.snd).getLast? with
  | some v =>
    obtain ⟨e, he, rfl⟩ := List.mem_map.mp (List.mem_of_getLast? hlast)
    obtain ⟨hmem, hk⟩ := List.mem_filter.mp he
    rw [← of_decide_eq_true hk, (ord.mem_entries m e.1 e.2).mp hmem]
  | none =>
    refine Eq.symm (Option.eq_none_iff_forall_ne_some.mpr fun v hv => ?_)
    have hnil := List.map_eq_nil_iff.mp (List.getLast?_eq_none_iff.mp hlast)
    have hmem := List.filter_eq_nil_iff.mp hnil (k, v) ((ord.mem_entries m k v).mpr hv)
    simp at hmem

/-- Walking a map in the order of its keys. -/
def sorted [LinearOrder K] : IterOrder K V where
  entries m := m.keys.sort.filterMap fun k => (m.lookup k).map fun v => (k, v)
  nodup m := by
    rw [List.map_filterMap]
    refine (m.keys.sort_nodup (· ≤ ·)).filterMap fun k k' b hb hb' => ?_
    simp only [Option.mem_def, Option.map_map, Option.map_eq_some_iff] at hb hb'
    obtain ⟨v, -, rfl⟩ := hb
    obtain ⟨v', -, h⟩ := hb'
    exact h.symm
  mem_entries m k v := by
    rw [List.mem_filterMap]
    constructor
    · rintro ⟨k', -, h⟩
      obtain ⟨v', hv', heq⟩ := Option.map_eq_some_iff.mp h
      cases heq
      exact hv'
    · intro h
      refine ⟨k, ?_, by rw [h, Option.map_some]⟩
      rw [Finset.mem_sort, mem_keys_iff, h]
      exact Option.some_ne_none v

end IterOrder

end HashMap

end Lib
