import Mathlib.Data.List.Nodup
import Wscd.Lib.Map

/-!
# Two walks over one map

Two iteration orders list the same entries, each once, so they agree up to a permutation, and
on every map exactly when it has at most one entry. A sort by an order that tells the values
of the map apart forgets which walk it began with.

Results:
1. `entries_perm`, `values_perm`: two walks are permutations of each other.
2. `entries_agree_iff`: all walks over a map agree exactly when it has at most one key.
3. `mergeSort_values_eq`: sorted values are the same for every walk.
-/

namespace Lib

variable {α : Type}

/-- Sorting forgets the order a list was in, if the order is antisymmetric on it. -/
theorem mergeSort_eq_of_perm {le : α → α → Bool} (htrans : ∀ a b c, le a b → le b c → le a c)
    (htotal : ∀ a b, le a b || le b a) {l l' : List α} (hperm : l.Perm l')
    (hanti : ∀ a ∈ l, ∀ b ∈ l, le a b → le b a → a = b) : l.mergeSort le = l'.mergeSort le := by
  have hsame : (l.mergeSort le).Perm (l'.mergeSort le) :=
    (List.mergeSort_perm l le).trans (hperm.trans (List.mergeSort_perm l' le).symm)
  refine hsame.eq_of_pairwise ?_ (List.pairwise_mergeSort htrans htotal l)
    (List.pairwise_mergeSort htrans htotal l')
  intro a b ha hb
  exact hanti a (List.mem_mergeSort.mp ha) b (hperm.mem_iff.mpr (List.mem_mergeSort.mp hb))

/-- A list without repetitions that reads the same backwards has at most one element. -/
theorem length_le_one_of_reverse_eq {l : List α} (hnodup : l.Nodup) (h : l.reverse = l) :
    l.length ≤ 1 := by
  match l with
  | [] | [_] => simp
  | a :: b :: tail =>
    -- the last element is the first
    have hlast : (a :: b :: tail).getLast? = some a := by
      rw [← List.head?_reverse, h]
      rfl
    rw [List.getLast?_cons_cons] at hlast
    exact absurd (List.mem_of_getLast? hlast) (List.nodup_cons.mp hnodup).1

namespace HashMap.IterOrder

variable {K V : Type} [DecidableEq K] (ord ord' : IterOrder K V)

theorem nodup_entries (m : HashMap K V) : (ord.entries m).Nodup := (ord.nodup m).of_map

theorem entries_perm (m : HashMap K V) : (ord.entries m).Perm (ord'.entries m) := by
  refine (List.perm_ext_iff_of_nodup (ord.nodup_entries m) (ord'.nodup_entries m)).mpr ?_
  rintro ⟨k, v⟩
  rw [ord.mem_entries, ord'.mem_entries]

theorem values_perm (m : HashMap K V) : (ord.values m).Perm (ord'.values m) :=
  (entries_perm ord ord' m).map Prod.snd

/-- The same walk backwards. -/
def reversed : IterOrder K V where
  entries m := (ord.entries m).reverse
  nodup m := by
    rw [List.map_reverse]
    exact List.nodup_reverse.mpr (ord.nodup m)
  mem_entries m k v := by
    rw [List.mem_reverse]
    exact ord.mem_entries m k v

theorem length_entries (m : HashMap K V) : (ord.entries m).length = m.keys.card := by
  have hkeys : (ord.keys m).toFinset = m.keys := by
    ext k
    rw [List.mem_toFinset, ord.mem_keys, mem_keys_iff]
  rw [← hkeys, keys, List.toFinset_card_of_nodup (ord.nodup m), List.length_map]

theorem entries_eq_of_card_le_one {m : HashMap K V} (h : m.keys.card ≤ 1) :
    ord.entries m = ord'.entries m := by
  have hperm := entries_perm ord ord' m
  rw [← ord.length_entries] at h
  match hentries : ord.entries m with
  | [] =>
    rw [hentries] at hperm
    exact (List.nil_perm.mp hperm).symm
  | [e] =>
    rw [hentries] at hperm
    exact List.singleton_perm.mp hperm
  | _ :: _ :: _ =>
    rw [hentries] at h
    simp at h

/-- A map is walked in one way only if there is at most one entry to walk. -/
theorem entries_agree_iff (m : HashMap K V) :
    (∀ ord' : IterOrder K V, ord.entries m = ord'.entries m) ↔ m.keys.card ≤ 1 := by
  constructor
  · intro h
    rw [← ord.length_entries]
    exact length_le_one_of_reverse_eq (ord.nodup_entries m) (h ord.reversed).symm
  · intro h ord'
    exact entries_eq_of_card_le_one ord ord' h

/-- Sorted by an order that tells the values apart, every walk is the same. -/
theorem mergeSort_values_eq {le : V → V → Bool} (htrans : ∀ a b c, le a b → le b c → le a c)
    (htotal : ∀ a b, le a b || le b a) {m : HashMap K V}
    (hanti : ∀ k k' v v', m.lookup k = some v → m.lookup k' = some v' → le v v' → le v' v →
      v = v') :
    (ord.values m).mergeSort le = (ord'.values m).mergeSort le := by
  refine mergeSort_eq_of_perm htrans htotal (values_perm ord ord' m) ?_
  intro v hv v' hv'
  obtain ⟨k, hk⟩ := (ord.mem_values m v).mp hv
  obtain ⟨k', hk'⟩ := (ord.mem_values m v').mp hv'
  exact hanti k k' v v' hk hk'

end HashMap.IterOrder

end Lib
