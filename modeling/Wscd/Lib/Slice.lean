import Mathlib.Data.List.GetD

/-!
# Slices

Indexing, slicing and subtraction as a program with checked bounds does them: out of bounds
the program stops. `none` is that stop, so a computation that may stop is one in `Option`,
whatever it returns when it does not; `MayStop` is one that may also fail.

Results:
1. `index_of_lt`, `suffix_of_le`, `range_of_le`, `sub_of_le`: in bounds nothing stops.
2. `drop_add_sub`: what is left after a prefix starts where the lengths say.
3. `Filled.foldlM`: a loop that fills a table from the front fills the rest of it.
4. `Returns.bind`, `returns_inBounds_bind`, `returns_liftExcept_bind`: a computation does
   not stop if its steps do not.
-/

namespace Lib

namespace Slice

variable {α : Type}

/-- `xs[i]` -/
def index (xs : List α) (i : Nat) : Option α := xs[i]?

/-- `&xs[i..]` -/
def suffix (xs : List α) (i : Nat) : Option (List α) :=
  if i ≤ xs.length then some (xs.drop i) else none

/-- `&xs[i..j]` -/
def range (xs : List α) (i j : Nat) : Option (List α) :=
  if i ≤ j ∧ j ≤ xs.length then some ((xs.drop i).take (j - i)) else none

/-- `xs[i] = a` -/
def update (xs : List α) (i : Nat) (a : α) : Option (List α) :=
  if i < xs.length then some (xs.set i a) else none

/-- `m - n` on unsigned numbers -/
def sub (m n : Nat) : Option Nat := if n ≤ m then some (m - n) else none

theorem index_of_lt {xs : List α} {i : Nat} (h : i < xs.length) (a : α) :
    index xs i = some (xs.getD i a) := by
  rw [index, List.getElem?_eq_getElem h, List.getD_eq_getElem _ _ h]

theorem suffix_of_le {xs : List α} {i : Nat} (h : i ≤ xs.length) :
    suffix xs i = some (xs.drop i) := if_pos h

theorem range_of_le {xs : List α} {i j : Nat} (hij : i ≤ j) (hj : j ≤ xs.length) :
    range xs i j = some ((xs.drop i).take (j - i)) := if_pos ⟨hij, hj⟩

theorem update_of_lt {xs : List α} {i : Nat} (h : i < xs.length) (a : α) :
    update xs i a = some (xs.set i a) := if_pos h

theorem sub_of_le {m n : Nat} (h : n ≤ m) : sub m n = some (m - n) := if_pos h

/-- A program that has read a prefix of `xs[i..]` and knows how much is left finds it again. -/
theorem drop_add_sub {xs rest : List α} {i : Nat} (h : rest <:+ xs.drop i) :
    xs.drop (i + ((xs.drop i).length - rest.length)) = rest := by
  obtain ⟨used, hused⟩ := h
  rw [← List.drop_drop, ← hused, List.length_append, Nat.add_sub_cancel, List.drop_left]

/-! ### Tables -/

/-- A table of `n` entries whose first `i` are the values of `f`. -/
structure Filled (f : Nat → α) (n i : Nat) (table : List α) : Prop where
  length_eq : table.length = n
  get : ∀ j < i, table[j]? = some (f j)

namespace Filled

variable {f : Nat → α} {n i : Nat} {table : List α}

theorem replicate (f : Nat → α) (n : Nat) (a : α) : Filled f n 0 (List.replicate n a) :=
  ⟨List.length_replicate, fun _ hj => absurd hj (Nat.not_lt_zero _)⟩

theorem index (h : Filled f n i table) {j : Nat} (hj : j < i) : Slice.index table j = some (f j) :=
  h.get j hj

/-- The next entry is stored. -/
theorem update (h : Filled f n i table) (hi : i < n) :
    ∃ table', Slice.update table i (f i) = some table' ∧ Filled f n (i + 1) table' := by
  have hlt : i < table.length := h.length_eq ▸ hi
  refine ⟨table.set i (f i), update_of_lt hlt _, by rw [List.length_set, h.length_eq], ?_⟩
  intro j hj
  rcases Nat.lt_succ_iff_lt_or_eq.mp hj with hlast | rfl
  · rw [List.getElem?_set_ne (Nat.ne_of_gt hlast), h.get j hlast]
  · rw [List.getElem?_set_self hlt]

theorem eq_map (h : Filled f n n table) : table = (List.range n).map f := by
  refine List.ext_getElem? fun j => ?_
  by_cases hj : j < n
  · rw [h.get j hj, List.getElem?_map, List.getElem?_range hj, Option.map_some]
  · have hout := Nat.le_of_not_lt hj
    rw [List.getElem?_eq_none (h.length_eq ▸ hout),
      List.getElem?_eq_none (by rwa [List.length_map, List.length_range])]

/-- `for i in i..i + m { .. }`, each pass of which stores the next entry. -/
theorem foldlM {pass : List α → Nat → Option (List α)} {m : Nat} (h : Filled f n i table)
    (hm : i + m ≤ n)
    (hpass : ∀ j table, i ≤ j → j < n → Filled f n j table →
      ∃ table', pass table j = some table' ∧ Filled f n (j + 1) table') :
    ∃ table', (List.range' i m).foldlM pass table = some table' ∧
      Filled f n (i + m) table' := by
  induction m generalizing i table with
  | zero => exact ⟨table, rfl, h⟩
  | succ m ih =>
    have hcount : i + 1 + m = i + (m + 1) := Nat.succ_add_eq_add_succ i m
    have hi : i < n := Nat.lt_of_lt_of_le (Nat.lt_add_of_pos_right (Nat.succ_pos m)) hm
    obtain ⟨table', hstored, hfilled⟩ := hpass i table (Nat.le_refl i) hi h
    obtain ⟨last, hlast, hlastFilled⟩ := ih hfilled (hcount ▸ hm)
      fun j t hj => hpass j t (Nat.le_of_succ_le hj)
    refine ⟨last, ?_, hcount ▸ hlastFilled⟩
    rw [List.range'_succ, List.foldlM_cons, hstored]
    exact hlast

end Filled

end Slice

/-! ## Computations that may stop -/

abbrev MayStop (ε α : Type) : Type := ExceptT ε Option α

/-- A step that stops if it is out of bounds. -/
def inBounds {ε α : Type} (o : Option α) : MayStop ε α := ExceptT.lift o

/-- The computation does not stop, and comes to this. -/
def Returns {ε α : Type} (x : MayStop ε α) (r : Except ε α) : Prop := x.run = some r

section

variable {ε α β : Type}

theorem returns_pure (a : α) : Returns (pure a : MayStop ε α) (.ok a) := rfl

theorem returns_throw (e : ε) : Returns (throw e : MayStop ε α) (.error e) := rfl

theorem returns_liftExcept (r : Except ε α) : Returns (liftM r : MayStop ε α) r := by
  cases r <;> rfl

theorem Returns.bind {x : MayStop ε α} {r : Except ε α} {k : α → MayStop ε β}
    {k' : α → Except ε β} (hx : Returns x r) (hk : ∀ a, r = .ok a → Returns (k a) (k' a)) :
    Returns (x >>= k) (r >>= k') := by
  unfold Returns at hx
  cases r with
  | error e =>
    show (ExceptT.run x >>= ExceptT.bindCont k) = _
    rw [hx]
    rfl
  | ok a =>
    show (ExceptT.run x >>= ExceptT.bindCont k) = _
    rw [hx]
    exact hk a rfl

theorem returns_inBounds {o : Option α} {a : α} (h : o = some a) :
    Returns (inBounds o : MayStop ε α) (.ok a) := by
  subst h
  rfl

/-- A step that could stop, and does not. -/
theorem returns_inBounds_bind {o : Option α} {a : α} (h : o = some a) {k : α → MayStop ε β}
    {r : Except ε β} (hk : Returns (k a) r) : Returns (inBounds o >>= k) r := by
  subst h
  exact hk

/-- A step that may fail and cannot stop. -/
theorem returns_liftExcept_bind {r : Except ε α} {k : α → MayStop ε β} {k' : α → Except ε β}
    (hk : ∀ a, r = .ok a → Returns (k a) (k' a)) : Returns (liftM r >>= k) (r >>= k') := by
  cases r with
  | error e => rfl
  | ok a => exact hk a rfl

end

end Lib
