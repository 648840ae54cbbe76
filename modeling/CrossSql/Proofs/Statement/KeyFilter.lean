import CrossSql.Proofs.Predicate.Clauses
import CrossSql.Statement.Delete
import Mathlib.Data.List.Forall2

/-!
# Filters for lists of keys

A list of keys is cut into pieces, and every piece is compared with the key by a list of its own.
Cutting loses no key and keeps the order, leaves no piece empty and none too long.

## Main definitions

* `flatten_chunks`, `mem_chunks`, `chunks_of_length_le`: the pieces of a list.
* `keyFilter_spec`: the comparisons of the filter for a list of keys.
-/

namespace CrossSql

variable {α : Type} {size : Nat}

/-! ## Pieces of lists -/

theorem flatten_chunksOf (size : Nat) (xs : List α) : (chunksOf size xs).flatten = xs := by
  fun_induction chunksOf size xs with
  | case1 => rfl
  | case2 x xs ih => rw [List.flatten_cons, ih, List.cons_append, List.take_append_drop]

/-- The pieces of a list make up the list. -/
theorem flatten_chunks (size : Nat) (xs : List α) : (chunks size xs).flatten = xs :=
  flatten_chunksOf _ xs

theorem mem_chunksOf {xs piece : List α} (h : piece ∈ chunksOf size xs) :
    piece ≠ [] ∧ piece.length ≤ size + 1 := by
  fun_induction chunksOf size xs with
  | case1 => cases h
  | case2 x xs ih =>
    rcases List.mem_cons.1 h with rfl | h
    · refine ⟨List.cons_ne_nil _ _, ?_⟩
      have := List.length_take_le size xs
      rw [List.length_cons]
      omega
    · exact ih h

/-- No piece is empty, and none is longer than the size. -/
theorem mem_chunks {xs piece : List α} (hs : 0 < size) (h : piece ∈ chunks size xs) :
    piece ≠ [] ∧ piece.length ≤ size := by
  obtain ⟨hne, bound⟩ := mem_chunksOf h
  exact ⟨hne, by omega⟩

/-- A list that is not too long is its only piece. -/
theorem chunks_of_length_le {xs : List α} (hx : xs ≠ []) (h : xs.length ≤ size) :
    chunks size xs = [xs] := by
  obtain ⟨x, xs, rfl⟩ := List.exists_cons_of_ne_nil hx
  rw [List.length_cons] at h
  have rest : xs.length ≤ size - 1 := by omega
  rw [chunks, chunksOf, List.take_of_length_le rest, List.drop_of_length_le rest, chunksOf]

/-- Lists of one length have pieces of the same lengths. -/
theorem forall₂_length_chunksOf (size : Nat) {xs ys : List α} (h : xs.length = ys.length) :
    List.Forall₂ (fun a b => a.length = b.length) (chunksOf size xs) (chunksOf size ys) := by
  fun_induction chunksOf size xs generalizing ys with
  | case1 =>
    obtain rfl := List.length_eq_zero_iff.1 h.symm
    rw [chunksOf]
    exact .nil
  | case2 x xs ih =>
    obtain ⟨y, ys, rfl⟩ := List.exists_cons_of_length_eq_add_one h.symm
    have rest : xs.length = ys.length := by simpa using h
    rw [chunksOf]
    exact .cons (by simp [rest]) (ih (by simp [rest]))

theorem forall₂_length_chunks (size : Nat) {xs ys : List α} (h : xs.length = ys.length) :
    List.Forall₂ (fun a b => a.length = b.length) (chunks size xs) (chunks size ys) :=
  forall₂_length_chunksOf _ h

/-! ## The comparisons of a filter -/

/-- The comparison of a key with a list of values. -/
def Comparison.keyIn (key : Field) (values : List Value) : Comparison := ⟨key, .isIn, .list values⟩

/-- The filter for a list of keys compares the key with pieces of the list, which make up the list.
None of them is empty, or longer than the limit. -/
theorem keyFilter_spec (key : Field) (keys : List Value) (maxSize : Nat) :
    ∃ pieces : List (List Value),
      (keyFilter key keys maxSize).comparisons = pieces.map (Comparison.keyIn key) ∧
      pieces.flatten = keys ∧
      ∀ piece ∈ pieces, piece ≠ [] ∧ (maxSize ≠ 0 → piece.length ≤ maxSize) := by
  refine ⟨chunks (if maxSize = 0 then max keys.length 1 else maxSize) keys,
    List.append_nil _, flatten_chunks _ keys, fun piece hp => ?_⟩
  by_cases hm : maxSize = 0
  · rw [if_pos hm] at hp
    exact ⟨(mem_chunks (by omega) hp).1, absurd hm⟩
  · rw [if_neg hm] at hp
    obtain ⟨hne, bound⟩ := mem_chunks (by omega) hp
    exact ⟨hne, fun _ => bound⟩

/-- The comparisons of the filter bind the keys in order. -/
theorem operands_keyFilter (key : Field) (keys : List Value) (maxSize : Nat) :
    (keyFilter key keys maxSize).comparisons.flatMap Comparison.operands = keys := by
  obtain ⟨pieces, comparisons, flat, -⟩ := keyFilter_spec key keys maxSize
  rw [comparisons, List.flatMap_map]
  exact List.flatMap_id'.trans flat

/-- A filter for keys that are there is not empty. -/
theorem keyFilter_isEmpty {key : Field} {keys : List Value} (h : keys ≠ []) (maxSize : Nat) :
    (keyFilter key keys maxSize).isEmpty = false := by
  rw [Bool.eq_false_iff, ne_eq, Predicate.isEmpty_iff]
  intro hnil
  have bound := operands_keyFilter key keys maxSize
  rw [hnil] at bound
  exact h bound.symm

/-- Keys that fit into one list are compared with that list. -/
theorem keyFilter_of_length_le {key : Field} {keys : List Value} {maxSize : Nat} (h : keys ≠ [])
    (hm : keys.length ≤ maxSize) :
    keyFilter key keys maxSize = .any [Comparison.keyIn key keys] := by
  have hne : keys.length ≠ 0 := by simpa using h
  rw [keyFilter, if_neg (by omega), chunks_of_length_le h hm]
  rfl

end CrossSql
