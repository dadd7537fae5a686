import Mathlib.Algebra.BigOperators.Group.List.Basic
import Mathlib.Algebra.GroupWithZero.Nat
import Mathlib.Data.Finset.Card
import Mathlib.Order.Interval.Finset.Nat
import Mathlib.Order.Lattice

/-
This file gives the blocks into which a length is cut, all of one size but the last.
-/

namespace DiskServer.Library.Blocks

/-- The number of blocks of a positive length. -/
def count (length size : Nat) : Nat := (length - 1) / size + 1

def start (size index : Nat) : Nat := index * size

/-- The length of one block. -/
def width (length size index : Nat) : Nat := min size (length - start size index)

variable {length size index : Nat}

theorem start_lt (positive : 0 < length) (counted : index < count length size) :
    start size index < length := by
  have quotient : index ≤ (length - 1) / size := Nat.lt_succ_iff.mp counted
  have bound := Nat.mul_le_of_le_div _ _ _ quotient
  unfold start
  omega

/-- Every counted block has an item. -/
theorem width_pos (positive : 0 < length) (wide : 0 < size) (counted : index < count length size) :
    0 < width length size index := by
  have inside := start_lt positive counted
  unfold width
  omega

theorem width_le : width length size index ≤ size := Nat.min_le_left _ _

theorem start_add_width (positive : 0 < length) (counted : index < count length size) :
    start size index + width length size index = min (start size (index + 1)) length := by
  have inside := start_lt positive counted
  have next : start size (index + 1) = start size index + size := Nat.succ_mul _ _
  unfold width
  omega

theorem le_start_count (wide : 0 < size) : length ≤ start size (count length size) := by
  have division := Nat.div_add_mod (length - 1) size
  have small := Nat.mod_lt (length - 1) wide
  have next : start size (count length size) = (length - 1) / size * size + size := Nat.succ_mul _ _
  have order : (length - 1) / size * size = size * ((length - 1) / size) := Nat.mul_comm _ _
  omega

/-- The first blocks reach to the start of the next one. -/
theorem sum_width_range (positive : 0 < length) {blocks : Nat} (counted : blocks ≤ count length size) :
    ((List.range blocks).map (width length size)).sum = min (start size blocks) length := by
  induction blocks with
  | zero => simp [start]
  | succ blocks continues =>
      have inside := start_lt positive (Nat.lt_of_succ_le counted)
      have last := start_add_width positive (Nat.lt_of_succ_le counted)
      rw [List.range_succ, List.map_append, List.sum_append, continues (Nat.le_of_succ_le counted),
        List.map_singleton, List.sum_singleton, Nat.min_eq_left (Nat.le_of_lt inside)]
      exact last

/-- The blocks cover the whole length. -/
theorem sum_width (positive : 0 < length) (wide : 0 < size) :
    ((List.range (count length size)).map (width length size)).sum = length := by
  rw [sum_width_range positive le_rfl]
  exact Nat.min_eq_right (le_start_count wide)

/-- The positions of the first blocks are the positions before the next one. -/
theorem flatMap_range' (positive : 0 < length) {blocks : Nat} (counted : blocks ≤ count length size) :
    (List.range blocks).flatMap (fun index => List.range' (start size index) (width length size index)) =
      List.range (min (start size blocks) length) := by
  induction blocks with
  | zero => simp [start]
  | succ blocks continues =>
      have inside := start_lt positive (Nat.lt_of_succ_le counted)
      have last := start_add_width positive (Nat.lt_of_succ_le counted)
      rw [List.range_succ, List.flatMap_append, continues (Nat.le_of_succ_le counted),
        List.flatMap_singleton, Nat.min_eq_left (Nat.le_of_lt inside), List.range_eq_range',
        List.range_eq_range', ← last]
      have joined := @List.range'_append 0 (start size blocks) (width length size blocks) 1
      rw [Nat.one_mul, Nat.zero_add] at joined
      exact joined

/-- The blocks are consecutive and hold every position of the length once. -/
theorem flatMap_range'_count (positive : 0 < length) (wide : 0 < size) :
    (List.range (count length size)).flatMap
      (fun index => List.range' (start size index) (width length size index)) = List.range length := by
  rw [flatMap_range' positive le_rfl, Nat.min_eq_right (le_start_count wide)]

theorem foldl_max_le_iff {Item : Type*} (value : Item → Int) {items : List Item} {first bound : Int} :
    items.foldl (fun largest item => max largest (value item)) first ≤ bound ↔
      first ≤ bound ∧ ∀ item ∈ items, value item ≤ bound := by
  induction items generalizing first with
  | nil => simp
  | cons item rest continues =>
      rw [List.foldl_cons, continues, max_le_iff, List.forall_mem_cons, and_assoc]

/-- Distinct indices are all the indices below a bound when their number and the largest one say so. -/
theorem complete_iff {indices : List Nat} (distinct : indices.Nodup) {bound : Nat} :
    (indices.length = bound ∧ (∀ index ∈ indices, index < bound)) ↔
      ∀ index, index ∈ indices ↔ index < bound := by
  constructor
  · rintro ⟨counted, below⟩
    have inside : indices.toFinset ⊆ Finset.range bound := by
      intro index listed
      exact Finset.mem_range.mpr (below index (List.mem_toFinset.mp listed))
    have card : (Finset.range bound).card ≤ indices.toFinset.card := by
      rw [Finset.card_range, List.toFinset_card_of_nodup distinct, counted]
    have same := Finset.eq_of_subset_of_card_le inside card
    intro index
    rw [← List.mem_toFinset, same, Finset.mem_range]
  · intro full
    have same : indices.toFinset = Finset.range bound := by
      ext index
      rw [List.mem_toFinset, full index, Finset.mem_range]
    refine ⟨?_, fun index listed => (full index).mp listed⟩
    rw [← List.toFinset_card_of_nodup distinct, same, Finset.card_range]

end DiskServer.Library.Blocks
