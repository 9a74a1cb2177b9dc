/-
This file holds records that keep their fields in order, each at the first multiple of its own size.
-/

import Mathlib.Data.List.Pairwise
import Mathlib.Tactic.Common

namespace Packing

/-- The first multiple of the size that is not before the offset. -/
def alignUp (offset size : Nat) : Nat := (offset + size - 1) / size * size

section Align

theorem alignUp_dvd (offset size : Nat) : size ∣ alignUp offset size := Nat.dvd_mul_left _ _

theorem alignUp_bounds (offset : Nat) {size : Nat} (positive : 0 < size) :
    offset ≤ alignUp offset size ∧ alignUp offset size < offset + size := by
  have parts := Nat.div_add_mod (offset + size - 1) size
  have small := Nat.mod_lt (offset + size - 1) positive
  rw [alignUp, Nat.mul_comm]
  omega

variable {offset size : Nat}

/-- Only one multiple of the size lies in a span of that length. -/
theorem eq_alignUp {start : Nat} (divides : size ∣ start) (after : offset ≤ start)
    (before : start < offset + size) : start = alignUp offset size := by
  have positive : 0 < size := by omega
  obtain ⟨low, high⟩ := alignUp_bounds offset positive
  obtain ⟨count, rfl⟩ := divides
  obtain ⟨other, same⟩ := alignUp_dvd offset size
  rw [same] at low high ⊢
  have upper : count < other + 1 := by
    apply Nat.lt_of_mul_lt_mul_left (a := size)
    rw [Nat.mul_add, Nat.mul_one]
    omega
  have lower : other < count + 1 := by
    apply Nat.lt_of_mul_lt_mul_left (a := size)
    rw [Nat.mul_add, Nat.mul_one]
    omega
  rw [show count = other by omega]

/-- The padding before a field is the remainder of the negated offset. -/
theorem add_pad (positive : 0 < size) :
    offset + ((-(offset : Int)) % (size : Int)).toNat = alignUp offset size := by
  have low := Int.emod_nonneg (-(offset : Int)) (b := size) (by omega)
  have high := Int.emod_lt_of_pos (-(offset : Int)) (b := size) (by omega)
  have parts := Int.mul_ediv_add_emod (-(offset : Int)) size
  apply eq_alignUp
  · apply Int.natCast_dvd_natCast.mp
    refine ⟨-(-(offset : Int) / size), ?_⟩
    rw [Int.mul_neg]
    omega
  · omega
  · omega

end Align

variable {α : Type} (size : α → Nat)

/-- The fields with their offsets. -/
def pack (offset : Nat) : List α → List (α × Nat)
  | [] => []
  | field :: rest =>
      (field, alignUp offset (size field)) :: pack (alignUp offset (size field) + size field) rest

/-- The end of the last field. -/
def finish (offset : Nat) : List α → Nat
  | [] => offset
  | field :: rest => finish (alignUp offset (size field) + size field) rest

variable {offset : Nat} {fields : List α}

theorem pack_fields (offset : Nat) (fields : List α) : (pack size offset fields).map Prod.fst = fields := by
  induction fields generalizing offset with
  | nil => rfl
  | cons field rest inductionHypothesis => rw [pack, List.map_cons, inductionHypothesis]

variable {size}

theorem pack_aligned : ∀ entry ∈ pack size offset fields, size entry.1 ∣ entry.2 := by
  induction fields generalizing offset with
  | nil => exact fun entry member => nomatch member
  | cons field rest inductionHypothesis =>
      intro entry member
      rcases List.mem_cons.mp member with rfl | member
      · exact alignUp_dvd _ _
      · exact inductionHypothesis entry member

theorem le_finish (positive : ∀ field, 0 < size field) (offset : Nat) : offset ≤ finish size offset fields := by
  induction fields generalizing offset with
  | nil => exact Nat.le_refl _
  | cons field rest inductionHypothesis =>
      have low := (alignUp_bounds offset (positive field)).1
      have more := inductionHypothesis (alignUp offset (size field) + size field)
      rw [finish]
      omega

/-- Each field lies between the first offset and the end. -/
theorem pack_bounded (positive : ∀ field, 0 < size field) : ∀ entry ∈ pack size offset fields,
    offset ≤ entry.2 ∧ entry.2 + size entry.1 ≤ finish size offset fields := by
  induction fields generalizing offset with
  | nil => exact fun entry member => nomatch member
  | cons field rest inductionHypothesis =>
      have low := (alignUp_bounds offset (positive field)).1
      intro entry member
      rcases List.mem_cons.mp member with rfl | member
      · exact ⟨low, le_finish positive _⟩
      · obtain ⟨after, inside⟩ := inductionHypothesis entry member
        exact ⟨by omega, inside⟩

/-- Each field ends before the next ones begin. -/
theorem pack_disjoint (positive : ∀ field, 0 < size field) :
    (pack size offset fields).Pairwise fun first second => first.2 + size first.1 ≤ second.2 := by
  induction fields generalizing offset with
  | nil => exact List.Pairwise.nil
  | cons field rest inductionHypothesis =>
      apply List.pairwise_cons.mpr
      constructor
      · intro entry member
        exact (pack_bounded positive entry member).1
      · exact inductionHypothesis

/-- Two fields of a record do not overlap. -/
theorem pack_apart (positive : ∀ field, 0 < size field) {first second : α × Nat}
    (one : first ∈ pack size offset fields) (two : second ∈ pack size offset fields)
    (different : first ≠ second) :
    first.2 + size first.1 ≤ second.2 ∨ second.2 + size second.1 ≤ first.2 := by
  let Apart (first second : α × Nat) : Prop :=
    first.2 + size first.1 ≤ second.2 ∨ second.2 + size second.1 ≤ first.2
  have symmetric : Std.Symm Apart := ⟨fun _ _ => Or.symm⟩
  have apart : (pack size offset fields).Pairwise Apart := (pack_disjoint positive).imp Or.inl
  exact apart.forall one two different

/-- Fields of bounded size leave a bounded end. -/
theorem finish_le {bound : Nat} (positive : ∀ field, 0 < size field)
    (bounded : ∀ field, size field ≤ bound) (offset : Nat) (fields : List α) :
    finish size offset fields ≤ offset + 2 * bound * fields.length := by
  induction fields generalizing offset with
  | nil => exact Nat.le_add_right _ _
  | cons field rest inductionHypothesis =>
      have high := (alignUp_bounds offset (positive field)).2
      have small := bounded field
      have more := inductionHypothesis (alignUp offset (size field) + size field)
      rw [finish, List.length_cons, Nat.mul_add, Nat.mul_one]
      omega

end Packing
