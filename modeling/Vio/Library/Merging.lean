/-
This file holds the merge of two lists by a key: its order, and what it keeps of each list.
-/

import Mathlib.Data.List.Basic
import Mathlib.Order.Lattice

namespace Merging
variable {A K : Type*}

/-- A merge takes both lists apart again: each one comes through in its own order. -/
theorem filter_merge {before : A → A → Bool} {ofFirst : A → Bool} {first second : List A}
    (left : ∀ entry ∈ first, ofFirst entry = true) (right : ∀ entry ∈ second, ofFirst entry = false) :
    (first.merge second before).filter ofFirst = first ∧
      (first.merge second before).filter (fun entry => !ofFirst entry) = second := by
  induction first generalizing second with
  | nil =>
      rw [List.nil_merge]
      constructor
      · exact List.filter_eq_nil_iff.mpr fun entry member => by simp [right entry member]
      · exact List.filter_eq_self.mpr fun entry member => by simp [right entry member]
  | cons early first firstHypothesis =>
      obtain ⟨leftHere, leftLater⟩ := List.forall_mem_cons.mp left
      induction second with
      | nil =>
          rw [List.merge_right]
          constructor
          · exact List.filter_eq_self.mpr left
          · exact List.filter_eq_nil_iff.mpr fun entry member => by simp [left entry member]
      | cons late second secondHypothesis =>
          obtain ⟨rightHere, rightLater⟩ := List.forall_mem_cons.mp right
          rw [List.cons_merge_cons]
          split
          · obtain ⟨firstSame, secondSame⟩ := firstHypothesis leftLater right
            rw [List.filter_cons_of_pos leftHere, List.filter_cons_of_neg (by simp [leftHere]), firstSame]
            exact ⟨rfl, secondSame⟩
          · obtain ⟨firstSame, secondSame⟩ := secondHypothesis rightLater
            rw [List.filter_cons_of_neg (by simp [rightHere]), List.filter_cons_of_pos (by simp [rightHere]),
              secondSame]
            exact ⟨firstSame, rfl⟩

variable [LinearOrder K] (key : A → K)

/-- The merge by a key. Among equal keys the entries of the first list come first. -/
def byKey (first second : List A) : List A :=
  first.merge second fun early late => key early ≤ key late

variable {key}

theorem byKey_sorted {first second : List A}
    (firstSorted : first.Pairwise fun early late => key early ≤ key late)
    (secondSorted : second.Pairwise fun early late => key early ≤ key late) :
    (byKey key first second).Pairwise fun early late => key early ≤ key late := by
  have ordered (entries : List A) : (entries.Pairwise fun early late => decide (key early ≤ key late) = true) ↔
      entries.Pairwise fun early late => key early ≤ key late := by
    simp only [decide_eq_true_eq]
  apply (ordered _).mp
  apply List.pairwise_merge
  · intro early middle late begins ends
    rw [decide_eq_true_eq] at begins ends ⊢
    exact le_trans begins ends
  · intro early late
    rw [Bool.or_eq_true, decide_eq_true_eq, decide_eq_true_eq]
    exact le_total _ _
  · exact (ordered _).mpr firstSorted
  · exact (ordered _).mpr secondSorted

end Merging
