/-
This file holds totals over the members of a list of which one member changes at a time.
-/

import Mathlib.Algebra.BigOperators.Group.List.Basic
import Mathlib.Algebra.Order.BigOperators.Group.List
import Mathlib.Algebra.Order.Group.Nat
import Mathlib.Tactic.Abel

namespace Tally
variable {A M : Type*} {members : List A} {place : Nat} {old : A}

/-- The total weight of the members. -/
def total [AddCommMonoid M] (weight : A → M) (members : List A) : M := (members.map weight).sum

section Total
variable [AddCommMonoid M] {weight : A → M}

@[simp] theorem total_nil : total weight [] = 0 := rfl

@[simp] theorem total_cons (member : A) : total weight (member :: members) =
    weight member + total weight members := by
  simp [total]

@[simp] theorem total_append (first second : List A) : total weight (first ++ second) =
    total weight first + total weight second := by
  simp [total]

/-- The member at a place, between the ones before it and the ones after it. -/
theorem split_of_getElem? (found : members[place]? = some old) :
    members = members.take place ++ old :: members.drop (place + 1) := by
  obtain ⟨inside, rfl⟩ := List.getElem?_eq_some_iff.mp found
  rw [List.getElem_cons_drop, List.take_append_drop]

theorem total_split (weight : A → M) (found : members[place]? = some old) : total weight members =
    total weight (members.take place) + (weight old + total weight (members.drop (place + 1))) := by
  conv_lhs => rw [split_of_getElem? found]
  rw [total_append, total_cons]

/-- A member is replaced. -/
theorem total_set (found : members[place]? = some old) (new : A) :
    total weight (members.set place new) + weight old = total weight members + weight new := by
  have inside := (List.getElem?_eq_some_iff.mp found).1
  rw [List.set_eq_take_cons_drop _ inside, total_append, total_cons, total_split weight found]
  abel

/-- A member is removed. -/
theorem total_eraseIdx (found : members[place]? = some old) :
    total weight (members.eraseIdx place) + weight old = total weight members := by
  rw [List.eraseIdx_eq_take_drop_succ, total_append, total_split weight found]
  abel

theorem total_congr {other : A → M} (same : ∀ member ∈ members, weight member = other member) :
    total weight members = total other members := by
  rw [total, List.map_congr_left same, total]

theorem total_zero (none : ∀ member ∈ members, weight member = 0) : total weight members = 0 := by
  rw [total_congr none, total, List.map_const', List.sum_replicate, nsmul_zero]

/-- Only one member has a weight. -/
theorem total_single (found : members[place]? = some old)
    (others : ∀ other member, members[other]? = some member → other ≠ place → weight member = 0) :
    total weight members = weight old := by
  have before : total weight (members.take place) = 0 := by
    refine total_zero fun member listed => ?_
    obtain ⟨other, inside, rfl⟩ := List.getElem_of_mem listed
    rw [List.getElem_take]
    exact others other _ (List.getElem?_eq_getElem _) (by simp at inside; omega)
  have after : total weight (members.drop (place + 1)) = 0 := by
    refine total_zero fun member listed => ?_
    obtain ⟨other, inside, rfl⟩ := List.getElem_of_mem listed
    rw [List.getElem_drop]
    exact others _ _ (List.getElem?_eq_getElem _) (by omega)
  rw [total_split weight found, before, after, zero_add, add_zero]

end Total

/-- A member weighs no more than all of them. -/
theorem le_total (weight : A → Nat) (listed : old ∈ members) : weight old ≤ total weight members :=
  List.single_le_sum (fun _ _ => Nat.zero_le _) _ (List.mem_map_of_mem listed)

/-- Of members whose total is one at most, only one has a weight. -/
theorem place_unique {weight : A → Nat} {other : Nat} {member : A} (single : total weight members ≤ 1)
    (found : members[place]? = some old) (heavy : 0 < weight old)
    (located : members[other]? = some member) (heavier : 0 < weight member) : place = other := by
  by_contra different
  have whole := total_split weight found
  rcases lt_or_gt_of_ne different with later | earlier
  · have there : member ∈ members.drop (place + 1) := by
      refine List.mem_of_getElem? (i := other - (place + 1)) ?_
      rw [List.getElem?_drop, Nat.add_sub_cancel' later, located]
    have heavyRest := le_total weight there
    omega
  · have there : member ∈ members.take place := by
      refine List.mem_of_getElem? (i := other) ?_
      rw [List.getElem?_take_of_lt earlier, located]
    have heavyRest := le_total weight there
    omega

/-- A weight has a member that carries it. -/
theorem exists_of_total_pos {weight : A → Nat} (positive : 0 < total weight members) :
    ∃ (place : Nat) (member : A), members[place]? = some member ∧ 0 < weight member := by
  by_contra none
  refine positive.ne' (total_zero fun member listed => ?_)
  obtain ⟨place, found⟩ := List.getElem?_of_mem listed
  exact Nat.eq_zero_of_not_pos fun heavy => none ⟨place, member, found, heavy⟩

/-- A property of all members, where one of them is replaced. -/
theorem forall_mem_set {holds : A → Prop} {new : A} (all : ∀ member ∈ members, holds member)
    (changed : holds new) : ∀ member ∈ members.set place new, holds member := by
  intro member listed
  rcases List.mem_or_eq_of_mem_set listed with old | rfl
  · exact all member old
  · exact changed

end Tally
