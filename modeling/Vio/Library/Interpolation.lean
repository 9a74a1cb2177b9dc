/-
This file holds piecewise linear functions through nodes at increasing integer times, with values in
a vector space. Nodes before a time and nodes after it do not change the value there.
-/

import Mathlib.Algebra.Module.Basic
import Mathlib.Algebra.Field.Basic
import Mathlib.Data.Int.Cast.Basic
import Mathlib.Tactic.Common

namespace Interpolation
variable {K V : Type} [Field K] [AddCommGroup V] [Module K V]

def Increasing (nodes : List (Int × V)) : Prop := nodes.Pairwise fun left right => left.1 < right.1

variable (K) in
/-- The line through two nodes. -/
def between (left right : Int × V) (time : Int) : V :=
  left.2 + (((time - left.1 : Int) : K) / ((right.1 - left.1 : Int) : K)) • (right.2 - left.2)

variable (K) in
/-- The value of the piecewise linear function; after the last node it stays. -/
def linear : List (Int × V) → Int → V
  | [], _ => 0
  | [node], _ => node.2
  | left :: right :: rest, time =>
      if time < right.1 then between K left right time else linear (right :: rest) time

/-- The time lies between the first node and the last node. -/
def spans (nodes : List (Int × V)) (time : Int) : Bool :=
  (nodes.head?.any fun first => first.1 ≤ time) && nodes.getLast?.any fun last => time ≤ last.1

omit [AddCommGroup V] in
theorem spans_iff {nodes : List (Int × V)} {time : Int} : spans nodes time = true ↔
    (∃ first, nodes.head? = some first ∧ first.1 ≤ time) ∧
      ∃ last, nodes.getLast? = some last ∧ time ≤ last.1 := by
  simp only [spans, Bool.and_eq_true, Option.any_eq_true, decide_eq_true_eq]

omit [AddCommGroup V] in
theorem Increasing.head_le {nodes : List (Int × V)} (increasing : Increasing nodes)
    {first node : Int × V} (begins : nodes.head? = some first) (member : node ∈ nodes) :
    first.1 ≤ node.1 := by
  cases nodes with
  | nil => cases member
  | cons head nodes =>
      obtain rfl := Option.some.inj begins
      rcases List.mem_cons.mp member with rfl | member
      · exact Int.le_refl _
      · have := (List.pairwise_cons.mp increasing).1 node member
        omega

omit [AddCommGroup V] in
theorem Increasing.le_last {nodes : List (Int × V)} (increasing : Increasing nodes)
    {last node : Int × V} (ends : nodes.getLast? = some last) (member : node ∈ nodes) :
    node.1 ≤ last.1 := by
  obtain ⟨before, rfl⟩ := List.getLast?_eq_some_iff.mp ends
  rcases List.mem_append.mp member with member | member
  · have := (List.pairwise_append.mp increasing).2.2 node member last (List.mem_cons_self ..)
    omega
  · rw [List.mem_singleton.mp member]

omit [AddCommGroup V] in
/-- The times between the first and the last node are those with a node on each side. -/
theorem spans_iff_mem {nodes : List (Int × V)} (increasing : Increasing nodes) {time : Int} :
    spans nodes time = true ↔
      (∃ node ∈ nodes, node.1 ≤ time) ∧ ∃ node ∈ nodes, time ≤ node.1 := by
  rw [spans_iff]
  constructor
  · rintro ⟨⟨first, begins, before⟩, last, ends, after⟩
    exact ⟨⟨first, List.mem_of_head? begins, before⟩, last, List.mem_of_getLast? ends, after⟩
  · rintro ⟨⟨early, earlyMember, before⟩, late, lateMember, after⟩
    have some : nodes ≠ [] := List.ne_nil_of_mem earlyMember
    have begins := List.head?_eq_some_head some
    have ends := List.getLast?_eq_some_getLast some
    exact ⟨⟨_, begins, Int.le_trans (increasing.head_le begins earlyMember) before⟩,
      _, ends, Int.le_trans after (increasing.le_last ends lateMember)⟩

omit [AddCommGroup V] in
/-- All times of a list are between the nodes where its first and its last time are. -/
theorem forall_spans_iff {W : Type} {nodes : List (Int × V)} {times : List (Int × W)}
    (increasing : Increasing nodes) (ordered : Increasing times) {first last : Int × W}
    (begins : times.head? = some first) (ends : times.getLast? = some last) :
    (∀ time ∈ times, spans nodes time.1 = true) ↔
      (∃ node ∈ nodes, node.1 ≤ first.1) ∧ ∃ node ∈ nodes, last.1 ≤ node.1 := by
  constructor
  · intro inside
    have firstInside := (spans_iff_mem increasing).mp (inside first (List.mem_of_head? begins))
    have lastInside := (spans_iff_mem increasing).mp (inside last (List.mem_of_getLast? ends))
    exact ⟨firstInside.1, lastInside.2⟩
  · rintro ⟨⟨early, earlyMember, before⟩, late, lateMember, after⟩ time member
    apply (spans_iff_mem increasing).mpr
    exact ⟨⟨early, earlyMember, Int.le_trans before (ordered.head_le begins member)⟩,
      late, lateMember, Int.le_trans (ordered.le_last ends member) after⟩

theorem between_left (left right : Int × V) : between K left right left.1 = left.2 := by
  rw [between, sub_self, Int.cast_zero, zero_div, zero_smul, add_zero]

/-- The first node has its own value. -/
theorem linear_head {node : Int × V} {rest : List (Int × V)} (increasing : Increasing (node :: rest)) :
    linear K (node :: rest) node.1 = node.2 := by
  cases rest with
  | nil => rfl
  | cons right rest =>
      have after : node.1 < right.1 := (List.pairwise_cons.mp increasing).1 right (List.mem_cons_self ..)
      rw [linear, if_pos after, between_left]

/-- Earlier nodes do not change the value. -/
theorem linear_drop {dropped rest : List (Int × V)} {node : Int × V} {time : Int}
    (increasing : Increasing (dropped ++ node :: rest)) (before : node.1 ≤ time) :
    linear K (dropped ++ node :: rest) time = linear K (node :: rest) time := by
  induction dropped with
  | nil => rfl
  | cons left dropped inductionHypothesis =>
      have tail := (List.pairwise_cons.mp increasing).2
      rw [← inductionHypothesis tail]
      cases dropped with
      | nil =>
          show linear K (left :: node :: rest) time = _
          rw [linear, if_neg (by omega)]
          rfl
      | cons right dropped =>
          have early : right.1 < node.1 :=
            (List.pairwise_cons.mp tail).1 node (List.mem_append_right _ (List.mem_cons_self ..))
          show linear K (left :: right :: (dropped ++ node :: rest)) time = _
          rw [linear, if_neg (by omega)]
          rfl

/-- Later nodes do not change the value. -/
theorem linear_append {nodes later : List (Int × V)} {time : Int}
    (increasing : Increasing (nodes ++ later)) (inside : spans nodes time = true) :
    linear K (nodes ++ later) time = linear K nodes time := by
  induction nodes with
  | nil => simp [spans] at inside
  | cons left nodes inductionHypothesis =>
      obtain ⟨⟨_, ⟨⟩, begins⟩, last, newest, ends⟩ := spans_iff.mp inside
      cases nodes with
      | nil =>
          obtain rfl : left = last := Option.some.inj newest
          have same : time = left.1 := by omega
          rw [same]
          exact linear_head increasing
      | cons right nodes =>
          show linear K (left :: right :: (nodes ++ later)) time = _
          rw [linear, linear]
          split
          · rfl
          · apply inductionHypothesis (List.pairwise_cons.mp increasing).2
            apply spans_iff.mpr
            refine ⟨⟨right, rfl, by omega⟩, last, ?_, ends⟩
            rwa [List.getLast?_cons_cons] at newest

omit [AddCommGroup V] in
/-- A time in the span lies on a segment, or it is the last node's. -/
theorem spans_cases {nodes : List (Int × V)} {time : Int} (inside : spans nodes time = true) :
    (∃ before left right after, nodes = before ++ left :: right :: after ∧ left.1 ≤ time ∧
      time < right.1) ∨
    ∃ before last, nodes = before ++ [last] ∧ time = last.1 := by
  induction nodes with
  | nil => simp [spans] at inside
  | cons left nodes inductionHypothesis =>
      obtain ⟨⟨_, ⟨⟩, begins⟩, last, newest, ends⟩ := spans_iff.mp inside
      cases nodes with
      | nil =>
          obtain rfl : left = last := Option.some.inj newest
          exact .inr ⟨[], left, rfl, by omega⟩
      | cons right nodes =>
          by_cases early : time < right.1
          · exact .inl ⟨[], left, right, nodes, rfl, begins, early⟩
          · rw [List.getLast?_cons_cons] at newest
            have inside := spans_iff.mpr ⟨⟨right, rfl, by omega⟩, last, newest, ends⟩
            rcases inductionHypothesis inside with
              ⟨before, first, second, after, same, segment⟩ | ⟨before, final, same, exact_⟩
            · exact .inl ⟨left :: before, first, second, after, by rw [same]; rfl, segment⟩
            · exact .inr ⟨left :: before, final, by rw [same]; rfl, exact_⟩

/-- The last node is not before the time. -/
def Reaches (nodes : List (Int × V)) (time : Int) : Prop :=
  ∃ last, nodes.getLast? = some last ∧ time ≤ last.1

omit [AddCommGroup V] in
theorem Reaches.append {nodes later : List (Int × V)} {time : Int} (reaches : Reaches nodes time)
    (increasing : Increasing (nodes ++ later)) : Reaches (nodes ++ later) time := by
  obtain ⟨last, newest, ends⟩ := reaches
  cases later with
  | nil =>
      rw [List.append_nil]
      exact ⟨last, newest, ends⟩
  | cons next later =>
      refine ⟨_, List.getLast?_eq_some_getLast (by simp), ?_⟩
      rw [List.getLast_append_of_ne_nil _ (List.cons_ne_nil next later)]
      have order := (List.pairwise_append.mp increasing).2.2 last (List.mem_of_getLast? newest) _
        (List.getLast_mem (List.cons_ne_nil next later))
      omega

omit [AddCommGroup V] in
/-- Later nodes leave the span of a time that is reached. -/
theorem spans_append {nodes later : List (Int × V)} {time : Int}
    (increasing : Increasing (nodes ++ later)) (reaches : Reaches nodes time) :
    spans (nodes ++ later) time = spans nodes time := by
  have whole := reaches.append increasing
  cases nodes with
  | nil =>
      obtain ⟨_, none, _⟩ := reaches
      cases none
  | cons first nodes =>
      apply Bool.eq_iff_iff.mpr
      rw [spans_iff, spans_iff]
      exact and_congr Iff.rfl (iff_of_true whole reaches)

omit [AddCommGroup V] in
/-- A time from some node on is in the span where it is reached. -/
theorem spans_of_mem {nodes : List (Int × V)} {node : Int × V} {time : Int}
    (increasing : Increasing nodes) (member : node ∈ nodes) (before : node.1 ≤ time)
    (reaches : Reaches nodes time) : spans nodes time = true := by
  apply spans_iff.mpr
  refine ⟨?_, reaches⟩
  cases nodes with
  | nil => cases member
  | cons first nodes => exact ⟨first, rfl, Int.le_trans (increasing.head_le rfl member) before⟩

end Interpolation
