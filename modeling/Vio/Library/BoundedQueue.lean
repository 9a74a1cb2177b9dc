/-
This file holds a queue with a limit that gives up its oldest entries for a new one.
-/

import Mathlib.Data.List.Infix

namespace BoundedQueue
variable {A : Type*}

/-- Drop the oldest entries while the queue is full; the second part counts them. -/
def makeRoom (limit : Nat) : List A → List A × Nat
  | [] => ([], 0)
  | oldest :: rest =>
      if limit ≤ (oldest :: rest).length then
        ((makeRoom limit rest).1, (makeRoom limit rest).2 + 1)
      else (oldest :: rest, 0)

variable (limit : Nat)

/-- What stays is the newest part. -/
theorem makeRoom_suffix (queue : List A) : (makeRoom limit queue).1 <:+ queue := by
  induction queue with
  | nil => exact List.suffix_rfl
  | cons oldest rest inductionHypothesis =>
      unfold makeRoom
      split
      · exact inductionHypothesis.trans (List.suffix_cons oldest rest)
      · exact List.suffix_rfl

/-- Each entry stays or is counted. -/
theorem makeRoom_count (queue : List A) :
    (makeRoom limit queue).1.length + (makeRoom limit queue).2 = queue.length := by
  induction queue with
  | nil => rfl
  | cons oldest rest inductionHypothesis =>
      unfold makeRoom
      split
      · exact congrArg Nat.succ inductionHypothesis
      · rfl

/-- A positive limit leaves room for one more entry. -/
theorem makeRoom_length (positive : 0 < limit) (queue : List A) :
    (makeRoom limit queue).1.length < limit := by
  induction queue with
  | nil => exact positive
  | cons oldest rest inductionHypothesis =>
      unfold makeRoom
      split
      · exact inductionHypothesis
      · exact Nat.lt_of_not_le ‹_›

end BoundedQueue
