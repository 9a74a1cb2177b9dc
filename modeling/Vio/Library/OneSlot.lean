/-
This file holds the rules for a slot that keeps the newest stored value. A reader that takes a value
only while it is fresh, and never fresh again once taken, gets a subsequence of the stored values.
-/

import Mathlib.Data.List.Basic

namespace OneSlot
variable {A : Type*}

/-- The values that were stored into the slot and those that were taken out of it, oldest first. The
value in the slot is the newest stored one, and while it is fresh nobody took it. -/
structure Sampled (stored taken : List A) (slot : Option A) (fresh : A → Prop) : Prop where
  sublist : taken.Sublist stored
  newest : ∀ value, slot = some value → ∃ before, stored = before ++ [value] ∧
    (fresh value → taken.Sublist before)

variable {stored taken : List A} {slot : Option A} {fresh fresher : A → Prop} {value : A}

theorem Sampled.clear (sampled : Sampled stored taken slot fresh) (fresher : A → Prop) :
    Sampled stored taken none fresher :=
  ⟨sampled.sublist, fun _ none => by cases none⟩

theorem Sampled.store (sampled : Sampled stored taken slot fresh) (value : A) :
    Sampled (stored ++ [value]) taken (some value) fresh where
  sublist := sampled.sublist.trans (List.sublist_append_left _ _)
  newest newest same := by
    obtain rfl := Option.some.inj same
    exact ⟨stored, rfl, fun _ => sampled.sublist⟩

/-- The reader takes the value, which is not fresh any more. -/
theorem Sampled.take (sampled : Sampled stored taken (some value) fresh) (new : fresh value)
    (old : ¬ fresher value) : Sampled stored (taken ++ [value]) (some value) fresher := by
  obtain ⟨before, rfl, untaken⟩ := sampled.newest value rfl
  refine ⟨(untaken new).append_right [value], fun newest same => ?_⟩
  obtain rfl := Option.some.inj same
  exact ⟨before, rfl, fun again => absurd again old⟩

end OneSlot
