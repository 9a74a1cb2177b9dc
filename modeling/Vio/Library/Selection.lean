/-
This file holds the first entry of a list with a property, for properties that look at the whole list.
-/

import Mathlib.Data.List.Basic

namespace Selection
variable {A : Type*}

/-- The entry has the property, and no earlier entry has it. -/
def First (property : A → Prop) (entries : List A) (entry : A) : Prop :=
  ∃ earlier later, entries = earlier ++ entry :: later ∧ property entry ∧
    ∀ other ∈ earlier, ¬ property other

variable {property stronger : A → Prop} {entries : List A} {entry : A}

theorem First.mem (first : First property entries entry) : entry ∈ entries := by
  obtain ⟨earlier, later, rfl, _⟩ := first
  simp

theorem First.holds (first : First property entries entry) : property entry := by
  obtain ⟨_, _, _, holds, _⟩ := first
  exact holds

/-- The first entry stays the first one for a stronger property, also in a longer list. -/
theorem First.append (first : First property entries entry) (later : List A)
    (holds : stronger entry) (implies : ∀ other, stronger other → property other) :
    First stronger (entries ++ later) entry := by
  obtain ⟨earlier, rest, rfl, _, none⟩ := first
  refine ⟨earlier, rest ++ later, by simp, holds, ?_⟩
  intro other member fulfilled
  exact none other member (implies other fulfilled)

/-- A new last entry is the first one where no earlier entry has the property. -/
theorem first_last (holds : property entry) (none : ∀ other ∈ entries, ¬ property other) :
    First property (entries ++ [entry]) entry :=
  ⟨entries, [], rfl, holds, none⟩

end Selection
