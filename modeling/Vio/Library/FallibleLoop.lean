/-
This file holds the sequences and the loops whose steps may throw.
-/

import Mathlib.Data.List.Basic

namespace FallibleLoop
variable {A B E : Type} {body : A → Except E B}

/-- A sequence of steps that ends well has a first step that ends well. -/
theorem bind_ok {α β ε : Type} {first : Except ε α} {next : α → Except ε β} {result : β}
    (done : (first >>= next) = .ok result) : ∃ value, first = .ok value ∧ next value = .ok result := by
  cases first with
  | error error => cases done
  | ok value => exact ⟨value, rfl, done⟩

/-- A check of the result holds only where there is one. -/
theorem ok_of_any {result : Except E A} {check : A → Bool}
    (holds : result.toOption.any check = true) : ∃ value, result = .ok value ∧ check value = true := by
  cases result with
  | error error => cases holds
  | ok value => exact ⟨value, rfl, holds⟩

/-- A loop whose rounds all return collects what they return. -/
theorem mapM_ok {entries : List A} {value : A → B}
    (returns : ∀ entry ∈ entries, body entry = .ok (value entry)) :
    entries.mapM body = .ok (entries.map value) := by
  induction entries with
  | nil => rfl
  | cons entry rest inductionHypothesis =>
      obtain ⟨here, later⟩ := List.forall_mem_cons.mp returns
      rw [List.mapM_cons, here, inductionHypothesis later]
      rfl

/-- A loop throws what one of its rounds throws. -/
theorem mapM_error {entries : List A} {error : E} (throws : entries.mapM body = .error error) :
    ∃ entry ∈ entries, body entry = .error error := by
  induction entries with
  | nil => cases throws
  | cons entry rest inductionHypothesis =>
      rw [List.mapM_cons] at throws
      cases here : body entry with
      | error thrown =>
          rw [here] at throws
          obtain rfl := Except.error.inj throws
          exact ⟨entry, List.mem_cons_self .., here⟩
      | ok value =>
          rw [here] at throws
          cases later : rest.mapM body with
          | error thrown =>
              rw [later] at throws
              obtain rfl := Except.error.inj throws
              obtain ⟨entry, member, same⟩ := inductionHypothesis later
              exact ⟨entry, List.mem_cons_of_mem _ member, same⟩
          | ok values =>
              rw [later] at throws
              cases throws

/-- A loop with a round that throws does not return. -/
theorem mapM_not_ok {entries : List A} {entry : A} {error : E} (member : entry ∈ entries)
    (throws : body entry = .error error) (values : List B) : entries.mapM body ≠ .ok values := by
  induction entries generalizing values with
  | nil => cases member
  | cons first rest inductionHypothesis =>
      intro returned
      rw [List.mapM_cons] at returned
      cases here : body first with
      | error thrown =>
          rw [here] at returned
          cases returned
      | ok value =>
          rw [here] at returned
          rcases List.mem_cons.mp member with rfl | member
          · rw [throws] at here
            cases here
          · cases later : rest.mapM body with
            | error thrown =>
                rw [later] at returned
                cases returned
            | ok values => exact inductionHypothesis member values later

end FallibleLoop
