/-
This file holds programs that change a state and may throw: what a program does to the state in every
outcome, and what it has done where it returns.
-/

import Mathlib.Order.Defs.Unbundled

namespace Effects
variable {E S A B : Type}

/-- The state at the end, with or without an exception. -/
def final (program : EStateM E S A) (state : S) : S :=
  match program state with
  | .ok _ next => next
  | .error _ next => next

/-- Each run relates its first and its last state, with or without an exception. -/
def Keeps (relation : S → S → Prop) (program : EStateM E S A) : Prop :=
  ∀ state, relation state (final program state)

variable {relation wider : S → S → Prop} {program : EStateM E S A} {state last : S}

theorem final_ok {value : A} (ran : program state = .ok value last) : final program state = last := by
  rw [final, ran]

theorem final_error {error : E} (ran : program state = .error error last) :
    final program state = last := by
  rw [final, ran]

theorem Keeps.ok (keeps : Keeps relation program) {value : A}
    (ran : program state = .ok value last) : relation state last :=
  final_ok ran ▸ keeps state

theorem Keeps.error (keeps : Keeps relation program) {error : E}
    (ran : program state = .error error last) : relation state last :=
  final_error ran ▸ keeps state

theorem Keeps.mono (keeps : Keeps relation program)
    (weaker : ∀ before after, relation before after → wider before after) : Keeps wider program :=
  fun state => weaker _ _ (keeps state)

/-- A sequence that returns has a first part that returns. -/
theorem bind_ok {next : A → EStateM E S B} {result : B}
    (ran : (program >>= next) state = .ok result last) :
    ∃ value middle, program state = .ok value middle ∧ next value middle = .ok result last := by
  change (match program state with
    | .ok value middle => next value middle
    | .error error middle => .error error middle) = _ at ran
  split at ran
  · rename_i value middle first
    exact ⟨value, middle, first, ran⟩
  · cases ran

theorem bind_eq {next : A → EStateM E S B} {value : A} {middle : S}
    (first : program state = .ok value middle) :
    (program >>= next) state = next value middle := by
  change (match program state with
    | .ok value middle => next value middle
    | .error error middle => .error error middle) = _
  rw [first]

theorem bind_error {next : A → EStateM E S B} {error : E} {middle : S}
    (first : program state = .error error middle) :
    (program >>= next) state = .error error middle := by
  change (match program state with
    | .ok value middle => next value middle
    | .error error middle => .error error middle) = _
  rw [first]

/-- The end of a sequence whose first part returns. -/
theorem final_bind_ok {next : A → EStateM E S B} {value : A} {middle : S}
    (first : program state = .ok value middle) :
    final (program >>= next) state = final (next value) middle := by
  rw [final, bind_eq first, final]

theorem final_bind_error {next : A → EStateM E S B} {error : E} {middle : S}
    (first : program state = .error error middle) : final (program >>= next) state = middle :=
  final_error (bind_error first)

/-- A loop whose rounds all return returns. -/
theorem forM_returns {body : A → EStateM E S PUnit}
    (returns : ∀ entry state, ∃ last, body entry state = .ok ⟨⟩ last) (entries : List A)
    (state : S) : ∃ last, entries.forM body state = .ok ⟨⟩ last := by
  induction entries generalizing state with
  | nil => exact ⟨state, rfl⟩
  | cons entry rest inductionHypothesis =>
      obtain ⟨middle, here⟩ := returns entry state
      obtain ⟨last, later⟩ := inductionHypothesis middle
      exact ⟨last, (bind_eq here).trans later⟩

/-- What a round of a loop establishes and every round keeps holds after the loop. -/
theorem forM_ok {holds : A → S → Prop} {body : A → EStateM E S PUnit}
    (establishes : ∀ entry state last, body entry state = .ok ⟨⟩ last → holds entry last)
    (keeps : ∀ entry other state last, body other state = .ok ⟨⟩ last → holds entry state →
      holds entry last)
    {entries : List A} (ran : entries.forM body state = .ok ⟨⟩ last) :
    ∀ entry ∈ entries, holds entry last := by
  have kept (entry : A) {later : List A} {state : S} (ran : later.forM body state = .ok ⟨⟩ last)
      (held : holds entry state) : holds entry last := by
    induction later generalizing state with
    | nil =>
        cases ran
        exact held
    | cons other later inductionHypothesis =>
        obtain ⟨_, middle, here, ran⟩ := bind_ok ran
        exact inductionHypothesis ran (keeps entry other state middle here held)
  induction entries generalizing state with
  | nil => exact nofun
  | cons entry rest inductionHypothesis =>
      obtain ⟨_, middle, here, ran⟩ := bind_ok ran
      exact List.forall_mem_cons.mpr
        ⟨kept entry ran (establishes entry state middle here), inductionHypothesis ran⟩

theorem tryCatch_ok {handler : E → EStateM E S A} {value : A}
    (ran : program state = .ok value last) :
    (tryCatch program handler : EStateM E S A) state = .ok value last := by
  change EStateM.tryCatch program handler state = _
  delta EStateM.tryCatch
  rw [ran]

theorem tryCatch_error {handler : E → EStateM E S A} {error : E}
    (ran : program state = .error error last) :
    (tryCatch program handler : EStateM E S A) state = handler error last := by
  change EStateM.tryCatch program handler state = _
  delta EStateM.tryCatch
  rw [ran]
  rfl

theorem keeps_ite {condition : Prop} [Decidable condition] {other : EStateM E S A}
    (yes : Keeps relation program) (no : Keeps relation other) :
    Keeps relation (if condition then program else other) := by
  split
  · exact yes
  · exact no

section Rules
variable [IsPreorder S relation]

theorem keeps_pure (value : A) : Keeps relation (pure value : EStateM E S A) := fun state => refl state

theorem keeps_throw (error : E) : Keeps relation (throw error : EStateM E S A) :=
  fun state => refl state

theorem keeps_get : Keeps relation (get : EStateM E S S) := fun state => refl state

theorem Keeps.bind {next : A → EStateM E S B} (first : Keeps relation program)
    (later : ∀ value, Keeps relation (next value)) : Keeps relation (program >>= next) := by
  intro state
  cases ran : program state with
  | ok value middle =>
      rw [final_bind_ok ran]
      exact Trans.trans (first.ok ran) (later value middle)
  | error error middle =>
      rw [final_bind_error ran]
      exact first.error ran

theorem Keeps.tryCatch {handler : E → EStateM E S A} (body : Keeps relation program)
    (handles : ∀ error, Keeps relation (handler error)) :
    Keeps relation (tryCatch program handler) := by
  intro state
  cases ran : program state with
  | ok value middle =>
      rw [final_ok (tryCatch_ok ran)]
      exact body.ok ran
  | error error middle =>
      rw [final, tryCatch_error ran]
      exact Trans.trans (body.error ran) (handles error middle)

theorem keeps_forM {entries : List A} {body : A → EStateM E S PUnit}
    (each : ∀ entry ∈ entries, Keeps relation (body entry)) : Keeps relation (entries.forM body) := by
  induction entries with
  | nil => exact keeps_pure _
  | cons entry rest inductionHypothesis =>
      obtain ⟨here, later⟩ := List.forall_mem_cons.mp each
      exact here.bind fun _ => inductionHypothesis later

end Rules
end Effects
