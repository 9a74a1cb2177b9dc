/-
This file holds the rules for runs of a system whose steps happen at clock times.
-/

import Mathlib.Logic.Relation

namespace Timed
variable {T S : Type*} {before : T → T → Prop} {step : T → S → S → Prop}

/-- The clock moves as `before` allows, and the state moves while the clock stands. -/
inductive Advance (before : T → T → Prop) (step : T → S → S → Prop) : T × S → T × S → Prop
  | wait {time later : T} (state : S) (order : before time later) :
      Advance before step (time, state) (later, state)
  | act {time : T} {state next : S} (moved : step time state next) :
      Advance before step (time, state) (time, next)

/-- A finite run between two clocked states. -/
abbrev Run (before : T → T → Prop) (step : T → S → S → Prop) : T × S → T × S → Prop :=
  Relation.ReflTransGen (Advance before step)

/-- Steps at one clock time form a run. -/
theorem Run.of_steps {time : T} {state next : S}
    (steps : Relation.ReflTransGen (step time) state next) :
    Run before step (time, state) (time, next) := by
  induction steps with
  | refl => exact .refl
  | tail _ moved ih => exact ih.tail (.act moved)

/-- A property that waiting and every step keep holds at the end of a run. -/
theorem Run.invariant (holds : T → S → Prop)
    (wait : ∀ time later state, before time later → holds time state → holds later state)
    (act : ∀ time state next, step time state next → holds time state → holds time next)
    {first last : T × S} (run : Run before step first last) (initial : holds first.1 first.2) :
    holds last.1 last.2 := by
  induction run with
  | refl => exact initial
  | tail _ advance ih =>
      cases advance with
      | wait state order => exact wait _ _ _ order ih
      | act moved => exact act _ _ _ moved ih

/-- The steps of an invariant proof may use what every state of the run is known to satisfy. -/
theorem Run.invariant_with (known holds : T → S → Prop)
    (knownWait : ∀ time later state, before time later → known time state → known later state)
    (knownAct : ∀ time state next, step time state next → known time state → known time next)
    (wait : ∀ time later state, before time later → known time state → holds time state →
      holds later state)
    (act : ∀ time state next, step time state next → known time state → holds time state →
      holds time next)
    {first last : T × S} (run : Run before step first last)
    (initialKnown : known first.1 first.2) (initial : holds first.1 first.2) :
    holds last.1 last.2 := by
  have both := Run.invariant (fun time state => known time state ∧ holds time state)
    (fun time later state order held =>
      ⟨knownWait time later state order held.1, wait time later state order held.1 held.2⟩)
    (fun time state next moved held =>
      ⟨knownAct time state next moved held.1, act time state next moved held.1 held.2⟩)
    run ⟨initialKnown, initial⟩
  exact both.2

end Timed
