/-
This file holds the rules for runs of a system whose step may refuse an action: the invariant rule,
with the actions so far or without them, the log of what a run is seen to do, the rules for steps that
use up an effort, and the simulation of one system by another one.
-/

import Mathlib.Data.List.Basic

namespace PartialRun
variable {S A : Type*} {step : S → A → Option S}

/-- A property that every granted step keeps holds at the end of a run. -/
theorem invariant (holds : S → Prop)
    (kept : ∀ state action next, step state action = some next → holds state → holds next)
    {actions : List A} {first last : S} (ran : actions.foldlM step first = some last)
    (initial : holds first) : holds last := by
  induction actions generalizing first with
  | nil =>
      obtain rfl := Option.some.inj ran
      exact initial
  | cons action actions inductionHypothesis =>
      obtain ⟨middle, moved, ran⟩ := Option.bind_eq_some_iff.mp ran
      exact inductionHypothesis ran (kept first action middle moved initial)

/-- The invariant rule for a property of the state and of the actions that led to it. -/
theorem traced (holds : List A → S → Prop)
    (kept : ∀ seen state action next, step state action = some next → holds seen state →
      holds (seen ++ [action]) next)
    {actions : List A} {first last : S} (ran : actions.foldlM step first = some last)
    (initial : holds [] first) : holds actions last := by
  have onward (seen : List A) (here : holds seen first) : holds (seen ++ actions) last := by
    clear initial
    induction actions generalizing first seen with
    | nil =>
        obtain rfl := Option.some.inj ran
        rw [List.append_nil]
        exact here
    | cons action actions inductionHypothesis =>
        obtain ⟨middle, moved, ran⟩ := Option.bind_eq_some_iff.mp ran
        have there := inductionHypothesis ran (seen ++ [action]) (kept seen first action middle moved here)
        rw [List.append_assoc] at there
        exact there
  exact onward [] initial

theorem run_append {actions later : List A} {first middle last : S}
    (ran : actions.foldlM step first = some middle) (continued : later.foldlM step middle = some last) :
    (actions ++ later).foldlM step first = some last := by
  rw [List.foldlM_append]
  exact Option.bind_eq_some_iff.mpr ⟨middle, ran, continued⟩

section Log
variable {E : Type*} (step : S → A → Option S) (seen : S → A → S → List E)

/-- What a run is seen to do, newest first; it ends with the first action that is refused. -/
def log (first : S) : List A → List E
  | [] => []
  | action :: actions =>
      match step first action with
      | none => []
      | some next => log next actions ++ seen first action next

/-- A history that grows by what each step is seen to do holds what the run was seen to do. -/
theorem history_log {step : S → A → Option S} {seen : S → A → S → List E} (history : S → List E)
    (grows : ∀ state action next, step state action = some next →
      history next = seen state action next ++ history state)
    {actions : List A} {first last : S} (ran : actions.foldlM step first = some last) :
    history last = log step seen first actions ++ history first := by
  induction actions generalizing first with
  | nil =>
      obtain rfl := Option.some.inj ran
      rfl
  | cons action actions inductionHypothesis =>
      obtain ⟨middle, moved, ran⟩ := Option.bind_eq_some_iff.mp ran
      rw [inductionHypothesis ran, grows first action middle moved, log, moved, List.append_assoc]

end Log
section Effort
variable (holds : S → Prop) (allowed : A → Prop) (effort : S → Nat)
  (kept : ∀ state action next, allowed action → step state action = some next → holds state →
    holds next ∧ effort next < effort state)
include kept

/-- A run of steps that use up an effort is no longer than the effort. -/
theorem bounded {actions : List A} {first last : S} (ran : actions.foldlM step first = some last)
    (all : ∀ action ∈ actions, allowed action) (initial : holds first) :
    holds last ∧ actions.length + effort last ≤ effort first := by
  induction actions generalizing first with
  | nil =>
      obtain rfl := Option.some.inj ran
      exact ⟨initial, Nat.le_of_eq (Nat.zero_add _)⟩
  | cons action actions inductionHypothesis =>
      obtain ⟨middle, moved, ran⟩ := Option.bind_eq_some_iff.mp ran
      obtain ⟨here, less⟩ := kept first action middle (all action List.mem_cons_self) moved initial
      obtain ⟨there, rest⟩ := inductionHypothesis ran
        (fun other member => all other (List.mem_cons_of_mem _ member)) here
      refine ⟨there, ?_⟩
      rw [List.length_cons]
      omega

/-- Where a step is possible in each state that is not final, a final one can be reached. -/
theorem completes (final : S → Prop)
    (progress : ∀ state, holds state → final state ∨
      ∃ action next, allowed action ∧ step state action = some next)
    {first : S} (initial : holds first) : ∃ (actions : List A) (last : S),
      (∀ action ∈ actions, allowed action) ∧ actions.foldlM step first = some last ∧ final last := by
  induction steps : effort first using Nat.strongRecOn generalizing first with
  | ind steps inductionHypothesis =>
      subst steps
      rcases progress first initial with ended | ⟨action, next, permitted, moved⟩
      · exact ⟨[], first, nofun, rfl, ended⟩
      · obtain ⟨here, less⟩ := kept first action next permitted moved initial
        obtain ⟨actions, last, all, ran, ended⟩ := inductionHypothesis _ less here rfl
        refine ⟨action :: actions, last, List.forall_mem_cons.mpr ⟨permitted, all⟩, ?_, ended⟩
        rw [List.foldlM_cons, moved]
        exact ran

end Effort

variable {T B : Type*} {other : T → B → Option T}

/-- Where each granted step has a run of the other system, a whole run has one. -/
theorem simulation (related : S → T → Prop)
    (kept : ∀ state action next partner, step state action = some next → related state partner →
      ∃ (moves : List B) (after : T), moves.foldlM other partner = some after ∧ related next after)
    {actions : List A} {first last : S} {partner : T} (ran : actions.foldlM step first = some last)
    (initial : related first partner) :
    ∃ (moves : List B) (after : T), moves.foldlM other partner = some after ∧
      related last after := by
  induction actions generalizing first partner with
  | nil =>
      obtain rfl := Option.some.inj ran
      exact ⟨[], partner, rfl, initial⟩
  | cons action actions inductionHypothesis =>
      obtain ⟨middle, moved, ran⟩ := Option.bind_eq_some_iff.mp ran
      obtain ⟨moves, between, begun, relatedMiddle⟩ := kept first action middle partner moved initial
      obtain ⟨later, after, continued, relatedLast⟩ := inductionHypothesis ran relatedMiddle
      exact ⟨moves ++ later, after, run_append begun continued, relatedLast⟩

end PartialRun
