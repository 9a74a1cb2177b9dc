/-
This file holds second-order filters in the transposed direct form, over the vectors of a module.
-/

import Mathlib.Algebra.Field.Basic
import Mathlib.Tactic.FieldSimp
import Mathlib.Tactic.LinearCombination
import Mathlib.Tactic.Module

/-- The coefficients of a second-order filter. -/
structure Biquad (K : Type*) where
  b0 : K
  b1 : K
  b2 : K
  a1 : K
  a2 : K

namespace Biquad
variable {K V : Type*} [Field K] [AddCommGroup V] [Module K V] (filter : Biquad K)

/-- The registers after a value, and the output. -/
def step (state : V × V) (value : V) : (V × V) × V :=
  let output := filter.b0 • value + state.1
  ((filter.b1 • value - filter.a1 • output + state.2, filter.b2 • value - filter.a2 • output), output)

/-- The registers that hold a constant. -/
def steady (value : V) : V × V := ((1 - filter.b0) • value, (filter.b2 - filter.a2) • value)

/-- The gain at rest is one. -/
def UnitGain : Prop := filter.b0 + filter.b1 + filter.b2 = 1 + filter.a1 + filter.a2

variable {filter}

/-- A constant stays a constant. -/
theorem step_steady (gain : filter.UnitGain) (value : V) :
    filter.step (filter.steady value) value = (filter.steady value, value) := by
  have output : filter.b0 • value + (1 - filter.b0) • value = value := by module
  have first : filter.b1 • value - filter.a1 • value + (filter.b2 - filter.a2) • value =
      (1 - filter.b0) • value := by
    have same : filter.b1 - filter.a1 + (filter.b2 - filter.a2) = 1 - filter.b0 := by
      unfold UnitGain at gain
      linear_combination gain
    rw [← same]
    module
  have second : filter.b2 • value - filter.a2 • value = (filter.b2 - filter.a2) • value := by module
  simp only [step, steady, output, first, second]

variable (filter)

/-- The difference equation of the filter, between three values and three outputs. -/
def Recurs (oldest older newest first second third : V) : Prop :=
  third = filter.b0 • newest + filter.b1 • older + filter.b2 • oldest - filter.a1 • second -
    filter.a2 • first

/-- Three steps in a row obey the difference equation. -/
theorem step_recurs (state : V × V) (oldest older newest : V) :
    let first := filter.step state oldest
    let second := filter.step first.1 older
    filter.Recurs oldest older newest first.2 second.2 (filter.step second.1 newest).2 := by
  simp only [step, Recurs]
  module

variable {filter}

/-- Two solutions for the same values differ by a solution without values. -/
theorem Recurs.sub {oldest older newest first second third first' second' third' : V}
    (left : filter.Recurs oldest older newest first second third)
    (right : filter.Recurs oldest older newest first' second' third') :
    third - third' = -filter.a1 • (second - second') - filter.a2 • (first - first') := by
  rw [left, right]
  module

/-- The delay of a ramp through a filter with unit gain. -/
theorem recurs_ramp (gain : filter.UnitGain) {delay : K}
    (exact : delay * (1 + filter.a1 + filter.a2) =
      filter.b1 + (1 + 1) * filter.b2 - (filter.a1 + (1 + 1) * filter.a2))
    (slope start : V) (time : K) :
    let ramp (time : K) : V := time • slope + start
    filter.Recurs (ramp time) (ramp (time + 1)) (ramp (time + (1 + 1)))
      (ramp (time - delay)) (ramp (time + 1 - delay)) (ramp (time + (1 + 1) - delay)) := by
  unfold UnitGain at gain
  have sloped : time + (1 + 1) - delay = filter.b0 * (time + (1 + 1)) + filter.b1 * (time + 1) +
      filter.b2 * time - filter.a1 * (time + 1 - delay) - filter.a2 * (time - delay) := by
    linear_combination (-(time + (1 + 1))) * gain - exact
  have started : 1 = filter.b0 + filter.b1 + filter.b2 - filter.a1 - filter.a2 := by
    linear_combination -gain
  have slopes := congrArg (· • slope) sloped
  have starts := congrArg (· • start) started
  simp only [one_smul] at slopes starts
  simp only [Recurs]
  rw [slopes]
  nth_rewrite 1 [starts]
  module

end Biquad
