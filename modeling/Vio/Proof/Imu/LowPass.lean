import Mathlib.Algebra.Order.Ring.Unbundled.Rat
import Mathlib.Data.Rat.Floor
import Mathlib.Tactic.Linarith
import Mathlib.Tactic.NormNum
import Mathlib.Tactic.Positivity
import Vio.Construction.LowPassDesign
import Vio.Library.Biquad

namespace Vio

namespace ImuLowPass
variable {K : Type} [Field K]

def biquad (filter : ImuLowPass K) : Biquad K :=
  ⟨filter.b0, filter.b1, filter.b2, filter.a1, filter.a2⟩

end ImuLowPass

namespace ImuLowPassState
variable {K : Type} [Field K] {filter : ImuLowPass K} (state : ImuLowPassState K)

/-- The filter restarts on a sample at this time. -/
def Restarts (time : Int) : Prop :=
  state.last = 0 ∨ time < state.last ∨ time - state.last > 50000000

instance (time : Int) : Decidable (state.Restarts time) := inferInstanceAs (Decidable (_ ∨ _ ∨ _))

def registers : Axes K × Axes K := (state.s1, state.s2)

variable {state} {time : Int}

/-- A step that continues is a step of the second-order filter. -/
theorem step_continues (on : filter.on = true) (continues : ¬ state.Restarts time) (value : Axes K) :
    ((state.step filter time value).1.registers, (state.step filter time value).2) =
      filter.biquad.step state.registers value := by
  unfold Restarts at continues
  simp [step, on, if_neg continues, registers, Biquad.step, ImuLowPass.biquad]

/-- A step that restarts is a step from the steady registers. -/
theorem step_restarts (on : filter.on = true) (restarts : state.Restarts time) (value : Axes K) :
    ((state.step filter time value).1.registers, (state.step filter time value).2) =
      filter.biquad.step (filter.biquad.steady value) value := by
  unfold Restarts at restarts
  simp [step, on, if_pos restarts, registers, Biquad.step, Biquad.steady, ImuLowPass.biquad]

/-- A step from a restart or from the steady registers gives the value back. -/
theorem step_steady (on : filter.on = true) (gain : filter.biquad.UnitGain) {value : Axes K}
    (steady : state.Restarts time ∨ state.registers = filter.biquad.steady value) :
    (state.step filter time value).1.registers = filter.biquad.steady value ∧
      (state.step filter time value).2 = value := by
  have same : ((state.step filter time value).1.registers, (state.step filter time value).2) =
      filter.biquad.step (filter.biquad.steady value) value := by
    by_cases restarts : state.Restarts time
    · exact step_restarts on restarts value
    · rw [step_continues on restarts, steady.resolve_left restarts]
  rw [Biquad.step_steady gain] at same
  exact Prod.mk.inj same

/-- A stream that is constant from a restart on comes out as it is. -/
theorem output_constant (on : filter.on = true) (gain : filter.biquad.UnitGain)
    {stream : Nat → ImuSample K} {value : Axes K} {first : Nat}
    (constant : ∀ index, (stream (first + index)).2 = value)
    (restarts : (state.after filter stream first).Restarts (stream first).1) (index : Nat) :
    state.output filter stream (first + index) = value := by
  have steady : (state.after filter stream (first + index)).Restarts (stream (first + index)).1 ∨
      (state.after filter stream (first + index)).registers = filter.biquad.steady value := by
    induction index with
    | zero => exact .inl restarts
    | succ index inductionHypothesis =>
        rw [← constant index] at inductionHypothesis ⊢
        exact .inr (step_steady on gain inductionHypothesis).1
  have passes := step_steady on gain steady
  rw [← constant index] at passes ⊢
  exact passes.2

/-- Two steps that continue obey the difference equation of the filter. -/
theorem output_recurs (on : filter.on = true) (state : ImuLowPassState K)
    (stream : Nat → ImuSample K) (index : Nat)
    (second : ¬ (state.after filter stream (index + 1)).Restarts (stream (index + 1)).1)
    (third : ¬ (state.after filter stream (index + 2)).Restarts (stream (index + 2)).1) :
    filter.biquad.Recurs (stream index).2 (stream (index + 1)).2 (stream (index + 2)).2
      (state.output filter stream index) (state.output filter stream (index + 1))
      (state.output filter stream (index + 2)) := by
  -- The first step may restart: then it is a step from the steady registers.
  obtain ⟨registers, first⟩ : ∃ registers,
      ((state.after filter stream (index + 1)).registers, state.output filter stream index) =
        filter.biquad.step registers (stream index).2 := by
    by_cases restarts : (state.after filter stream index).Restarts (stream index).1
    · exact ⟨_, step_restarts on restarts _⟩
    · exact ⟨_, step_continues on restarts _⟩
  have second := step_continues on second (stream (index + 1)).2
  have third := step_continues on third (stream (index + 2)).2
  have recurs := filter.biquad.step_recurs registers (stream index).2 (stream (index + 1)).2
    (stream (index + 2)).2
  simp only [← first, ← second] at recurs
  have same : (state.after filter stream (index + 2)).registers =
      ((state.after filter stream (index + 1)).step filter (stream (index + 1)).1
        (stream (index + 1)).2).1.registers := rfl
  rw [← same, ← third] at recurs
  exact recurs

end ImuLowPassState

namespace ImuLowPass
variable {K : Type} [Field K] [LinearOrder K] [IsStrictOrderedRing K]

section Coefficients
variable {k sqrt2 : K}

theorem denominator_pos (positive : 0 < k) (root : 0 < sqrt2) : 0 < 1 + sqrt2 * k + k * k := by
  positivity

/-- The design has unit gain at rest. -/
theorem coefficients_gain (positive : 0 < k) (root : 0 < sqrt2) :
    (coefficients k sqrt2).biquad.UnitGain := by
  have nonzero := (denominator_pos positive root).ne'
  simp only [Biquad.UnitGain, biquad, coefficients]
  field_simp
  ring

/-- Both poles lie inside the unit circle. -/
theorem coefficients_stable (positive : 0 < k) (root : 0 < sqrt2) :
    |(coefficients k sqrt2).a2| < 1 ∧
      |(coefficients k sqrt2).a1| < 1 + (coefficients k sqrt2).a2 := by
  have denominator := denominator_pos positive root
  have product : 0 < sqrt2 * k := mul_pos root positive
  have square : 0 < k * k := mul_pos positive positive
  simp only [coefficients, mul_one_div]
  constructor
  · rw [abs_div, abs_of_pos denominator, div_lt_one denominator, abs_lt]
    constructor <;> linarith
  · have sum : 1 + (1 - sqrt2 * k + k * k) / (1 + sqrt2 * k + k * k) =
        (1 + 1) * (1 + k * k) / (1 + sqrt2 * k + k * k) := by
      field_simp
      ring
    rw [sum, abs_div, abs_of_pos denominator, div_lt_div_iff_of_pos_right denominator, abs_lt]
    constructor <;> linarith

/-- The denominators of the delay are positive. -/
theorem coefficients_sum_pos (positive : 0 < k) (root : 0 < sqrt2) :
    0 < (coefficients k sqrt2).b0 + (coefficients k sqrt2).b1 + (coefficients k sqrt2).b2 := by
  have denominator := denominator_pos positive root
  simp only [coefficients]
  positivity

/-- The two quotients of the delay have one denominator. -/
theorem coefficients_samples (positive : 0 < k) (root : 0 < sqrt2) :
    let filter := coefficients k sqrt2
    filter.samples * (1 + filter.a1 + filter.a2) =
      filter.b1 + (1 + 1) * filter.b2 - (filter.a1 + (1 + 1) * filter.a2) := by
  intro filter
  have gain : filter.b0 + filter.b1 + filter.b2 = 1 + filter.a1 + filter.a2 :=
    coefficients_gain positive root
  have nonzero := (coefficients_sum_pos positive root).ne'
  change filter.b0 + filter.b1 + filter.b2 ≠ 0 at nonzero
  rw [samples, gain, ← sub_div, div_mul_cancel₀ _ (gain ▸ nonzero)]

end Coefficients

/-- The filter is stable. It gives a constant back from every restart on, and it delays a ramp by
its declared delay: the output differs from the delayed ramp by a solution without input. -/
theorem low_pass_exact [FloorRing K] {k sqrt2 : K} (positive : 0 < k) (root : 0 < sqrt2) (fs : K) :
    let filter := design k sqrt2 fs
    (filter.b0 + filter.b1 + filter.b2 = 1 + filter.a1 + filter.a2 ∧ |filter.a2| < 1 ∧
      |filter.a1| < 1 + filter.a2) ∧
    (∀ (state : ImuLowPassState K) stream (value : Axes K) first,
      (∀ index, (stream (first + index)).2 = value) →
      (state.after filter stream first).Restarts (stream first).1 →
      ∀ index, state.output filter stream (first + index) = value) ∧
    ∀ slope start : Axes K,
      let ramp (n : K) : Axes K := n • slope + start
      let delayed (n : K) : Axes K := ramp (n - filter.samples)
      (∀ n : K, filter.biquad.Recurs (ramp n) (ramp (n + 1)) (ramp (n + (1 + 1)))
        (delayed n) (delayed (n + 1)) (delayed (n + (1 + 1)))) ∧
      ∀ (state : ImuLowPassState K) (stream : Nat → ImuSample K),
        (∀ index : Nat, (stream index).2 = ramp index) →
        let error (index : Nat) : Axes K := state.output filter stream index - delayed index
        ∀ index, ¬ (state.after filter stream (index + 1)).Restarts (stream (index + 1)).1 →
          ¬ (state.after filter stream (index + 2)).Restarts (stream (index + 2)).1 →
          error (index + 2) = -filter.a1 • error (index + 1) - filter.a2 • error index := by
  intro filter
  have gain : filter.biquad.UnitGain := coefficients_gain positive root
  have delay := Biquad.recurs_ramp (V := Axes K) gain (coefficients_samples positive root)
  refine ⟨⟨gain, coefficients_stable positive root⟩, ?_, ?_⟩
  · intro state stream value first constant restarts
    exact ImuLowPassState.output_constant rfl gain constant restarts
  · intro slope start ramp delayed
    refine ⟨delay slope start, ?_⟩
    intro state stream sampled error index second third
    have actual := ImuLowPassState.output_recurs rfl state stream index second third
    have exact := delay slope start (index : K)
    have next : ((index + 1 : Nat) : K) = index + 1 := Nat.cast_succ index
    have newest : ((index + 2 : Nat) : K) = index + (1 + 1) := by push_cast; ring
    rw [sampled, sampled, sampled, next, newest] at actual
    have differs := actual.sub exact
    simp only [error, delayed, next, newest]
    exact differs

end ImuLowPass

namespace SampleLowPass

def filter : ImuLowPass ℚ := .design (1 / 10) (7 / 5) 416

def start : ImuLowPassState ℚ := { s1 := 0, s2 := 0 }

/-- The sample times of a device at about 416 Hz. -/
def time (index : Nat) : Int := 2400000 * index + 1

def gravity : Nat → ImuSample ℚ := fun index => (time index, ![0, 0, 9])

def ramp : Nat → ImuSample ℚ := fun index => (time index, (index : ℚ) • ![1, 0, 0] + ![0, 0, 9])

/-- The samples of the ramp follow closely, so none restarts the filter. -/
theorem ramp_continues (index : Nat) :
    ¬ (start.after filter ramp (index + 1)).Restarts (ramp (index + 1)).1 := by
  have last : (start.after filter ramp (index + 1)).last = time index := rfl
  rw [ImuLowPassState.Restarts, last]
  simp only [ramp, time]
  omega

/-- Gravity passes unchanged, and the error of a ramp follows the recurrence. -/
theorem low_pass_exact_tenth :
    |filter.a2| < 1 ∧ (∀ index, start.output filter gravity (0 + index) = ![0, 0, 9]) ∧
      let error (index : Nat) : Axes ℚ := start.output filter ramp index -
        (((index : ℚ) - filter.samples) • ![1, 0, 0] + ![0, 0, 9])
      ∀ index, error (index + 2) = -filter.a1 • error (index + 1) - filter.a2 • error index := by
  have tangent : (0 : ℚ) < 1 / 10 := by norm_num
  have root : (0 : ℚ) < 7 / 5 := by norm_num
  obtain ⟨stable, constant, ramps⟩ := ImuLowPass.low_pass_exact tangent root 416
  refine ⟨stable.2.1, constant start gravity ![0, 0, 9] 0 (fun _ => rfl) (.inl rfl), ?_⟩
  intro error index
  exact (ramps ![1, 0, 0] ![0, 0, 9]).2 start ramp (fun _ => rfl) index (ramp_continues index)
    (ramp_continues (index + 1))

end SampleLowPass
end Vio
