/-
This file holds the coefficients of the IMU low-pass over an exact ordered field. The tangent at the
cutoff and the root of two are arguments.
-/

import Mathlib.Algebra.Order.Floor.Defs
import Vio.Construction.ImuThread

namespace Vio
variable {K : Type} [Field K]

namespace ImuLowPass

/-- The group delay at rest, in samples. -/
def samples (filter : ImuLowPass K) : K :=
  (filter.b1 + (1 + 1) * filter.b2) / (filter.b0 + filter.b1 + filter.b2) -
    (filter.a1 + (1 + 1) * filter.a2) / (1 + filter.a1 + filter.a2)

def coefficients (k sqrt2 : K) : ImuLowPass K :=
  let n := 1 / (1 + sqrt2 * k + k * k)
  let b0 := k * k * n
  { on := true
    b0
    b1 := (1 + 1) * b0
    b2 := b0
    a1 := (1 + 1) * (k * k - 1) * n
    a2 := (1 - sqrt2 * k + k * k) * n }

variable [LinearOrder K] [FloorRing K]

/-- The conversion to an integer drops the fraction. -/
def toInt64 (value : K) : Int := if 0 ≤ value then ⌊value⌋ else ⌈value⌉

def design (k sqrt2 fs : K) : ImuLowPass K :=
  let filter := coefficients k sqrt2
  { filter with delay := toInt64 (filter.samples / fs * (1000000000 : Int)) }

end ImuLowPass

namespace ImuLowPassState

/-- The state before each sample of a stream. -/
def after (state : ImuLowPassState K) (filter : ImuLowPass K) (stream : Nat → ImuSample K) :
    Nat → ImuLowPassState K
  | 0 => state
  | index + 1 =>
      ((state.after filter stream index).step filter (stream index).1 (stream index).2).1

/-- The filtered value of each sample of a stream. -/
def output (state : ImuLowPassState K) (filter : ImuLowPass K) (stream : Nat → ImuSample K)
    (index : Nat) : Axes K :=
  ((state.after filter stream index).step filter (stream index).1 (stream index).2).2

end ImuLowPassState
end Vio
