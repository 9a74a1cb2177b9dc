import Mathlib.Algebra.Field.Rat
import Vio.Library.FallibleLoop
import Vio.Proof.Imu.Streaming

namespace Vio
open Interpolation

variable {K : Type} [Field K]

/-- The documented interpolation through increasing nodes: the values at the nodes, and the lines
between them. -/
structure Interpolates (interp : Int → List Int → List K → K) : Prop where
  node : ∀ (nodes : List (Int × K)) node, Increasing nodes → node ∈ nodes →
    interp node.1 (nodes.map Prod.fst) (nodes.map Prod.snd) = node.2
  segment : ∀ (nodes : List (Int × K)) before left right after time, Increasing nodes →
    nodes = before ++ left :: right :: after → left.1 ≤ time → time < right.1 →
      interp time (nodes.map Prod.fst) (nodes.map Prod.snd) =
        left.2 + ((time - left.1 : Int) : K) / ((right.1 - left.1 : Int) : K) * (right.2 - left.2)

/-- A row of the tool as the estimator would read it. -/
def KalibrRow.data (row : KalibrRow K) : ImuData K := imuData row.timestamp row.omega row.alpha

/-- One axis of the stream. -/
def axisNodes (stream : List (ImuSample K)) (axis : Fin 3) : List (Int × K) :=
  stream.map fun node => (node.1, node.2 axis)

omit [Field K] in
theorem axisNodes_increasing {stream : List (ImuSample K)} (increasing : Increasing stream)
    (axis : Fin 3) : Increasing (axisNodes stream axis) := by
  apply List.pairwise_map.mpr
  exact increasing

/-- The library's value on each axis is that of the piecewise linear function. -/
theorem Interpolates.linear {interp : Int → List Int → List K → K} (lawful : Interpolates interp)
    {stream : List (ImuSample K)} (increasing : Increasing stream) {time : Int}
    (inside : spans stream time = true) (axis : Fin 3) :
    interp time (stream.map Prod.fst) (stream.map fun node => node.2 axis) =
      linear K stream time axis := by
  have times : stream.map Prod.fst = (axisNodes stream axis).map Prod.fst := by
    rw [axisNodes, List.map_map]
    rfl
  have values : (stream.map fun node => node.2 axis) = (axisNodes stream axis).map Prod.snd := by
    rw [axisNodes, List.map_map]
    rfl
  have ordered := axisNodes_increasing increasing axis
  rw [times, values]
  rcases spans_cases inside with
    ⟨before, left, right, after, split, begins, ends⟩ | ⟨before, last, split, same⟩
  · rw [lawful.segment _ (axisNodes before axis) (left.1, left.2 axis) (right.1, right.2 axis)
      (axisNodes after axis) time ordered (by rw [split]; simp [axisNodes]) begins ends]
    have line : Interpolation.linear K stream time = between K left right time := by
      rw [split] at increasing ⊢
      rw [linear_drop increasing begins, Interpolation.linear, if_pos ends]
    rw [line]
    rfl
  · subst same
    have member : (last.1, last.2 axis) ∈ axisNodes stream axis := by
      rw [split]
      simp [axisNodes]
    have value : Interpolation.linear K stream last.1 = last.2 := by
      rw [split] at increasing ⊢
      rw [linear_drop increasing (Int.le_refl _), Interpolation.linear]
    rw [value]
    exact lawful.node _ _ ordered member

namespace ImuThread

section Example

/-- A record of 16 bytes: three axes, of which the first counts, and a time of two bytes. -/
def wire (low high axis : UInt8) : List UInt8 :=
  [axis, 0, 0, 0, 0, 0, 0, 0, low, high, 0, 0, 0, 0, 0, 0]

/-- The library's function on one axis. -/
def lineInterp (time : Int) (times : List Int) (values : List ℚ) : ℚ :=
  linear ℚ (times.zip values) time

end Example

end ImuThread
end Vio
