import Vio.Proof.Frames.Attitude

namespace Vio
open Matrix EulerAngles

/-- A unit quaternion. -/
def Quaternion.Unit (quaternion : Quaternion ℝ) : Prop :=
  quaternion.w ^ 2 + quaternion.x ^ 2 + quaternion.y ^ 2 + quaternion.z ^ 2 = 1

namespace Quaternion
variable {quaternion : Quaternion ℝ} (unit : quaternion.Unit)
include unit

theorem Unit.stableNorm : quaternion.stableNorm = 1 := by
  rw [stableNorm_eq, Real.sqrt_eq_one]
  rw [Unit] at unit
  linear_combination unit

theorem Unit.large : 1 / 1000000000000 ≤ quaternion.stableNorm := by
  rw [unit.stableNorm]
  norm_num

theorem Unit.normalized : quaternion.normalizedBy quaternion.stableNorm = quaternion := by
  rw [unit.stableNorm, normalizedBy]
  simp only [div_one]

end Quaternion

/-- The change between the two worlds undoes itself. -/
theorem nedFromWorld_involutive :
    (nedFromWorld : Matrix3 ℝ).entries * (nedFromWorld : Matrix3 ℝ).entries = 1 := by
  have orthogonal := (mem_rotations_iff.mp nedFromWorld_mem).1
  have symmetric : (nedFromWorld : Matrix3 ℝ).entriesᵀ = (nedFromWorld : Matrix3 ℝ).entries := by
    rw [nedFromWorld_entries]
    ext row column
    fin_cases row <;> fin_cases column <;> rfl
  rwa [symmetric] at orthogonal

namespace FrameTransform
variable {frames : FrameTransform ℝ} {quaternion : Quaternion ℝ} {gravity : ℝ}

/-- A positive gravity is accepted, and points up in the axes of the IMU. -/
theorem expectedStationaryAcceleration_ok (positive : 0 < gravity) :
    frames.expectedStationaryAcceleration gravity =
      .ok (frames.bodyFromImu.transpose.apply ⟨0, 0, -gravity⟩) := by
  unfold expectedStationaryAcceleration
  rw [if_neg, zero_literal]
  rw [zero_literal]
  simpa [Scalar.isFinite, Scalar.le] using positive

/-- The rotated force points up in the world exactly if it points up in the NED frame. -/
theorem upward_iff (unit : quaternion.Unit) : quaternion.toRotationMatrix.apply
      (frames.bodyFromImu.transpose.apply ⟨0, 0, -gravity⟩) = ⟨0, 0, gravity⟩ ↔
    (frames.nedFromBody quaternion).entries *ᵥ ![0, 0, -gravity] = ![0, 0, -gravity] := by
  have body : (frames.nedFromBody quaternion).entries *ᵥ ![0, 0, -gravity] =
      (nedFromWorld : Matrix3 ℝ).entries *ᵥ (quaternion.toRotationMatrix.apply
        (frames.bodyFromImu.transpose.apply ⟨0, 0, -gravity⟩)).coordinates := by
    rw [entries_nedFromBody, unit.normalized, Matrix3.entries_apply, Matrix3.entries_apply,
      Matrix3.entries_transpose, mulVec_mulVec, mulVec_mulVec]
    rfl
  have up : (nedFromWorld : Matrix3 ℝ).entries *ᵥ (⟨0, 0, gravity⟩ : Vector3 ℝ).coordinates =
      ![0, 0, -gravity] := by
    rw [nedFromWorld_entries]
    ext row
    rw [mulVec, dotProduct, Fin.sum_univ_three]
    fin_cases row <;> simp [Vector3.coordinates]
  rw [body]
  constructor
  · intro same
    rw [same, up]
  · intro same
    apply Vector3.coordinates_injective
    -- The axis swap is its own inverse.
    have swapped := congrArg ((nedFromWorld : Matrix3 ℝ).entries *ᵥ ·) (same.trans up.symm)
    simpa only [mulVec_mulVec, nedFromWorld_involutive, one_mulVec] using swapped

/-- The conversion reports a level attitude exactly if the predicted stationary acceleration points
up in the world. -/
theorem level_iff_gravity_up {camera : Matrix3 ℝ} (proper : camera.entries ∈ Rotations)
    (mount : CameraMount ℝ) {estimate : EstimatorEstimate ℝ} (unit : estimate.worldFromImu.Unit)
    {gravity : ℝ} (positive : 0 < gravity) : ∃ frames measurement acceleration,
      create camera mount = .ok frames ∧ frames.transform estimate = .ok measurement ∧
      frames.expectedStationaryAcceleration gravity = .ok acceleration ∧
      (measurement.rollPitchYawRad.x = 0 ∧ measurement.rollPitchYawRad.y = 0 ↔
        estimate.worldFromImu.toRotationMatrix.apply acceleration = ⟨0, 0, gravity⟩) := by
  obtain ⟨frames, created, _, body⟩ := create_rotation proper mount
  have member := nedFromBody_mem body (stableNorm_ne_zero unit.large)
  refine ⟨frames, _, _, created, transform_angles unit.large,
    expectedStationaryAcceleration_ok positive, ?_⟩
  have scale : (![0, 0, -gravity] : Fin 3 → ℝ) = -gravity • ![0, 0, 1] := by
    simp only [smul_cons, smul_eq_mul, mul_zero, mul_one, smul_empty]
  rw [upward_iff unit, scale, mulVec_smul]
  have nonzero : -gravity ≠ 0 := (neg_neg_of_pos positive).ne
  rw [(smul_right_injective _ nonzero).eq_iff]
  exact level_iff member

/-- Upside down in the world of the estimator is level for the controller, and the predicted
acceleration points up. -/
theorem level_iff_gravity_up_forward : ∃ frames measurement acceleration,
    create forwardCamera ⟨0, false⟩ = .ok frames ∧
    frames.transform (restingEstimate ⟨0, 1, 0, 0⟩) = .ok measurement ∧
    frames.expectedStationaryAcceleration 9 = .ok acceleration ∧
    measurement.rollPitchYawRad.x = 0 ∧ measurement.rollPitchYawRad.y = 0 ∧
    (⟨0, 1, 0, 0⟩ : Quaternion ℝ).toRotationMatrix.apply acceleration = ⟨0, 0, 9⟩ := by
  have unit : (⟨0, 1, 0, 0⟩ : Quaternion ℝ).Unit := by simp [Quaternion.Unit]
  have positive : (0 : ℝ) < 9 := by norm_num
  obtain ⟨frames, measurement, acceleration, created, converted, accelerated, level⟩ :=
    level_iff_gravity_up forwardCamera_mem ⟨0, false⟩
      (show (restingEstimate ⟨0, 1, 0, 0⟩).worldFromImu.Unit from unit) positive
  have value : acceleration = frames.bodyFromImu.transpose.apply ⟨0, 0, -9⟩ :=
    Except.ok.inj (accelerated.symm.trans (expectedStationaryAcceleration_ok positive))
  have up : (⟨0, 1, 0, 0⟩ : Quaternion ℝ).toRotationMatrix.apply acceleration = ⟨0, 0, 9⟩ := by
    rw [value, upward_iff unit, entries_nedFromBody, unit.normalized, forward_bodyFromImu created,
      transpose_one, Matrix.mul_one, nedFromWorld_entries, Quaternion.entries_toRotationMatrix]
    ext row
    rw [mulVec, dotProduct, Fin.sum_univ_three]
    fin_cases row
    · simp [quaternionMatrix, mul_apply, Fin.sum_univ_three]
    · simp [quaternionMatrix, mul_apply, Fin.sum_univ_three]
    · simp only [quaternionMatrix, mul_apply, Fin.sum_univ_three]
      simp
      norm_num
  obtain ⟨roll, pitch⟩ := level.mpr up
  exact ⟨frames, measurement, acceleration, created, converted, accelerated, roll, pitch, up⟩

end FrameTransform
end Vio
