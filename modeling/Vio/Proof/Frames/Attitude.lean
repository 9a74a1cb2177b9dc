import Vio.Proof.Frames.Matrices

namespace Vio
open Matrix EulerAngles

namespace Quaternion

/-- The quaternion times a real number. -/
def scaled (quaternion : Quaternion ℝ) (factor : ℝ) : Quaternion ℝ :=
  ⟨factor * quaternion.w, factor * quaternion.x, factor * quaternion.y, factor * quaternion.z⟩

variable (quaternion : Quaternion ℝ)

theorem stableNorm_eq : quaternion.stableNorm =
    Real.sqrt (quaternion.x ^ 2 + quaternion.y ^ 2 + quaternion.z ^ 2 + quaternion.w ^ 2) := rfl

theorem stableNorm_sq : quaternion.stableNorm ^ 2 =
    quaternion.x ^ 2 + quaternion.y ^ 2 + quaternion.z ^ 2 + quaternion.w ^ 2 := by
  rw [stableNorm_eq]
  exact Real.sq_sqrt (by positivity)

/-- The norm of a scaled quaternion is scaled by the absolute value. -/
theorem stableNorm_scaled (factor : ℝ) :
    (quaternion.scaled factor).stableNorm = |factor| * quaternion.stableNorm := by
  rw [stableNorm_eq, stableNorm_eq, ← Real.sqrt_sq_eq_abs, ← Real.sqrt_mul (sq_nonneg factor)]
  congr 1
  simp only [scaled]
  ring

variable {quaternion}

/-- The rotation of the normalised quaternion. -/
theorem entries_normalized (norm : ℝ) :
    (quaternion.normalizedBy norm).toRotationMatrix.entries =
      quaternionMatrix (quaternion.w / norm) (quaternion.x / norm) (quaternion.y / norm)
        (quaternion.z / norm) := entries_toRotationMatrix _

/-- A normalized quaternion is a rotation. -/
theorem normalized_mem (nonzero : quaternion.stableNorm ≠ 0) :
    (quaternion.normalizedBy quaternion.stableNorm).toRotationMatrix.entries ∈ Rotations := by
  rw [entries_normalized]
  apply quaternionMatrix_mem
  have square := quaternion.stableNorm_sq
  field_simp
  linear_combination -square

/-- A factor does not change the rotation, not even a negative one. -/
theorem normalized_scaled {factor : ℝ} (nonzero : factor ≠ 0) :
    ((quaternion.scaled factor).normalizedBy (quaternion.scaled factor).stableNorm).toRotationMatrix.entries =
      (quaternion.normalizedBy quaternion.stableNorm).toRotationMatrix.entries := by
  rw [entries_normalized, entries_normalized, stableNorm_scaled]
  have part (coordinate : ℝ) (sign : ℝ) (absolute : |factor| = sign * factor) (unit : sign * sign = 1) :
      factor * coordinate / (|factor| * quaternion.stableNorm) =
        sign * (coordinate / quaternion.stableNorm) := by
    rw [absolute, show factor * coordinate = factor * (sign * sign * coordinate) by rw [unit, one_mul]]
    have other : sign ≠ 0 := by
      rintro rfl
      simp at unit
    field_simp
  simp only [scaled]
  rcases abs_choice factor with positive | negative
  · have absolute : |factor| = 1 * factor := by rw [one_mul, positive]
    simp only [part _ 1 absolute (one_mul 1), one_mul]
  · have absolute : |factor| = -1 * factor := by rw [neg_one_mul, negative]
    simp only [part _ (-1) absolute (by norm_num), neg_one_mul]
    exact quaternionMatrix_neg

end Quaternion

/-- The clamp does not change the arcsine. -/
theorem arcsin_clamp (value : ℝ) : Real.arcsin (clamp value (-1) 1) = Real.arcsin value := by
  unfold clamp
  split
  · rename_i below
    rw [Real.arcsin_neg_one, Real.arcsin_of_le_neg_one (of_decide_eq_true below).le]
  · split
    · rename_i above
      rw [Real.arcsin_one, Real.arcsin_of_one_le (of_decide_eq_true above).le]
    · rfl

theorem tiny_literal :
    @OfScientific.ofScientific ℝ Scalar.toOfScientific 1 true 12 = 1 / 1000000000000 := by
  rw [literal_eq]
  norm_num

theorem tolerance_literal :
    @OfScientific.ofScientific ℝ Scalar.toOfScientific 1 true 6 = 1 / 1000000 := by
  rw [literal_eq]
  norm_num

namespace FrameTransform

/-- The constructor accepts every proper rotation. -/
theorem create_proper {camera : Matrix3 ℝ} (proper : camera.entries ∈ Rotations) (mount : CameraMount ℝ) :
    create camera mount = .ok ⟨(bodyFromCamera mount).mul camera⟩ := by
  obtain ⟨orthogonal, det⟩ := mem_rotations_iff.mp proper
  have distance : (camera.mul camera.transpose).identityDistance = 0 := by
    apply Matrix3.identityDistance_one
    rw [Matrix3.entries_mul, Matrix3.entries_transpose, orthogonal]
  have volume : camera.determinant = 1 := by rw [Matrix3.determinant_eq, det]
  unfold create
  rw [if_neg]
  rw [distance, volume, one_literal, tolerance_literal]
  simp [Matrix3.allFinite, Vector3.allFinite, Scalar.isFinite, Scalar.lt, Scalar.abs]

/-- The rotation from the IMU to the body that the constructor keeps. -/
theorem create_rotation {camera : Matrix3 ℝ} (proper : camera.entries ∈ Rotations)
    (mount : CameraMount ℝ) : ∃ frames, create camera mount = .ok frames ∧
      frames.bodyFromImu.entries = (bodyFromCamera mount).entries * camera.entries ∧
      frames.bodyFromImu.entries ∈ Rotations := by
  have product := Matrix3.entries_mul (bodyFromCamera mount) camera
  refine ⟨_, create_proper proper mount, product, ?_⟩
  rw [product]
  exact mul_mem (bodyFromCamera_mem mount) proper

variable (frames : FrameTransform ℝ) (estimate : EstimatorEstimate ℝ)

theorem entries_nedFromBody (quaternion : Quaternion ℝ) : (frames.nedFromBody quaternion).entries =
    (nedFromWorld : Matrix3 ℝ).entries *
      (quaternion.normalizedBy quaternion.stableNorm).toRotationMatrix.entries *
        frames.bodyFromImu.entriesᵀ := by
  rw [nedFromBody, Matrix3.entries_mul, Matrix3.entries_mul, Matrix3.entries_transpose]

variable {frames estimate}

theorem nedFromBody_mem (proper : frames.bodyFromImu.entries ∈ Rotations) {quaternion : Quaternion ℝ}
    (nonzero : quaternion.stableNorm ≠ 0) : (frames.nedFromBody quaternion).entries ∈ Rotations := by
  rw [entries_nedFromBody]
  exact mul_mem (mul_mem nedFromWorld_mem (Quaternion.normalized_mem nonzero)) (transpose_mem proper)

/-- The angles that the conversion reports are those of the body's rotation. -/
theorem transform_angles (large : 1 / 1000000000000 ≤ estimate.worldFromImu.stableNorm) :
    frames.transform estimate = .ok
      { timestamp := estimate.timestamp
        generation := estimate.generation
        positionNedM := nedFromWorld.apply estimate.positionWorldM
        velocityNedMps := nedFromWorld.apply estimate.velocityWorldMps
        rollPitchYawRad :=
          ⟨rollOf (frames.nedFromBody estimate.worldFromImu).entries,
            pitchOf (frames.nedFromBody estimate.worldFromImu).entries,
            yawOf (frames.nedFromBody estimate.worldFromImu).entries⟩ } := by
  unfold transform
  dsimp only
  rw [if_neg]
  · rw [one_literal]
    have pitch : Scalar.asin (clamp (frames.nedFromBody estimate.worldFromImu).row2.x (-1) 1) =
        Real.arcsin (frames.nedFromBody estimate.worldFromImu).row2.x := arcsin_clamp _
    rw [pitch]
    rfl
  · rw [tiny_literal]
    simpa [Vector3.allFinite, Quaternion.allFinite, Scalar.isFinite, Scalar.lt] using large

theorem stableNorm_ne_zero {quaternion : Quaternion ℝ}
    (large : 1 / 1000000000000 ≤ quaternion.stableNorm) : quaternion.stableNorm ≠ 0 := by
  intro zero
  rw [zero] at large
  norm_num at large

/-- The conversion reports the true attitude. The matrix behind the angles is a proper rotation, a
factor of the quaternion changes nothing, the angles give the matrix back where they are unique, and
one fixed proper rotation maps positions and velocities. -/
theorem true_attitude {camera : Matrix3 ℝ} (proper : camera.entries ∈ Rotations)
    (mount : CameraMount ℝ) : ∃ frames, create camera mount = .ok frames ∧
      ∃ world ∈ Rotations,
        (∀ first second, (world *ᵥ first) ⬝ᵥ (world *ᵥ second) = first ⬝ᵥ second) ∧
        ∀ estimate : EstimatorEstimate ℝ, 1 / 1000000000000 ≤ estimate.worldFromImu.stableNorm →
          ∃ measurement, frames.transform estimate = .ok measurement ∧
            (frames.nedFromBody estimate.worldFromImu).entries ∈ Rotations ∧
            (∀ factor, 1 / 1000000000000 ≤ (estimate.worldFromImu.scaled factor).stableNorm →
              frames.transform { estimate with worldFromImu := estimate.worldFromImu.scaled factor } =
                .ok measurement) ∧
            (-1 < (frames.nedFromBody estimate.worldFromImu).row2.x →
              (frames.nedFromBody estimate.worldFromImu).row2.x < 1 →
              rotZ measurement.rollPitchYawRad.z * rotY measurement.rollPitchYawRad.y *
                rotX measurement.rollPitchYawRad.x =
                  (frames.nedFromBody estimate.worldFromImu).entries) ∧
            measurement.positionNedM.coordinates = world *ᵥ estimate.positionWorldM.coordinates ∧
            measurement.velocityNedMps.coordinates = world *ᵥ estimate.velocityWorldMps.coordinates := by
  obtain ⟨frames, created, _, body⟩ := create_rotation proper mount
  refine ⟨frames, created, (nedFromWorld : Matrix3 ℝ).entries, nedFromWorld_mem,
    mulVec_dotProduct nedFromWorld_mem, fun estimate large => ?_⟩
  have nonzero : estimate.worldFromImu.stableNorm ≠ 0 := stableNorm_ne_zero large
  have member := nedFromBody_mem body nonzero
  refine ⟨_, transform_angles large, member, ?_, ?_, ?_, ?_⟩
  · intro factor largeScaled
    have factorNonzero : factor ≠ 0 := by
      rintro rfl
      apply stableNorm_ne_zero largeScaled
      rw [Quaternion.stableNorm_scaled, abs_zero, zero_mul]
    rw [transform_angles largeScaled]
    dsimp only
    rw [entries_nedFromBody, entries_nedFromBody, Quaternion.normalized_scaled factorNonzero]
  · intro above below
    exact zyx_angles member above below
  · exact Matrix3.entries_apply _ _
  · exact Matrix3.entries_apply _ _

/-- The IMU axes of a body: a camera that looks forward, upright. -/
noncomputable def forwardCamera : Matrix3 ℝ := (bodyFromCamera ⟨0, false⟩).transpose

theorem forwardCamera_mem : forwardCamera.entries ∈ Rotations := by
  rw [forwardCamera, Matrix3.entries_transpose]
  exact transpose_mem (bodyFromCamera_mem _)

/-- The level frames: the IMU axes are the body axes. -/
theorem forward_bodyFromImu {frames : FrameTransform ℝ}
    (created : create forwardCamera ⟨0, false⟩ = .ok frames) : frames.bodyFromImu.entries = 1 := by
  obtain ⟨other, made, product, -⟩ := create_rotation forwardCamera_mem ⟨0, false⟩
  rw [created] at made
  injection made with same
  rw [same, product, forwardCamera, Matrix3.entries_transpose]
  exact (mem_rotations_iff.mp (bodyFromCamera_mem _)).1

def restingEstimate (worldFromImu : Quaternion ℝ) : EstimatorEstimate ℝ where
  timestamp := 0
  generation := ⟨1⟩
  status := .ready
  positionWorldM := ⟨1, 0, 1⟩
  velocityWorldMps := ⟨0, 0, 0⟩
  worldFromImu

theorem double_stableNorm : (⟨2, 0, 0, 0⟩ : Quaternion ℝ).stableNorm = 2 := by
  rw [Quaternion.stableNorm_eq]
  show Real.sqrt (0 ^ 2 + 0 ^ 2 + 0 ^ 2 + 2 ^ 2) = 2
  rw [zero_pow two_ne_zero, add_zero, add_zero, zero_add, Real.sqrt_sq zero_le_two]

/-- A scaled and a negated quaternion give the same attitude. -/
theorem true_attitude_forward : ∃ frames measurement, create forwardCamera ⟨0, false⟩ = .ok frames ∧
    frames.transform (restingEstimate ⟨2, 0, 0, 0⟩) = .ok measurement ∧
    frames.transform (restingEstimate (Quaternion.scaled ⟨2, 0, 0, 0⟩ (-3))) = .ok measurement ∧
    rotZ measurement.rollPitchYawRad.z * rotY measurement.rollPitchYawRad.y *
      rotX measurement.rollPitchYawRad.x = (frames.nedFromBody ⟨2, 0, 0, 0⟩).entries := by
  obtain ⟨frames, created, _, _, _, holds⟩ := true_attitude forwardCamera_mem ⟨0, false⟩
  have large : 1 / 1000000000000 ≤ (⟨2, 0, 0, 0⟩ : Quaternion ℝ).stableNorm := by
    rw [double_stableNorm]
    norm_num
  obtain ⟨measurement, converted, _, same, angles, _, _⟩ := holds (restingEstimate ⟨2, 0, 0, 0⟩) large
  have entry : (frames.nedFromBody ⟨2, 0, 0, 0⟩).row2.x = 0 := by
    show (frames.nedFromBody ⟨2, 0, 0, 0⟩).entries 2 0 = 0
    rw [entries_nedFromBody, forward_bodyFromImu created, transpose_one, Matrix.mul_one,
      nedFromWorld_entries, Quaternion.entries_normalized, double_stableNorm, mul_apply,
      Fin.sum_univ_three]
    simp [quaternionMatrix]
  refine ⟨frames, measurement, created, converted, same (-3) ?_, angles ?_ ?_⟩
  · show _ ≤ (Quaternion.scaled ⟨2, 0, 0, 0⟩ (-3)).stableNorm
    rw [Quaternion.stableNorm_scaled, double_stableNorm]
    norm_num
  · show -1 < (frames.nedFromBody ⟨2, 0, 0, 0⟩).row2.x
    rw [entry]
    norm_num
  · show (frames.nedFromBody ⟨2, 0, 0, 0⟩).row2.x < 1
    rw [entry]
    norm_num

end FrameTransform
end Vio
