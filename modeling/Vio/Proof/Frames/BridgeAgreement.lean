import Vio.Proof.Frames.Level
import Vio.Construction.BridgeFrames

namespace Vio
open Matrix EulerAngles

namespace RotationLibrary

/-- The documented behaviour of the rotation library, over exact real numbers. `matrix` gives the
rotation matrix of a library value. -/
structure Exact (library : RotationLibrary ℝ) (matrix : library.Rotation → Matrix (Fin 3) (Fin 3) ℝ) :
    Prop where
  fromQuat : ∀ {x y z w : ℝ}, w ^ 2 + x ^ 2 + y ^ 2 + z ^ 2 = 1 →
    matrix (library.fromQuat x y z w) = quaternionMatrix w x y z
  compose : ∀ first second, matrix (library.compose first second) = matrix first * matrix second
  -- The documented ranges include both ends of a half turn.
  asEuler : ∀ rotation, matrix rotation ∈ Rotations → -1 < matrix rotation 2 0 →
    matrix rotation 2 0 < 1 →
      zyx (library.asEuler rotation).x (library.asEuler rotation).y (library.asEuler rotation).z =
        matrix rotation ∧
      (library.asEuler rotation).x ∈ Set.Icc (-Real.pi) Real.pi ∧
      (library.asEuler rotation).y ∈ Set.Icc (-(Real.pi / 2)) (Real.pi / 2) ∧
      (library.asEuler rotation).z ∈ Set.Icc (-Real.pi) Real.pi

end RotationLibrary

/-- Two names of one angle: the first names the half turn `π`, the second may name it `-π`. -/
def SameTurn (first second : ℝ) : Prop := first = second ∨ first = Real.pi ∧ second = -Real.pi

/-- An angle in the closed range has a principal name. -/
theorem principal_name {angle : ℝ} (range : angle ∈ Set.Icc (-Real.pi) Real.pi) :
    ∃ name ∈ Set.Ioc (-Real.pi) Real.pi, SameTurn name angle ∧ Real.cos name = Real.cos angle ∧
      Real.sin name = Real.sin angle := by
  by_cases half : angle = -Real.pi
  · refine ⟨Real.pi, ⟨by linarith [Real.pi_pos], le_rfl⟩, .inr ⟨rfl, half⟩, ?_, ?_⟩
    · rw [half, Real.cos_neg]
    · rw [half, Real.sin_neg, Real.sin_pi, neg_zero]
  · exact ⟨angle, ⟨lt_of_le_of_ne range.1 (Ne.symm half), range.2⟩, .inl rfl, rfl, rfl⟩

/-- The angles of a rotation, up to the name of the half turn. -/
theorem angles_unique {roll pitch yaw : ℝ} {rotation : Matrix (Fin 3) (Fin 3) ℝ}
    (same : zyx roll pitch yaw = rotation) (above : -1 < rotation 2 0) (below : rotation 2 0 < 1)
    (rollRange : roll ∈ Set.Icc (-Real.pi) Real.pi)
    (pitchRange : pitch ∈ Set.Icc (-(Real.pi / 2)) (Real.pi / 2))
    (yawRange : yaw ∈ Set.Icc (-Real.pi) Real.pi) :
    SameTurn (rollOf rotation) roll ∧ pitchOf rotation = pitch ∧ SameTurn (yawOf rotation) yaw := by
  obtain ⟨roll', rollPrincipal, sameRoll, cosRoll, sinRoll⟩ := principal_name rollRange
  obtain ⟨yaw', yawPrincipal, sameYaw, cosYaw, sinYaw⟩ := principal_name yawRange
  have sine : rotation 2 0 = -Real.sin pitch := by
    rw [← same, zyx_eq]
    rfl
  rw [sine] at above below
  have pitchPrincipal : pitch ∈ Set.Ioo (-(Real.pi / 2)) (Real.pi / 2) := by
    refine ⟨lt_of_le_of_ne pitchRange.1 ?_, lt_of_le_of_ne pitchRange.2 ?_⟩
    · rintro rfl
      rw [Real.sin_neg, Real.sin_pi_div_two, neg_neg] at below
      exact lt_irrefl _ below
    · rintro rfl
      rw [Real.sin_pi_div_two] at above
      exact lt_irrefl _ above
  have renamed : zyx roll' pitch yaw' = rotation := by
    rw [← same, zyx_eq, zyx_eq, cosRoll, sinRoll, cosYaw, sinYaw]
  obtain ⟨rollEq, pitchEq, yawEq⟩ := angles_zyx ⟨rollPrincipal, pitchPrincipal, yawPrincipal⟩
  rw [renamed] at rollEq pitchEq yawEq
  rw [rollEq, pitchEq, yawEq]
  exact ⟨sameRoll, rfl, sameYaw⟩

theorem half_literal : @OfScientific.ofScientific ℝ Scalar.toOfScientific 5 true 1 = 1 / 2 := by
  rw [literal_eq]
  norm_num

/-- The axis flip between the two conventions for the body. -/
def bodyFlip : Matrix (Fin 3) (Fin 3) ℝ := !![1, 0, 0; 0, -1, 0; 0, 0, -1]

theorem bodyFlip_involutive : bodyFlip * bodyFlip = 1 := by
  ext row column
  rw [mul_apply, Fin.sum_univ_three]
  fin_cases row <;> fin_cases column <;> simp [bodyFlip]

theorem bodyFlip_quaternion : quaternionMatrix 0 1 0 0 = bodyFlip := by
  ext row column
  fin_cases row <;> fin_cases column <;> norm_num [quaternionMatrix, bodyFlip]

theorem worldSwap_unit : (0 : ℝ) ^ 2 + Real.sqrt (1 / 2) ^ 2 + Real.sqrt (1 / 2) ^ 2 + 0 ^ 2 = 1 := by
  rw [Real.sq_sqrt one_half_pos.le]
  norm_num

/-- The half turn of the bridge is the axis swap of the filter. -/
theorem worldSwap_quaternion : quaternionMatrix 0 (Real.sqrt (1 / 2)) (Real.sqrt (1 / 2)) 0 =
    (nedFromWorld : Matrix3 ℝ).entries := by
  have half := Real.mul_self_sqrt one_half_pos.le
  have square := Real.sq_sqrt one_half_pos.le
  rw [nedFromWorld_entries, quaternionMatrix, half, square]
  norm_num

/-- The conversion of the position and of the velocity swaps the axes. -/
theorem nedFromWorld_apply (vector : Vector3 ℝ) : nedFromWorld.apply vector = positionEnuToNed vector := by
  simp only [nedFromWorld, Matrix3.apply, Vector3.dot, positionEnuToNed, zero_literal, one_literal]
  ring_nf

section Library
variable {library : RotationLibrary ℝ} {matrix : library.Rotation → Matrix (Fin 3) (Fin 3) ℝ}
  (exact : library.Exact matrix)
include exact

/-- The bridge turns the world axes before the measured rotation and the body axes after it. -/
theorem bridge_matrix {orientation : Quaternion ℝ} (unit : orientation.Unit) :
    matrix (library.compose (library.compose (enuToNed library)
      (library.fromQuat orientation.x orientation.y orientation.z orientation.w)) (fluToFrd library)) =
      (nedFromWorld : Matrix3 ℝ).entries * orientation.toRotationMatrix.entries * bodyFlip := by
  have world : matrix (enuToNed library) = (nedFromWorld : Matrix3 ℝ).entries := by
    rw [enuToNed, half_literal, zero_literal, ← worldSwap_quaternion]
    exact exact.fromQuat worldSwap_unit
  have body : matrix (fluToFrd library) = bodyFlip := by
    rw [fluToFrd, one_literal, zero_literal, ← bodyFlip_quaternion]
    exact exact.fromQuat (by norm_num)
  rw [exact.compose, exact.compose, world, body, exact.fromQuat unit, Quaternion.entries_toRotationMatrix]

end Library

namespace FrameTransform
variable {frames : FrameTransform ℝ} {quaternion orientation : Quaternion ℝ}

/-- Both conversions use one rotation. -/
theorem nedFromBody_flip (unit : quaternion.Unit) (same : orientation.toRotationMatrix.entries =
      quaternion.toRotationMatrix.entries * frames.bodyFromImu.entriesᵀ * bodyFlip) :
    (nedFromWorld : Matrix3 ℝ).entries * orientation.toRotationMatrix.entries * bodyFlip =
      (frames.nedFromBody quaternion).entries := by
  rw [same, entries_nedFromBody, unit.normalized]
  simp only [Matrix.mul_assoc, bodyFlip_involutive, Matrix.mul_one]

/-- Away from a vertical body a quaternion describes the input of the bridge. -/
theorem flip_described (unit : quaternion.Unit) (body : frames.bodyFromImu.entries ∈ Rotations)
    (above : -1 < (frames.nedFromBody quaternion).entries 2 0)
    (below : (frames.nedFromBody quaternion).entries 2 0 < 1) : ∃ orientation : Quaternion ℝ,
      orientation.Unit ∧ orientation.toRotationMatrix.entries =
        quaternion.toRotationMatrix.entries * frames.bodyFromImu.entriesᵀ * bodyFlip := by
  have member := nedFromBody_mem body (stableNorm_ne_zero unit.large)
  have angles : Described (frames.nedFromBody quaternion).entries := by
    rw [← zyx_angles member above below]
    exact zyx_described _ _ _
  have world : Described (nedFromWorld : Matrix3 ℝ).entries :=
    ⟨_, _, _, _, worldSwap_unit, worldSwap_quaternion⟩
  have flip : Described bodyFlip := ⟨0, 1, 0, 0, by norm_num, bodyFlip_quaternion⟩
  obtain ⟨w, x, y, z, one, product⟩ := (world.mul angles).mul flip
  refine ⟨⟨w, x, y, z⟩, one, ?_⟩
  rw [Quaternion.entries_toRotationMatrix, product, entries_nedFromBody, unit.normalized]
  simp only [Matrix.mul_assoc]
  rw [← Matrix.mul_assoc (nedFromWorld : Matrix3 ℝ).entries, nedFromWorld_involutive, Matrix.one_mul]

/-- The flight conversion agrees with the conversion of the simulation bridge. -/
theorem conversions_agree {library : RotationLibrary ℝ}
    {matrix : library.Rotation → Matrix (Fin 3) (Fin 3) ℝ} (exact : library.Exact matrix)
    {camera : Matrix3 ℝ} {mount : CameraMount ℝ} (created : create camera mount = .ok frames)
    {estimate : EstimatorEstimate ℝ} (unit : estimate.worldFromImu.Unit) :
    ∃ measurement, frames.transform estimate = .ok measurement ∧
      measurement.positionNedM = positionEnuToNed estimate.positionWorldM ∧
      measurement.velocityNedMps = positionEnuToNed estimate.velocityWorldMps ∧
      (measurement.rollPitchYawRad.y ≠ Real.pi / 2 → measurement.rollPitchYawRad.y ≠ -(Real.pi / 2) →
        (camera.entries ∈ Rotations → ∃ orientation : Quaternion ℝ, orientation.Unit ∧
          orientation.toRotationMatrix.entries = estimate.worldFromImu.toRotationMatrix.entries *
            frames.bodyFromImu.entriesᵀ * bodyFlip) ∧
        ∀ orientation : Quaternion ℝ, orientation.Unit →
          orientation.toRotationMatrix.entries = estimate.worldFromImu.toRotationMatrix.entries *
            frames.bodyFromImu.entriesᵀ * bodyFlip →
          SameTurn measurement.rollPitchYawRad.x (orientationEnuFluToNedFrd library orientation).x ∧
          measurement.rollPitchYawRad.y = (orientationEnuFluToNedFrd library orientation).y ∧
          SameTurn measurement.rollPitchYawRad.z (orientationEnuFluToNedFrd library orientation).z) := by
  refine ⟨_, transform_angles unit.large, nedFromWorld_apply _, nedFromWorld_apply _,
    fun notUp notDown => ?_⟩
  have above : -1 < (frames.nedFromBody estimate.worldFromImu).entries 2 0 := by
    by_contra low
    apply notUp
    rw [pitchOf, Real.arcsin_of_le_neg_one (not_lt.mp low), neg_neg]
  have below : (frames.nedFromBody estimate.worldFromImu).entries 2 0 < 1 := by
    by_contra high
    apply notDown
    rw [pitchOf, Real.arcsin_of_one_le (not_lt.mp high)]
  constructor
  · intro proper
    obtain ⟨same, made, _, body⟩ := create_rotation proper mount
    rw [created] at made
    injection made with made
    rw [← made] at body
    exact flip_described unit body above below
  · intro orientation oriented same
    have product := bridge_matrix exact oriented
    rw [nedFromBody_flip unit same] at product
    have member : (frames.nedFromBody estimate.worldFromImu).entries ∈ Rotations := by
      rw [← nedFromBody_flip unit same, ← bodyFlip_quaternion, Quaternion.entries_toRotationMatrix]
      exact mul_mem (mul_mem nedFromWorld_mem (quaternionMatrix_mem oriented))
        (quaternionMatrix_mem (by norm_num))
    rw [← product] at member above below
    obtain ⟨angles, rollRange, pitchRange, yawRange⟩ := exact.asEuler _ member above below
    rw [← product]
    exact angles_unique angles above below rollRange pitchRange yawRange

end FrameTransform

/-- A rotation library on matrices. -/
noncomputable def matrixLibrary : RotationLibrary ℝ where
  Rotation := Matrix (Fin 3) (Fin 3) ℝ
  fromQuat x y z w :=
    let norm := Real.sqrt (x ^ 2 + y ^ 2 + z ^ 2 + w ^ 2)
    quaternionMatrix (w / norm) (x / norm) (y / norm) (z / norm)
  compose first second := first * second
  asEuler rotation := ⟨rollOf rotation, pitchOf rotation, yawOf rotation⟩

/-- A library of exact rotations has the documented behaviour. -/
theorem matrixLibrary_exact : matrixLibrary.Exact id where
  fromQuat {x y z w} unit := by
    have one : Real.sqrt (x ^ 2 + y ^ 2 + z ^ 2 + w ^ 2) = 1 := by
      rw [Real.sqrt_eq_one]
      linear_combination unit
    show quaternionMatrix (w / _) (x / _) (y / _) (z / _) = _
    rw [one]
    simp only [div_one]
  compose _ _ := rfl
  asEuler rotation member above below := by
    have turn (angle : ℝ) (range : angle ∈ Set.Ioc (-Real.pi) Real.pi) :
        angle ∈ Set.Icc (-Real.pi) Real.pi := Set.Ioc_subset_Icc_self range
    refine ⟨zyx_angles member above below, turn _ (Complex.arg_mem_Ioc _), ?_,
      turn _ (Complex.arg_mem_Ioc _)⟩
    have range := Real.arcsin_mem_Icc (rotation 2 0)
    exact ⟨neg_le_neg range.2, neg_le.mp range.1⟩

/-- The filter and the bridge agree for a forward camera at rest. -/
theorem FrameTransform.conversions_agree_forward : ∃ frames measurement,
    create forwardCamera ⟨0, false⟩ = .ok frames ∧
    frames.transform (restingEstimate ⟨1, 0, 0, 0⟩) = .ok measurement ∧
    measurement.positionNedM = positionEnuToNed ⟨1, 0, 1⟩ ∧
    measurement.rollPitchYawRad.y = (orientationEnuFluToNedFrd matrixLibrary ⟨0, 1, 0, 0⟩).y := by
  obtain ⟨frames, created, _⟩ := create_rotation forwardCamera_mem ⟨0, false⟩
  have unit : (⟨1, 0, 0, 0⟩ : Quaternion ℝ).Unit := by simp [Quaternion.Unit]
  obtain ⟨measurement, converted, position, _, angles⟩ := conversions_agree matrixLibrary_exact created
    (show (restingEstimate ⟨1, 0, 0, 0⟩).worldFromImu.Unit from unit)
  have identity : (⟨1, 0, 0, 0⟩ : Quaternion ℝ).toRotationMatrix.entries = 1 := by
    rw [Quaternion.entries_toRotationMatrix]
    ext row column
    fin_cases row <;> fin_cases column <;> simp [quaternionMatrix]
  have level : measurement.rollPitchYawRad.y = 0 := by
    rw [transform_angles unit.large] at converted
    injection converted with same
    rw [← same]
    show pitchOf (frames.nedFromBody ⟨1, 0, 0, 0⟩).entries = 0
    rw [entries_nedFromBody, unit.normalized, identity, forward_bodyFromImu created, transpose_one,
      Matrix.mul_one, Matrix.mul_one, nedFromWorld_entries, pitchOf]
    simp
  obtain ⟨-, agree⟩ := angles (by rw [level]; positivity) (by rw [level]; simp [Real.pi_ne_zero])
  refine ⟨frames, measurement, created, converted, position, (agree ⟨0, 1, 0, 0⟩ ?_ ?_).2.1⟩
  · simp [Quaternion.Unit]
  · show _ = (⟨1, 0, 0, 0⟩ : Quaternion ℝ).toRotationMatrix.entries * _ * _
    rw [Quaternion.entries_toRotationMatrix, bodyFlip_quaternion, identity, forward_bodyFromImu created,
      transpose_one, Matrix.one_mul, Matrix.one_mul]

end Vio
