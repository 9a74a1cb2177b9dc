/-
This file holds the proper rotations of space, their roll, pitch and yaw angles, and the rotation of
a unit quaternion. The angles turn about the z, the y and the x axis, in this order.
-/

import Mathlib

namespace EulerAngles
open Matrix

/-- The proper rotations of space. -/
abbrev Rotations : Submonoid (Matrix (Fin 3) (Fin 3) ℝ) := specialOrthogonalGroup (Fin 3) ℝ

section Group
variable {rotation : Matrix (Fin 3) (Fin 3) ℝ}

theorem mem_rotations_iff : rotation ∈ Rotations ↔ rotation * rotationᵀ = 1 ∧ rotation.det = 1 := by
  rw [mem_specialOrthogonalGroup_iff, mem_orthogonalGroup_iff]

theorem transpose_mem (member : rotation ∈ Rotations) : rotationᵀ ∈ Rotations := by
  rw [mem_rotations_iff] at member ⊢
  exact ⟨by rw [transpose_transpose]; exact mul_eq_one_comm.mp member.1, by rw [det_transpose, member.2]⟩

/-- The rows are orthonormal. -/
theorem row_dot (member : rotation ∈ Rotations) (first second : Fin 3) :
    rotation first 0 * rotation second 0 + rotation first 1 * rotation second 1 +
      rotation first 2 * rotation second 2 = if first = second then 1 else 0 := by
  have product := congrFun (congrFun (mem_rotations_iff.mp member).1 first) second
  rwa [mul_apply, Fin.sum_univ_three, one_apply] at product

/-- The columns are orthonormal. -/
theorem column_dot (member : rotation ∈ Rotations) (first second : Fin 3) :
    rotation 0 first * rotation 0 second + rotation 1 first * rotation 1 second +
      rotation 2 first * rotation 2 second = if first = second then 1 else 0 :=
  row_dot (transpose_mem member) first second

/-- Each entry is its own cofactor. -/
theorem adjugate_eq (member : rotation ∈ Rotations) : rotation.adjugate = rotationᵀ := by
  obtain ⟨orthogonal, det⟩ := mem_rotations_iff.mp member
  have product := congrArg (fun matrix => matrix * rotationᵀ) (adjugate_mul rotation)
  simpa only [Matrix.mul_assoc, orthogonal, Matrix.mul_one, det, one_smul, Matrix.one_mul] using product

/-- A rotation preserves the dot product. -/
theorem mulVec_dotProduct (member : rotation ∈ Rotations) (first second : Fin 3 → ℝ) :
    (rotation *ᵥ first) ⬝ᵥ (rotation *ᵥ second) = first ⬝ᵥ second := by
  have orthogonal := (mem_rotations_iff.mp (transpose_mem member)).1
  rw [transpose_transpose] at orthogonal
  rw [dotProduct_mulVec, vecMul_mulVec, ← mulVec_transpose, Matrix.transpose_mul,
    transpose_transpose, orthogonal, one_mulVec]

end Group

noncomputable section Angles

def rotX (angle : ℝ) : Matrix (Fin 3) (Fin 3) ℝ :=
  !![1, 0, 0; 0, Real.cos angle, -Real.sin angle; 0, Real.sin angle, Real.cos angle]

def rotY (angle : ℝ) : Matrix (Fin 3) (Fin 3) ℝ :=
  !![Real.cos angle, 0, Real.sin angle; 0, 1, 0; -Real.sin angle, 0, Real.cos angle]

def rotZ (angle : ℝ) : Matrix (Fin 3) (Fin 3) ℝ :=
  !![Real.cos angle, -Real.sin angle, 0; Real.sin angle, Real.cos angle, 0; 0, 0, 1]

/-- The rotation by roll, then pitch, then yaw about fixed axes. -/
def zyx (roll pitch yaw : ℝ) : Matrix (Fin 3) (Fin 3) ℝ := rotZ yaw * rotY pitch * rotX roll

theorem zyx_eq (roll pitch yaw : ℝ) : zyx roll pitch yaw =
    !![Real.cos yaw * Real.cos pitch,
        Real.cos yaw * Real.sin pitch * Real.sin roll - Real.sin yaw * Real.cos roll,
        Real.cos yaw * Real.sin pitch * Real.cos roll + Real.sin yaw * Real.sin roll;
      Real.sin yaw * Real.cos pitch,
        Real.sin yaw * Real.sin pitch * Real.sin roll + Real.cos yaw * Real.cos roll,
        Real.sin yaw * Real.sin pitch * Real.cos roll - Real.cos yaw * Real.sin roll;
      -Real.sin pitch, Real.cos pitch * Real.sin roll, Real.cos pitch * Real.cos roll] := by
  ext row column
  fin_cases row <;> fin_cases column <;>
    simp [zyx, rotX, rotY, rotZ, mul_apply, Fin.sum_univ_three] <;> ring

/-- The angle of a point of the plane. -/
def arctan2 (y x : ℝ) : ℝ := Complex.arg ⟨x, y⟩

/-- A point on the circle of a positive radius has the coordinates of its angle. -/
theorem cos_sin_arctan2 {x y radius : ℝ} (positive : 0 < radius) (circle : x ^ 2 + y ^ 2 = radius ^ 2) :
    Real.cos (arctan2 y x) * radius = x ∧ Real.sin (arctan2 y x) * radius = y := by
  have norm : ‖(⟨x, y⟩ : ℂ)‖ = radius := by
    have square : ‖(⟨x, y⟩ : ℂ)‖ ^ 2 = radius ^ 2 := by
      rw [Complex.sq_norm, Complex.normSq_mk, ← circle]
      ring
    exact (pow_left_inj₀ (norm_nonneg _) positive.le two_ne_zero).mp square
  have cosine := Complex.norm_mul_cos_arg ⟨x, y⟩
  have sine := Complex.norm_mul_sin_arg ⟨x, y⟩
  rw [norm] at cosine sine
  exact ⟨(mul_comm _ _).trans cosine, (mul_comm _ _).trans sine⟩

/-- The angle of a point on a circle. -/
theorem arctan2_circle {radius angle : ℝ} (positive : 0 < radius)
    (principal : angle ∈ Set.Ioc (-Real.pi) Real.pi) :
    arctan2 (radius * Real.sin angle) (radius * Real.cos angle) = angle := by
  have point : (⟨radius * Real.cos angle, radius * Real.sin angle⟩ : ℂ) =
      radius * (Complex.cos angle + Complex.sin angle * Complex.I) := by
    apply Complex.ext <;> simp [Complex.cos_ofReal_re, Complex.sin_ofReal_re]
  rw [arctan2, point]
  exact Complex.arg_mul_cos_add_sin_mul_I positive principal

/-- The roll of a rotation. -/
def rollOf (rotation : Matrix (Fin 3) (Fin 3) ℝ) : ℝ := arctan2 (rotation 2 1) (rotation 2 2)

/-- The pitch of a rotation. -/
def pitchOf (rotation : Matrix (Fin 3) (Fin 3) ℝ) : ℝ := -Real.arcsin (rotation 2 0)

/-- The yaw of a rotation. -/
def yawOf (rotation : Matrix (Fin 3) (Fin 3) ℝ) : ℝ := arctan2 (rotation 1 0) (rotation 0 0)

variable {rotation : Matrix (Fin 3) (Fin 3) ℝ}

theorem sin_pitchOf (above : -1 ≤ rotation 2 0) (below : rotation 2 0 ≤ 1) :
    Real.sin (pitchOf rotation) = -rotation 2 0 := by
  rw [pitchOf, Real.sin_neg, Real.sin_arcsin above below]

theorem cos_pitchOf_pos (above : -1 < rotation 2 0) (below : rotation 2 0 < 1) :
    0 < Real.cos (pitchOf rotation) := by
  rw [pitchOf, Real.cos_neg]
  exact Real.cos_pos_of_mem_Ioo
    ⟨Real.neg_pi_div_two_lt_arcsin.mpr above, Real.arcsin_lt_pi_div_two.mpr below⟩

/-- Away from a vertical x axis the three angles give the rotation back. -/
theorem zyx_angles (member : rotation ∈ Rotations) (above : -1 < rotation 2 0) (below : rotation 2 0 < 1) :
    zyx (rollOf rotation) (pitchOf rotation) (yawOf rotation) = rotation := by
  have sinPitch := sin_pitchOf above.le below.le
  have positive := cos_pitchOf_pos above below
  have square := Real.sin_sq_add_cos_sq (pitchOf rotation)
  rw [sinPitch] at square
  -- The last row and the first column lie on circles of the radius `cos pitch`.
  have lastRow := row_dot member 2 2
  have firstColumn := column_dot member 0 0
  have columns01 := column_dot member 0 1
  have columns02 := column_dot member 0 2
  simp only [if_true, show ((0 : Fin 3) = 1) = False from by simp, if_false,
    show ((0 : Fin 3) = 2) = False from by simp] at lastRow firstColumn columns01 columns02
  have cofactors := adjugate_eq member
  rw [adjugate_fin_three] at cofactors
  have cofactor22 : rotation 0 0 * rotation 1 1 - rotation 0 1 * rotation 1 0 = rotation 2 2 :=
    congrFun (congrFun cofactors 2) 2
  have cofactor21 : -(rotation 0 0 * rotation 1 2) + rotation 0 2 * rotation 1 0 = rotation 2 1 :=
    congrFun (congrFun cofactors 1) 2
  obtain ⟨cosRoll, sinRoll⟩ := cos_sin_arctan2 (x := rotation 2 2) (y := rotation 2 1) positive
    (by linear_combination lastRow - square)
  obtain ⟨cosYaw, sinYaw⟩ := cos_sin_arctan2 (x := rotation 0 0) (y := rotation 1 0) positive
    (by linear_combination firstColumn - square)
  change Real.cos (rollOf rotation) * _ = _ at cosRoll
  change Real.sin (rollOf rotation) * _ = _ at sinRoll
  change Real.cos (yawOf rotation) * _ = _ at cosYaw
  change Real.sin (yawOf rotation) * _ = _ at sinYaw
  rw [zyx_eq, sinPitch]
  have nonzero : Real.cos (pitchOf rotation) ^ 2 ≠ 0 := pow_ne_zero 2 positive.ne'
  generalize Real.cos (pitchOf rotation) = radius at *
  generalize Real.cos (rollOf rotation) = cosR at *
  generalize Real.sin (rollOf rotation) = sinR at *
  generalize Real.cos (yawOf rotation) = cosY at *
  generalize Real.sin (yawOf rotation) = sinY at *
  have middle01 : cosY * -rotation 2 0 * sinR - sinY * cosR = rotation 0 1 := by
    apply mul_right_cancel₀ nonzero
    linear_combination (-rotation 2 0 * sinR * radius) * cosYaw - rotation 2 0 * rotation 0 0 * sinRoll -
      cosR * radius * sinYaw - rotation 1 0 * cosRoll - rotation 0 0 * columns01 +
      rotation 1 0 * cofactor22 + rotation 0 1 * firstColumn - rotation 0 1 * square
  have middle11 : sinY * -rotation 2 0 * sinR + cosY * cosR = rotation 1 1 := by
    apply mul_right_cancel₀ nonzero
    linear_combination (-rotation 2 0 * sinR * radius) * sinYaw - rotation 2 0 * rotation 1 0 * sinRoll +
      cosR * radius * cosYaw + rotation 0 0 * cosRoll - rotation 1 0 * columns01 -
      rotation 0 0 * cofactor22 + rotation 1 1 * firstColumn - rotation 1 1 * square
  have middle02 : cosY * -rotation 2 0 * cosR + sinY * sinR = rotation 0 2 := by
    apply mul_right_cancel₀ nonzero
    linear_combination (-rotation 2 0 * cosR * radius) * cosYaw - rotation 2 0 * rotation 0 0 * cosRoll +
      sinR * radius * sinYaw + rotation 1 0 * sinRoll - rotation 0 0 * columns02 -
      rotation 1 0 * cofactor21 + rotation 0 2 * firstColumn - rotation 0 2 * square
  have middle12 : sinY * -rotation 2 0 * cosR - cosY * sinR = rotation 1 2 := by
    apply mul_right_cancel₀ nonzero
    linear_combination (-rotation 2 0 * cosR * radius) * sinYaw - rotation 2 0 * rotation 1 0 * cosRoll -
      sinR * radius * cosYaw - rotation 0 0 * sinRoll - rotation 1 0 * columns02 +
      rotation 0 0 * cofactor21 + rotation 1 2 * firstColumn - rotation 1 2 * square
  rw [middle01, middle11, middle02, middle12, cosYaw, sinYaw, mul_comm radius, mul_comm radius,
    sinRoll, cosRoll, neg_neg]
  exact (eta_fin_three rotation).symm

/-- A rotation without roll and pitch keeps the vertical, and no other one does. -/
theorem level_iff (member : rotation ∈ Rotations) :
    rollOf rotation = 0 ∧ pitchOf rotation = 0 ↔ rotation *ᵥ ![0, 0, 1] = ![0, 0, 1] := by
  have lastRow := row_dot member 2 2
  have lastColumn := column_dot member 2 2
  simp only [if_true] at lastRow lastColumn
  have roll : rollOf rotation = 0 ↔ 0 ≤ rotation 2 2 ∧ rotation 2 1 = 0 := Complex.arg_eq_zero_iff
  have pitch : pitchOf rotation = 0 ↔ rotation 2 0 = 0 := by
    rw [pitchOf, neg_eq_zero, Real.arcsin_eq_zero_iff]
  have vertical : rotation *ᵥ ![0, 0, 1] = ![0, 0, 1] ↔
      rotation 0 2 = 0 ∧ rotation 1 2 = 0 ∧ rotation 2 2 = 1 := by
    rw [funext_iff, Fin.forall_fin_succ, Fin.forall_fin_succ, Fin.forall_fin_succ]
    simp [mulVec, dotProduct, Fin.sum_univ_three]
  rw [roll, pitch, vertical]
  constructor
  · rintro ⟨⟨upright, side⟩, front⟩
    rw [side, front] at lastRow
    have one : rotation 2 2 = 1 := by nlinarith
    rw [one] at lastColumn
    refine ⟨?_, ?_, one⟩
    · nlinarith [sq_nonneg (rotation 0 2), sq_nonneg (rotation 1 2)]
    · nlinarith [sq_nonneg (rotation 0 2), sq_nonneg (rotation 1 2)]
  · rintro ⟨_, _, one⟩
    rw [one] at lastRow ⊢
    refine ⟨⟨zero_le_one, ?_⟩, ?_⟩
    · nlinarith [sq_nonneg (rotation 2 0), sq_nonneg (rotation 2 1)]
    · nlinarith [sq_nonneg (rotation 2 0), sq_nonneg (rotation 2 1)]

/-- Principal angles of a rotation with a pitch below a right angle. -/
structure Principal (roll pitch yaw : ℝ) : Prop where
  roll : roll ∈ Set.Ioc (-Real.pi) Real.pi
  pitch : pitch ∈ Set.Ioo (-(Real.pi / 2)) (Real.pi / 2)
  yaw : yaw ∈ Set.Ioc (-Real.pi) Real.pi

/-- The angles of a rotation are unique. -/
theorem angles_zyx {roll pitch yaw : ℝ} (principal : Principal roll pitch yaw) :
    rollOf (zyx roll pitch yaw) = roll ∧ pitchOf (zyx roll pitch yaw) = pitch ∧
      yawOf (zyx roll pitch yaw) = yaw := by
  have positive := Real.cos_pos_of_mem_Ioo principal.pitch
  rw [zyx_eq]
  refine ⟨arctan2_circle positive principal.roll, ?_, ?_⟩
  · show -Real.arcsin (-Real.sin pitch) = pitch
    rw [Real.arcsin_neg, neg_neg, Real.arcsin_sin principal.pitch.1.le principal.pitch.2.le]
  · show arctan2 (Real.sin yaw * Real.cos pitch) (Real.cos yaw * Real.cos pitch) = yaw
    rw [mul_comm, mul_comm (Real.cos yaw)]
    exact arctan2_circle positive principal.yaw

end Angles

section Quaternions

/-- The rotation of a unit quaternion, with its scalar part first. -/
def quaternionMatrix (w x y z : ℝ) : Matrix (Fin 3) (Fin 3) ℝ :=
  !![1 - 2 * (y ^ 2 + z ^ 2), 2 * (x * y - z * w), 2 * (x * z + y * w);
    2 * (x * y + z * w), 1 - 2 * (x ^ 2 + z ^ 2), 2 * (y * z - x * w);
    2 * (x * z - y * w), 2 * (y * z + x * w), 1 - 2 * (x ^ 2 + y ^ 2)]

variable {w x y z : ℝ}

theorem quaternionMatrix_mem (unit : w ^ 2 + x ^ 2 + y ^ 2 + z ^ 2 = 1) :
    quaternionMatrix w x y z ∈ Rotations := by
  apply mem_rotations_iff.mpr
  constructor
  · ext row column
    rw [mul_apply, Fin.sum_univ_three]
    fin_cases row <;> fin_cases column <;> simp [quaternionMatrix]
    · linear_combination 4 * (y ^ 2 + z ^ 2) * unit
    · linear_combination -4 * x * y * unit
    · linear_combination -4 * x * z * unit
    · linear_combination -4 * x * y * unit
    · linear_combination 4 * (x ^ 2 + z ^ 2) * unit
    · linear_combination -4 * y * z * unit
    · linear_combination -4 * x * z * unit
    · linear_combination -4 * y * z * unit
    · linear_combination 4 * (x ^ 2 + y ^ 2) * unit
  · rw [det_fin_three]
    simp [quaternionMatrix]
    linear_combination 4 * (x ^ 2 + y ^ 2 + z ^ 2) * unit

theorem quaternionMatrix_neg : quaternionMatrix (-w) (-x) (-y) (-z) = quaternionMatrix w x y z := by
  simp only [quaternionMatrix, neg_mul_neg, neg_sq]

/-- The diagonal of a unit quaternion's rotation, without the constant. -/
theorem quaternionMatrix_eq (unit : w ^ 2 + x ^ 2 + y ^ 2 + z ^ 2 = 1) : quaternionMatrix w x y z =
    !![w ^ 2 + x ^ 2 - y ^ 2 - z ^ 2, 2 * (x * y - z * w), 2 * (x * z + y * w);
      2 * (x * y + z * w), w ^ 2 - x ^ 2 + y ^ 2 - z ^ 2, 2 * (y * z - x * w);
      2 * (x * z - y * w), 2 * (y * z + x * w), w ^ 2 - x ^ 2 - y ^ 2 + z ^ 2] := by
  have first : 1 - 2 * (y ^ 2 + z ^ 2) = w ^ 2 + x ^ 2 - y ^ 2 - z ^ 2 := by linear_combination -unit
  have second : 1 - 2 * (x ^ 2 + z ^ 2) = w ^ 2 - x ^ 2 + y ^ 2 - z ^ 2 := by linear_combination -unit
  have third : 1 - 2 * (x ^ 2 + y ^ 2) = w ^ 2 - x ^ 2 - y ^ 2 + z ^ 2 := by linear_combination -unit
  rw [quaternionMatrix, first, second, third]

section Product
variable {w' x' y' z' : ℝ} (unit : w ^ 2 + x ^ 2 + y ^ 2 + z ^ 2 = 1)
  (unit' : w' ^ 2 + x' ^ 2 + y' ^ 2 + z' ^ 2 = 1)
include unit unit'

theorem unit_mul :
    (w * w' - x * x' - y * y' - z * z') ^ 2 + (w * x' + x * w' + y * z' - z * y') ^ 2 +
      (w * y' - x * z' + y * w' + z * x') ^ 2 + (w * z' + x * y' - y * x' + z * w') ^ 2 = 1 := by
  linear_combination (w' ^ 2 + x' ^ 2 + y' ^ 2 + z' ^ 2) * unit + unit'

/-- The rotation of a product is the product of the rotations. -/
theorem quaternionMatrix_mul : quaternionMatrix w x y z * quaternionMatrix w' x' y' z' =
    quaternionMatrix (w * w' - x * x' - y * y' - z * z') (w * x' + x * w' + y * z' - z * y')
      (w * y' - x * z' + y * w' + z * x') (w * z' + x * y' - y * x' + z * w') := by
  rw [quaternionMatrix_eq unit, quaternionMatrix_eq unit', quaternionMatrix_eq (unit_mul unit unit')]
  ext row column
  fin_cases row <;> fin_cases column <;> simp [mul_apply, Fin.sum_univ_three] <;> ring

end Product

/-- A rotation that some unit quaternion describes. -/
def Described (rotation : Matrix (Fin 3) (Fin 3) ℝ) : Prop :=
  ∃ w x y z, w ^ 2 + x ^ 2 + y ^ 2 + z ^ 2 = 1 ∧ quaternionMatrix w x y z = rotation

theorem Described.mul {first second : Matrix (Fin 3) (Fin 3) ℝ} (one : Described first)
    (two : Described second) : Described (first * second) := by
  obtain ⟨_, _, _, _, unit, rfl⟩ := one
  obtain ⟨_, _, _, _, unit', rfl⟩ := two
  exact ⟨_, _, _, _, unit_mul unit unit', (quaternionMatrix_mul unit unit').symm⟩

/-- The half angles of a turn. -/
theorem half_angle (angle : ℝ) : Real.cos angle = 1 - 2 * Real.sin (angle / 2) ^ 2 ∧
    Real.sin angle = 2 * (Real.sin (angle / 2) * Real.cos (angle / 2)) := by
  have whole : angle = 2 * (angle / 2) := by ring
  constructor
  · conv_lhs => rw [whole, Real.cos_two_mul, Real.cos_sq']
    ring
  · conv_lhs => rw [whole, Real.sin_two_mul]
    ring

theorem rotX_described (angle : ℝ) : Described (rotX angle) := by
  obtain ⟨cosine, sine⟩ := half_angle angle
  refine ⟨Real.cos (angle / 2), Real.sin (angle / 2), 0, 0, ?_, ?_⟩
  · linear_combination Real.sin_sq_add_cos_sq (angle / 2)
  · rw [rotX, cosine, sine, quaternionMatrix]
    simp

theorem rotY_described (angle : ℝ) : Described (rotY angle) := by
  obtain ⟨cosine, sine⟩ := half_angle angle
  refine ⟨Real.cos (angle / 2), 0, Real.sin (angle / 2), 0, ?_, ?_⟩
  · linear_combination Real.sin_sq_add_cos_sq (angle / 2)
  · rw [rotY, cosine, sine, quaternionMatrix]
    simp

theorem rotZ_described (angle : ℝ) : Described (rotZ angle) := by
  obtain ⟨cosine, sine⟩ := half_angle angle
  refine ⟨Real.cos (angle / 2), 0, 0, Real.sin (angle / 2), ?_, ?_⟩
  · linear_combination Real.sin_sq_add_cos_sq (angle / 2)
  · rw [rotZ, cosine, sine, quaternionMatrix]
    simp

theorem zyx_described (roll pitch yaw : ℝ) : Described (zyx roll pitch yaw) :=
  ((rotZ_described yaw).mul (rotY_described pitch)).mul (rotX_described roll)

end Quaternions
end EulerAngles
