import Vio.Library.EulerAngles
import Vio.Construction.Frames

namespace Vio
open Matrix EulerAngles

/-- Exact real arithmetic. Every real is finite. -/
noncomputable instance : Scalar ℝ where
  lt first second := decide (first < second)
  le first second := decide (first ≤ second)
  isFinite _ := true
  abs value := |value|
  sqrt := Real.sqrt
  cos := Real.cos
  sin := Real.sin
  asin := Real.arcsin
  atan2 := arctan2
  stableNorm x y z w := Real.sqrt (x ^ 2 + y ^ 2 + z ^ 2 + w ^ 2)
  nan := 0

theorem literal_eq (mantissa : Nat) (sign : Bool) (exponent : Nat) :
    @OfScientific.ofScientific ℝ Scalar.toOfScientific mantissa sign exponent =
      @OfScientific.ofScientific ℝ NNRatCast.toOfScientific mantissa sign exponent := rfl

theorem zero_literal : @OfScientific.ofScientific ℝ Scalar.toOfScientific 0 true 1 = 0 := by
  rw [literal_eq]
  norm_num

theorem one_literal : @OfScientific.ofScientific ℝ Scalar.toOfScientific 10 true 1 = 1 := by
  rw [literal_eq]
  norm_num

theorem two_literal : @OfScientific.ofScientific ℝ Scalar.toOfScientific 20 true 1 = 2 := by
  rw [literal_eq]
  norm_num

/-- The coordinates of a vector. -/
def Vector3.coordinates (vector : Vector3 ℝ) : Fin 3 → ℝ := ![vector.x, vector.y, vector.z]

/-- The entries of a matrix. -/
def Matrix3.entries (matrix : Matrix3 ℝ) : Matrix (Fin 3) (Fin 3) ℝ :=
  !![matrix.row0.x, matrix.row0.y, matrix.row0.z;
    matrix.row1.x, matrix.row1.y, matrix.row1.z;
    matrix.row2.x, matrix.row2.y, matrix.row2.z]

/-- A vector is its coordinates. -/
theorem Vector3.coordinates_injective {first second : Vector3 ℝ}
    (same : first.coordinates = second.coordinates) : first = second := by
  cases first
  cases second
  have x := congrFun same 0
  have y := congrFun same 1
  have z := congrFun same 2
  simp only [coordinates, cons_val_zero, cons_val_one, cons_val] at x y z
  rw [x, y, z]

theorem Matrix3.entries_transpose (matrix : Matrix3 ℝ) :
    matrix.transpose.entries = matrix.entriesᵀ := by
  ext row column
  fin_cases row <;> fin_cases column <;> rfl

theorem Matrix3.entries_apply (matrix : Matrix3 ℝ) (vector : Vector3 ℝ) :
    (matrix.apply vector).coordinates = matrix.entries *ᵥ vector.coordinates := by
  ext row
  rw [mulVec, dotProduct, Fin.sum_univ_three]
  fin_cases row <;> rfl

/-- The product of the code is the matrix product. -/
theorem Matrix3.entries_mul (first second : Matrix3 ℝ) :
    (first.mul second).entries = first.entries * second.entries := by
  ext row column
  rw [mul_apply, Fin.sum_univ_three]
  fin_cases row <;> fin_cases column <;>
    simp only [mul, apply, transpose, Vector3.dot, entries, of_apply, cons_val', cons_val_zero,
      cons_val_one, cons_val, cons_val_fin_one, Fin.zero_eta, Fin.mk_one, Fin.reduceFinMk,
      Fin.isValue] <;>
    ring

/-- The determinant of the code is that of the matrix. -/
theorem Matrix3.determinant_eq (matrix : Matrix3 ℝ) : matrix.determinant = matrix.entries.det := by
  rw [det_fin_three]
  simp only [determinant, entries, of_apply, cons_val', cons_val_zero, cons_val_one, cons_val,
    cons_val_fin_one]
  ring

/-- The identity has no distance from itself. -/
theorem Matrix3.identityDistance_one {matrix : Matrix3 ℝ} (one : matrix.entries = 1) :
    matrix.identityDistance = 0 := by
  have entry (row column : Fin 3) : matrix.entries row column = if row = column then 1 else 0 := by
    rw [one, one_apply]
  have row0 : matrix.row0 = ⟨1, 0, 0⟩ :=
    Vector3.coordinates_injective (funext fun column => (entry 0 column).trans (by fin_cases column <;> rfl))
  have row1 : matrix.row1 = ⟨0, 1, 0⟩ :=
    Vector3.coordinates_injective (funext fun column => (entry 1 column).trans (by fin_cases column <;> rfl))
  have row2 : matrix.row2 = ⟨0, 0, 1⟩ :=
    Vector3.coordinates_injective (funext fun column => (entry 2 column).trans (by fin_cases column <;> rfl))
  rw [identityDistance, row0, row1, row2]
  show Real.sqrt _ = 0
  rw [Real.sqrt_eq_zero']
  simp only [Vector3.dot, one_literal]
  norm_num

/-- The matrix of the code is that of the quaternion. -/
theorem Quaternion.entries_toRotationMatrix (quaternion : Quaternion ℝ) :
    quaternion.toRotationMatrix.entries =
      quaternionMatrix quaternion.w quaternion.x quaternion.y quaternion.z := by
  ext row column
  fin_cases row <;> fin_cases column <;>
    simp only [toRotationMatrix, Matrix3.entries, quaternionMatrix, of_apply, cons_val',
      cons_val_zero, cons_val_one, cons_val, cons_val_fin_one, Fin.zero_eta, Fin.mk_one,
      Fin.reduceFinMk, Fin.isValue, one_literal, two_literal] <;>
    ring

theorem nedFromWorld_entries : (nedFromWorld : Matrix3 ℝ).entries = !![0, 1, 0; 1, 0, 0; 0, 0, -1] := by
  simp only [nedFromWorld, Matrix3.entries, zero_literal, one_literal]

/-- The change of the world is a proper rotation. -/
theorem nedFromWorld_mem : (nedFromWorld : Matrix3 ℝ).entries ∈ Rotations := by
  rw [nedFromWorld_entries, mem_rotations_iff]
  constructor
  · ext row column
    rw [mul_apply, Fin.sum_univ_three]
    fin_cases row <;> fin_cases column <;> simp
  · rw [det_fin_three]
    simp

/-- The mount is a proper rotation. -/
theorem bodyFromCamera_mem (mount : CameraMount ℝ) : (bodyFromCamera mount).entries ∈ Rotations := by
  have circle := Real.sin_sq_add_cos_sq mount.tiltBelowHorizontalRad
  have shape : (bodyFromCamera mount).entries =
      if mount.upsideDown then
        !![0, Real.sin mount.tiltBelowHorizontalRad, Real.cos mount.tiltBelowHorizontalRad; -1, 0, 0;
          0, -Real.cos mount.tiltBelowHorizontalRad, Real.sin mount.tiltBelowHorizontalRad]
      else
        !![0, -Real.sin mount.tiltBelowHorizontalRad, Real.cos mount.tiltBelowHorizontalRad; 1, 0, 0;
          0, Real.cos mount.tiltBelowHorizontalRad, Real.sin mount.tiltBelowHorizontalRad] := by
    unfold bodyFromCamera
    dsimp only
    split
    · simp only [Matrix3.entries, zero_literal, one_literal]
      rfl
    · simp only [Matrix3.entries, zero_literal, one_literal]
      rfl
  rw [shape]
  generalize Real.sin mount.tiltBelowHorizontalRad = sine at circle
  generalize Real.cos mount.tiltBelowHorizontalRad = cosine at circle
  apply mem_rotations_iff.mpr
  split
  · constructor
    · ext row column
      rw [mul_apply, Fin.sum_univ_three]
      fin_cases row <;> fin_cases column <;> simp <;>
        first | linear_combination circle | ring
    · rw [det_fin_three]
      simp
      linear_combination circle
  · constructor
    · ext row column
      rw [mul_apply, Fin.sum_univ_three]
      fin_cases row <;> fin_cases column <;> simp <;>
        first | linear_combination circle | ring
    · rw [det_fin_three]
      simp
      linear_combination circle

end Vio
