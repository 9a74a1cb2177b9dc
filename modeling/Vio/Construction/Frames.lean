/-
This file converts estimator coordinates to the ArduPilot interface.
A rotation name `destinationFromSource` expresses a source vector in the destination frame.
-/

import Vio.Construction.Estimate

namespace Vio

/-- A matrix by rows. -/
structure Matrix3 (R : Type) where
  row0 : Vector3 R
  row1 : Vector3 R
  row2 : Vector3 R
  deriving DecidableEq, Repr

section Algebra
variable {R : Type} [Scalar R]

def Vector3.dot (first second : Vector3 R) : R :=
  first.x * second.x + first.y * second.y + first.z * second.z

def Matrix3.transpose (matrix : Matrix3 R) : Matrix3 R where
  row0 := ⟨matrix.row0.x, matrix.row1.x, matrix.row2.x⟩
  row1 := ⟨matrix.row0.y, matrix.row1.y, matrix.row2.y⟩
  row2 := ⟨matrix.row0.z, matrix.row1.z, matrix.row2.z⟩

def Matrix3.apply (matrix : Matrix3 R) (vector : Vector3 R) : Vector3 R :=
  ⟨matrix.row0.dot vector, matrix.row1.dot vector, matrix.row2.dot vector⟩

def Matrix3.mul (first second : Matrix3 R) : Matrix3 R where
  row0 := second.transpose.apply first.row0
  row1 := second.transpose.apply first.row1
  row2 := second.transpose.apply first.row2

def Matrix3.allFinite (matrix : Matrix3 R) : Bool :=
  matrix.row0.allFinite && matrix.row1.allFinite && matrix.row2.allFinite

def Matrix3.determinant (matrix : Matrix3 R) : R :=
  matrix.row0.x * (matrix.row1.y * matrix.row2.z - matrix.row1.z * matrix.row2.y) -
    matrix.row0.y * (matrix.row1.x * matrix.row2.z - matrix.row1.z * matrix.row2.x) +
    matrix.row0.z * (matrix.row1.x * matrix.row2.y - matrix.row1.y * matrix.row2.x)

/-- The Frobenius distance from the identity. -/
def Matrix3.identityDistance (matrix : Matrix3 R) : R :=
  let row0 : Vector3 R := ⟨matrix.row0.x - 1.0, matrix.row0.y, matrix.row0.z⟩
  let row1 : Vector3 R := ⟨matrix.row1.x, matrix.row1.y - 1.0, matrix.row1.z⟩
  let row2 : Vector3 R := ⟨matrix.row2.x, matrix.row2.y, matrix.row2.z - 1.0⟩
  Scalar.sqrt (row0.dot row0 + row1.dot row1 + row2.dot row2)

def Quaternion.normalizedBy (quaternion : Quaternion R) (norm : R) : Quaternion R :=
  ⟨quaternion.w / norm, quaternion.x / norm, quaternion.y / norm, quaternion.z / norm⟩

/-- The rotation matrix of a unit quaternion, with the products Eigen forms. -/
def Quaternion.toRotationMatrix (quaternion : Quaternion R) : Matrix3 R :=
  let tx := 2.0 * quaternion.x
  let ty := 2.0 * quaternion.y
  let tz := 2.0 * quaternion.z
  let twx := tx * quaternion.w
  let twy := ty * quaternion.w
  let twz := tz * quaternion.w
  let txx := tx * quaternion.x
  let txy := ty * quaternion.x
  let txz := tz * quaternion.x
  let tyy := ty * quaternion.y
  let tyz := tz * quaternion.y
  let tzz := tz * quaternion.z
  { row0 := ⟨1.0 - (tyy + tzz), txy - twz, txz + twy⟩
    row1 := ⟨txy + twz, 1.0 - (txx + tzz), tyz - twx⟩
    row2 := ⟨txz - twy, tyz + twx, 1.0 - (txx + tyy)⟩ }

end Algebra

structure CameraMount (R : Type) where
  /-- The depression of the optical axis below aircraft forward. -/
  tiltBelowHorizontalRad : R
  upsideDown : Bool
  deriving DecidableEq, Repr

/-- The fixed rotation from the IMU to the aircraft body. -/
structure FrameTransform (R : Type) where
  bodyFromImu : Matrix3 R
  deriving DecidableEq, Repr

section Transform
variable {R : Type} [Scalar R]

/-- The axis swap `(x, y, z) -> (y, x, -z)`. -/
def nedFromWorld : Matrix3 R where
  row0 := ⟨0.0, 1.0, 0.0⟩
  row1 := ⟨1.0, 0.0, 0.0⟩
  row2 := ⟨0.0, 0.0, -1.0⟩

/-- The rotation from camera axes right/down/forward to body axes forward/right/down. -/
def bodyFromCamera (mount : CameraMount R) : Matrix3 R :=
  let c := Scalar.cos mount.tiltBelowHorizontalRad
  let s := Scalar.sin mount.tiltBelowHorizontalRad
  if mount.upsideDown then
    { row0 := ⟨0.0, s, c⟩, row1 := ⟨-1.0, 0.0, 0.0⟩, row2 := ⟨0.0, -c, s⟩ }
  else
    { row0 := ⟨0.0, -s, c⟩, row1 := ⟨1.0, 0.0, 0.0⟩, row2 := ⟨0.0, c, s⟩ }

/-- The constructor accepts a finite tilt and a proper rotation only. -/
def FrameTransform.create (cameraFromImu : Matrix3 R) (mounting : CameraMount R) :
    Except Thrown (FrameTransform R) :=
  if !cameraFromImu.allFinite || !Scalar.isFinite mounting.tiltBelowHorizontalRad ||
      Scalar.lt 1e-6 (cameraFromImu.mul cameraFromImu.transpose).identityDistance ||
      Scalar.lt 1e-6 (Scalar.abs (cameraFromImu.determinant - 1.0)) then
    .error (.invalidArgument "camera/IMU calibration must be a finite proper rotation")
  else .ok ⟨(bodyFromCamera mounting).mul cameraFromImu⟩

def clamp (value lower upper : R) : R :=
  if Scalar.lt value lower then lower
  else if Scalar.lt upper value then upper
  else value

/-- Right to left: body to IMU, IMU to world, world to local NED. -/
def FrameTransform.nedFromBody (frames : FrameTransform R) (worldFromImu : Quaternion R) : Matrix3 R :=
  let orientation := worldFromImu.normalizedBy worldFromImu.stableNorm
  (nedFromWorld.mul orientation.toRotationMatrix).mul frames.bodyFromImu.transpose

def FrameTransform.transform (frames : FrameTransform R) (estimate : EstimatorEstimate R) :
    Except Thrown (ArduPilotMeasurement R) :=
  let norm := estimate.worldFromImu.stableNorm
  if !estimate.positionWorldM.allFinite || !estimate.velocityWorldMps.allFinite ||
      !estimate.worldFromImu.allFinite || !Scalar.isFinite norm || Scalar.lt norm 1e-12 then
    .error (.invalidArgument "estimate contains invalid position, velocity, or quaternion")
  else
    let nedFromBody := frames.nedFromBody estimate.worldFromImu
    let rollPitchYaw : Vector3 R :=
      ⟨Scalar.atan2 nedFromBody.row2.y nedFromBody.row2.z,
        -Scalar.asin (clamp nedFromBody.row2.x (-1.0) 1.0),
        Scalar.atan2 nedFromBody.row1.x nedFromBody.row0.x⟩
    .ok
      { timestamp := estimate.timestamp
        generation := estimate.generation
        positionNedM := nedFromWorld.apply estimate.positionWorldM
        velocityNedMps := nedFromWorld.apply estimate.velocityWorldMps
        rollPitchYawRad := rollPitchYaw }

/-- The specific force in IMU axes of a level, stationary aircraft: upward support. -/
def FrameTransform.expectedStationaryAcceleration (frames : FrameTransform R) (gravity : R) :
    Except Thrown (Vector3 R) :=
  if !Scalar.isFinite gravity || Scalar.le gravity 0.0 then
    .error (.invalidArgument "gravity must be finite and positive")
  else .ok (frames.bodyFromImu.transpose.apply ⟨0.0, 0.0, -gravity⟩)

/-- The conversion keeps the sensor time and the session of the estimate. -/
theorem FrameTransform.transform_stamp {frames : FrameTransform R}
    {estimate : EstimatorEstimate R} {measurement : ArduPilotMeasurement R}
    (converted : frames.transform estimate = .ok measurement) :
    measurement.timestamp = estimate.timestamp ∧
      measurement.generation = estimate.generation := by
  unfold FrameTransform.transform at converted
  dsimp only at converted
  split at converted
  · cases converted
  · cases converted
    exact ⟨rfl, rfl⟩

/-- The conversion takes every estimate that passes the check. -/
theorem FrameTransform.transform_ok {estimate : EstimatorEstimate R} {session : SessionGeneration}
    {now maxAge : Int} (accepted : validateEstimate estimate session now maxAge = .ok .none)
    (frames : FrameTransform R) : ∃ measurement, frames.transform estimate = .ok measurement := by
  obtain ⟨finite, oriented⟩ := validateEstimate_finite accepted
  unfold FrameTransform.transform
  dsimp only
  rw [finite, Bool.false_or, oriented]
  exact ⟨_, rfl⟩

end Transform

end Vio
