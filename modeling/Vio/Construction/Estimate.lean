/-
This file holds the estimator snapshot and the stateless checks on it.
Every `MonotonicTime` of the source is an integer count of nanoseconds here.
-/

import Mathlib.Data.Int.Notation
import Mathlib.Order.Basic

namespace Vio

inductive Thrown where
  | runtimeError (what : String)
  | logicError (what : String)
  | invalidArgument (what : String)
  | badOptionalAccess
  deriving DecidableEq, Repr

/-- An estimator frame, independent of the wrapping reset byte. -/
structure SessionGeneration where
  value : UInt64
  deriving DecidableEq, Repr

/-- The double arithmetic and the libm functions that the conversions call.
The comparisons are Boolean, because a NaN makes each of them false. -/
class Scalar (R : Type) extends Add R, Sub R, Neg R, Mul R, Div R, OfScientific R where
  lt : R → R → Bool
  le : R → R → Bool
  isFinite : R → Bool
  abs : R → R
  sqrt : R → R
  cos : R → R
  sin : R → R
  asin : R → R
  atan2 : R → R → R
  /-- The scaled Euclidean norm of four coefficients. -/
  stableNorm : R → R → R → R → R
  nan : R

structure Vector3 (R : Type) where
  x : R
  y : R
  z : R
  deriving DecidableEq, Repr

/-- A Hamilton quaternion with its scalar part first. -/
structure Quaternion (R : Type) where
  w : R
  x : R
  y : R
  z : R
  deriving DecidableEq, Repr

section Checks
variable {R : Type} [Scalar R]

def Vector3.allFinite (vector : Vector3 R) : Bool :=
  Scalar.isFinite vector.x && Scalar.isFinite vector.y && Scalar.isFinite vector.z

def Quaternion.allFinite (quaternion : Quaternion R) : Bool :=
  Scalar.isFinite quaternion.w && Scalar.isFinite quaternion.x &&
    Scalar.isFinite quaternion.y && Scalar.isFinite quaternion.z

def Quaternion.stableNorm (quaternion : Quaternion R) : R :=
  Scalar.stableNorm quaternion.x quaternion.y quaternion.z quaternion.w

end Checks

inductive EstimatorStatus where
  | initializing
  | ready
  deriving DecidableEq, Repr

/-- An OpenVINS snapshot in its z-up world frame of arbitrary heading. -/
structure EstimatorEstimate (R : Type) where
  timestamp : Int
  generation : SessionGeneration
  status : EstimatorStatus
  positionWorldM : Vector3 R
  velocityWorldMps : Vector3 R
  worldFromImu : Quaternion R
  deriving DecidableEq, Repr

/-- The ArduPilot interface values in local NED axes. -/
structure ArduPilotMeasurement (R : Type) where
  timestamp : Int
  generation : SessionGeneration
  positionNedM : Vector3 R
  velocityNedMps : Vector3 R
  rollPitchYawRad : Vector3 R
  deriving DecidableEq, Repr

inductive EstimateRejection where
  | none
  | notInitialized
  | wrongSession
  | invalidTimestamp
  | futureTimestamp
  | stale
  | nonFinite
  | invalidOrientation
  deriving DecidableEq, Repr

def validateEstimate {R : Type} [Scalar R] (estimate : EstimatorEstimate R)
    (session : SessionGeneration) (now maxAge : Int) :
    Except Thrown EstimateRejection :=
  if now < 0 ∨ maxAge < 0 then
    .error (.invalidArgument "now and max_age must be nonnegative")
  else if estimate.status ≠ .ready then .ok .notInitialized
  else if estimate.generation.value ≠ session.value then .ok .wrongSession
  else if estimate.timestamp < 0 then .ok .invalidTimestamp
  else if estimate.timestamp > now then .ok .futureTimestamp
  -- A zero limit switches the age check off.
  else if maxAge ≠ 0 ∧ now - estimate.timestamp > maxAge then .ok .stale
  else if !estimate.positionWorldM.allFinite || !estimate.velocityWorldMps.allFinite ||
      !estimate.worldFromImu.allFinite then .ok .nonFinite
  else
    let norm := estimate.worldFromImu.stableNorm
    if !Scalar.isFinite norm || Scalar.lt norm 1e-12 then .ok .invalidOrientation
    else .ok .none

/-- An accepted estimate belongs to the session and lies inside the age window. -/
theorem validateEstimate_none {R : Type} [Scalar R] {estimate : EstimatorEstimate R}
    {session : SessionGeneration} {now maxAge : Int} (bounded : maxAge ≠ 0)
    (accepted : validateEstimate estimate session now maxAge = .ok .none) :
    estimate.generation = session ∧ 0 ≤ estimate.timestamp ∧ estimate.timestamp ≤ now ∧
      now - estimate.timestamp ≤ maxAge := by
  unfold validateEstimate at accepted
  split at accepted
  · simp at accepted
  split at accepted
  · simp at accepted
  split at accepted
  · simp at accepted
  rename_i sameValue
  split at accepted
  · simp at accepted
  split at accepted
  · simp at accepted
  split at accepted
  · simp at accepted
  rename_i notNegative notFuture notStale
  have same : estimate.generation = session := by
    cases generation : estimate.generation
    cases session
    simp_all
  refine ⟨same, Int.not_lt.mp notNegative, Int.not_lt.mp notFuture, ?_⟩
  by_contra old
  exact notStale ⟨bounded, by omega⟩

/-- The check throws for negative limits only. -/
theorem validateEstimate_error {R : Type} [Scalar R] {estimate : EstimatorEstimate R}
    {session : SessionGeneration} {now maxAge : Int} {thrown : Thrown}
    (refused : validateEstimate estimate session now maxAge = .error thrown) :
    now < 0 ∨ maxAge < 0 := by
  unfold validateEstimate at refused
  split at refused
  · assumption
  · dsimp only at refused
    repeat' split at refused
    all_goals cases refused

/-- An accepted estimate has finite coordinates and an orientation. -/
theorem validateEstimate_finite {R : Type} [Scalar R] {estimate : EstimatorEstimate R}
    {session : SessionGeneration} {now maxAge : Int}
    (accepted : validateEstimate estimate session now maxAge = .ok .none) :
    (!estimate.positionWorldM.allFinite || !estimate.velocityWorldMps.allFinite ||
      !estimate.worldFromImu.allFinite) = false ∧
    (!Scalar.isFinite estimate.worldFromImu.stableNorm ||
      Scalar.lt estimate.worldFromImu.stableNorm 1e-12) = false := by
  unfold validateEstimate at accepted
  split at accepted
  · cases accepted
  repeat' split at accepted
  all_goals first | cases accepted | skip
  rename_i finite
  refine ⟨by simpa using finite, ?_⟩
  dsimp only at accepted
  split at accepted
  · cases accepted
  · rename_i oriented
    simpa using oriented

end Vio
