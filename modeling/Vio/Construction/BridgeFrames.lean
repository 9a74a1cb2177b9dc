/-
This file holds the conversions of the simulation bridge from ROS frames, ENU world and FLU body, to
MAVLink frames, NED world and FRD body. The rotations of the Python library are a parameter.
-/

import Vio.Construction.Estimate

namespace Vio

/-- The functions of the rotation library that the bridge calls. -/
structure RotationLibrary (R : Type) where
  Rotation : Type
  /-- The quaternion has its scalar part last. -/
  fromQuat : R → R → R → R → Rotation
  /-- The composition `p * q`, which applies `q` first. -/
  compose : Rotation → Rotation → Rotation
  /-- `as_euler("xyz")`. -/
  asEuler : Rotation → Vector3 R

section Bridge
variable {R : Type} [Scalar R]

def positionEnuToNed (position : Vector3 R) : Vector3 R :=
  ⟨position.y, position.x, -position.z⟩

variable (library : RotationLibrary R)

/-- A half turn about (1, 1, 0)/sqrt(2). -/
def enuToNed : library.Rotation := library.fromQuat (Scalar.sqrt 0.5) (Scalar.sqrt 0.5) 0.0 0.0

/-- A half turn about x. -/
def fluToFrd : library.Rotation := library.fromQuat 1.0 0.0 0.0 0.0

/-- Roll, pitch and yaw of an FRD body in an NED world, from the quaternion of an FLU body in an ENU
world. -/
def orientationEnuFluToNedFrd (orientation : Quaternion R) : Vector3 R :=
  let nedFrd := library.compose
    (library.compose (enuToNed library)
      (library.fromQuat orientation.x orientation.y orientation.z orientation.w)) (fluToFrd library)
  library.asEuler nedFrd

end Bridge
end Vio
