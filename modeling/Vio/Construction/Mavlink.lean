/-
This file names the messages of the MAVLink library that the link packs and decodes.
The generated library is not part of the repository, so its framing is a parameter.
-/

import Vio.Construction.Estimate

namespace Vio

structure MavlinkAddress where
  system : UInt8
  component : UInt8
  deriving DecidableEq, Repr

namespace Mavlink

/-- The longest packet: header, payload, checksum and signature. -/
def maxPacketLen : Nat := 280

def typeGcs : UInt8 := 6
def typeOnboardController : UInt8 := 18
def autopilotArdupilotmega : UInt8 := 3
def autopilotInvalid : UInt8 := 8
def stateActive : UInt8 := 4
def modeFlagSafetyArmed : UInt8 := 128
def cmdDoAuxFunction : UInt16 := 218
def resultAccepted : UInt8 := 0
def resultTemporarilyRejected : UInt8 := 1
def resultInProgress : UInt8 := 5

structure VisionPositionEstimate (R : Type) where
  usec : Nat
  x : R
  y : R
  z : R
  roll : R
  pitch : R
  yaw : R
  covariance : List R
  resetCounter : UInt8
  deriving DecidableEq, Repr

structure VisionSpeedEstimate (R : Type) where
  usec : Nat
  x : R
  y : R
  z : R
  covariance : List R
  resetCounter : UInt8
  deriving DecidableEq, Repr

structure CommandLong (R : Type) where
  targetSystem : UInt8
  targetComponent : UInt8
  command : UInt16
  confirmation : UInt8
  params : List R
  deriving DecidableEq, Repr

structure Heartbeat where
  type : UInt8
  autopilot : UInt8
  baseMode : UInt8
  customMode : UInt32
  systemStatus : UInt8
  deriving DecidableEq, Repr

structure CommandAck where
  command : UInt16
  result : UInt8
  targetSystem : UInt8
  targetComponent : UInt8
  deriving DecidableEq, Repr

inductive Outgoing (R : Type) where
  | visionPositionEstimate (message : VisionPositionEstimate R)
  | visionSpeedEstimate (message : VisionSpeedEstimate R)
  | commandLong (message : CommandLong R)
  | heartbeat (message : Heartbeat)
  deriving DecidableEq, Repr

/-- The decoded payload of a received message, by its message ID. -/
inductive Body where
  | heartbeat (message : Heartbeat)
  | commandAck (message : CommandAck)
  | other (msgid : Nat)
  deriving DecidableEq, Repr

structure Message where
  sysid : UInt8
  compid : UInt8
  body : Body
  deriving DecidableEq, Repr

/-- The answer of `mavlink_frame_char_buffer` for one byte. -/
inductive Framing where
  | incomplete
  | ok (message : Message)
  | badCrc
  | badSignature
  deriving DecidableEq, Repr

end Mavlink

/-- The functions of the generated MAVLink library that the link calls. -/
class Mavlink (R : Type) where
  Parser : Type
  Status : Type
  Packet : Type
  freshParser : Parser
  freshStatus : Status
  pack : MavlinkAddress → Status → Mavlink.Outgoing R → Packet × Status
  toSendBuffer : Packet → List UInt8
  frameChar : Parser → UInt8 → Parser × Mavlink.Framing

namespace Mavlink
variable {R : Type} [Mavlink R]

variable (R) in
/-- Each pack yields a nonempty packet of at most the documented length. -/
def PacksFit : Prop :=
  ∀ (source : MavlinkAddress) (status : Status R) (message : Outgoing R),
    1 ≤ (toSendBuffer (pack source status message).1).length ∧
      (toSendBuffer (pack source status message).1).length ≤ maxPacketLen

/-- The bytes of consecutive packets from one sender. -/
def encode (source : MavlinkAddress) : Status R → List (Outgoing R) → List UInt8
  | _, [] => []
  | status, message :: rest =>
      toSendBuffer (pack source status message).1 ++
        encode source (pack source status message).2 rest

theorem encode_ne_nil (packs : PacksFit R) (source : MavlinkAddress) (status : Status R)
    (message : Outgoing R) (rest : List (Outgoing R)) :
    encode source status (message :: rest) ≠ [] := by
  intro empty
  have first := (packs source status message).1
  simp only [encode, List.append_eq_nil_iff] at empty
  simp [empty.1] at first

end Mavlink

end Vio
