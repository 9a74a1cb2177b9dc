/-
This file holds the owner of the serial stream, the MAVLink state and the session.
The field `history` is not in the source: it records what the link did, newest first,
and no modelled function reads it.
-/

import Vio.Construction.FlightSession
import Vio.Construction.Frames
import Vio.Construction.Mavlink

namespace Vio
open Mavlink

structure MavlinkLinkConfig where
  source : MavlinkAddress := ⟨1, 197⟩
  controller : MavlinkAddress := ⟨1, 1⟩
  session : FlightSessionConfig := {}
  sendVelocity : Bool := true
  deriving DecidableEq, Repr

/-- The addresses are nonzero and distinct. -/
def MavlinkLinkConfig.Accepted (config : MavlinkLinkConfig) : Prop :=
  ¬ (config.source.system = 0 ∨ config.source.component = 0 ∨
    config.controller.system = 0 ∨ config.controller.component = 0 ∨
    (config.source.system = config.controller.system ∧
      config.source.component = config.controller.component))

instance (config : MavlinkLinkConfig) : Decidable config.Accepted :=
  inferInstanceAs (Decidable (¬ _))

inductive PublishResult where
  | queued
  | held
  | invalidEstimate
  | outOfOrder
  | busy
  deriving DecidableEq, Repr

structure MavlinkLinkStats where
  measurementsSent : Nat := 0
  measurementsDropped : Nat := 0
  invalidFrames : Nat := 0
  deriving DecidableEq, Repr

inductive PendingKind where
  | none
  | measurement
  | alignment
  | heartbeat
  deriving DecidableEq, Repr

/-- What one filling of the fixed buffer says. -/
inductive Content (R : Type) where
  | measurement (estimate : EstimatorEstimate R) (pose : VisionPositionEstimate R)
      (speed : Option (VisionSpeedEstimate R))
  | alignment (command : CommandLong R)
  | heartbeat (message : Heartbeat)
  deriving DecidableEq, Repr

def Content.kind {R : Type} : Content R → PendingKind
  | .measurement .. => .measurement
  | .alignment _ => .alignment
  | .heartbeat _ => .heartbeat

def Content.messages {R : Type} : Content R → List (Outgoing R)
  | .measurement _ pose speed =>
      .visionPositionEstimate pose :: (speed.map Outgoing.visionSpeedEstimate).toList
  | .alignment command => [.commandLong command]
  | .heartbeat message => [.heartbeat message]

/-- One filling of the fixed buffer, with the transmit status that packed it. -/
structure Transmission (R : Type) [Mavlink R] where
  status : Status R
  content : Content R

def Transmission.bytes {R : Type} [Mavlink R] (source : MavlinkAddress)
    (transmission : Transmission R) : List UInt8 :=
  encode source transmission.status transmission.content.messages

/-- One call of the stream's `write`, with the session as it was at the call. -/
structure WriteCall where
  kind : PendingKind
  bytes : List UInt8
  accepted : Nat
  now : Int
  session : FlightSession
  started : Bool
  deriving DecidableEq, Repr

def WriteCall.Complete (call : WriteCall) : Prop := call.accepted = call.bytes.length

instance (call : WriteCall) : Decidable call.Complete := inferInstanceAs (Decidable (_ = _))

inductive LinkEvent (R : Type) [Mavlink R] where
  | started (generation : SessionGeneration)
  | ended
  /-- A heartbeat loss took an alignment back. -/
  | revoked (now : Int)
  /-- A heartbeat of the configured controller reached the session. -/
  | heartbeat (armed : Bool) (now : Int)
  /-- An acknowledgment of the configured controller reached the session. -/
  | acknowledged (result : AlignmentResult) (now : Int)
  | queued (transmission : Transmission R) (now : Int)
  | handed (call : WriteCall)

/-- What the byte stream does during one poll. Each side may throw a runtime error. -/
structure Transport where
  waiting : Except String (List UInt8)
  accept : Except String Nat

structure MavlinkLink (R : Type) [Mavlink R] where
  /-- The link still owns the byte stream. -/
  stream : Bool
  config : MavlinkLinkConfig
  accepted : config.Accepted
  transform : FrameTransform R
  session : FlightSession
  started : Bool := false
  parser : Parser R := freshParser
  transmitStatus : Status R := freshStatus
  /-- The first `pending_size_` bytes of the fixed buffer. -/
  pending : List UInt8 := []
  pendingOffset : Nat := 0
  pendingKind : PendingKind := .none
  pendingTimestamp : Int := 0
  pendingDeadline : Int := 0
  nextHeartbeat : Int := 0
  lastEstimateTime : Option Int := Option.none
  stats : MavlinkLinkStats := {}
  failureReason : String := ""
  history : List (LinkEvent R) := []

/-- A member function call: the link afterwards, and what the call returned or threw. -/
abbrev Call (R : Type) [Mavlink R] (A : Type) := MavlinkLink R × Except Thrown A

def visualOdometryAlign {R : Type} [Scalar R] : R := 80.0
def switchHigh {R : Type} [Scalar R] : R := 2.0

def pendingCapacity : Nat := 2 * maxPacketLen

def inputCapacity : Nat := 4096

/-- Each coordinate becomes a finite float without overflow. -/
def fitsWire {R : Type} [Scalar R] (vector : Vector3 R) : Bool :=
  let limit : R := 340282346638528859811704183484516925440.0
  vector.allFinite && Scalar.le (Scalar.abs vector.x) limit &&
    Scalar.le (Scalar.abs vector.y) limit && Scalar.le (Scalar.abs vector.z) limit

/-- The microsecond field of a packet; a published time is nonnegative. -/
def usec (timestamp : Int) : Nat := (timestamp.tdiv 1000).toNat

namespace MavlinkLink
variable {R : Type} [Mavlink R]

def create (stream : Bool) (config : MavlinkLinkConfig) (transform : FrameTransform R)
    (initialResetCounter : UInt8) : Except Thrown (MavlinkLink R) :=
  match FlightSession.create config.session initialResetCounter with
  | .error thrown => .error thrown
  | .ok session =>
      if accepted : stream = true ∧ config.Accepted then
        .ok { stream, config, accepted := accepted.2, transform, session }
      else
        .error (.invalidArgument "MAVLink requires a stream and distinct, nonzero addresses")

def record (link : MavlinkLink R) (event : LinkEvent R) : MavlinkLink R :=
  { link with history := event :: link.history }

def clearPending (link : MavlinkLink R) : MavlinkLink R :=
  { link with pendingKind := .none, pending := [], pendingOffset := 0 }

def fail (link : MavlinkLink R) (reason : String) : MavlinkLink R :=
  { link.clearPending with
    failureReason := reason
    session := link.session.fail
    stream := false }

def startSession (link : MavlinkLink R) (generation : SessionGeneration) : Call R Unit :=
  if link.pendingOffset ≠ 0 then
    (link.fail "session restart during a partial transmission",
      .error (.logicError "cannot replace a session during a partial transmission"))
  else
    match link.session.start generation with
    | .error thrown => (link, .error thrown)
    | .ok session =>
        ({ link.clearPending with
            session
            lastEstimateTime := Option.none
            started := true
            history := .started generation :: link.history }, .ok ())

def endSession (link : MavlinkLink R) : MavlinkLink R :=
  let link := { link with started := false, history := .ended :: link.history }
  if link.pendingOffset ≠ 0 then link.fail "capture ended during partial transmission"
  else link.clearPending

/-- The tick of the session, with the loss of an alignment on record. -/
def tick (link : MavlinkLink R) (now : Int) : MavlinkLink R :=
  { link with
    session := link.session.tick now
    history :=
      if link.session.state = .aligned ∧ (link.session.tick now).state ≠ .aligned then
        .revoked now :: link.history
      else link.history }

def heartbeat (link : MavlinkLink R) (armed : Bool) (now : Int) : MavlinkLink R :=
  { link.tick now with
    session := link.session.heartbeat armed now
    history := .heartbeat armed now :: (link.tick now).history }

def acknowledge (link : MavlinkLink R) (result : AlignmentResult) (now : Int) : MavlinkLink R :=
  { link.tick now with
    session := link.session.acknowledge result now
    history := .acknowledged result now :: (link.tick now).history }

def alignmentResult (result : UInt8) : AlignmentResult :=
  if result = resultAccepted then .accepted
  else if result = resultInProgress then .inProgress
  else if result = resultTemporarilyRejected then .retry
  else .rejected

def receive (link : MavlinkLink R) (message : Message) (now : Int) : MavlinkLink R :=
  if message.sysid ≠ link.config.controller.system ∨
      message.compid ≠ link.config.controller.component then link
  else
    match message.body with
    | .heartbeat heartbeat =>
        if heartbeat.autopilot = autopilotArdupilotmega ∧ heartbeat.type ≠ typeGcs then
          link.heartbeat (heartbeat.baseMode &&& modeFlagSafetyArmed ≠ 0) now
        else link
    | .commandAck ack =>
        -- Zero addresses are permitted for MAVLink 1 ACKs and omitted extensions.
        if ack.command ≠ cmdDoAuxFunction ∨
            (ack.targetSystem ≠ 0 ∧ ack.targetSystem ≠ link.config.source.system) ∨
            (ack.targetComponent ≠ 0 ∧ ack.targetComponent ≠ link.config.source.component) then
          link
        else link.acknowledge (alignmentResult ack.result) now
    | .other _ => link

/-- One step of the input loop. -/
def receiveByte (now : Int) (link : MavlinkLink R) (byte : UInt8) : MavlinkLink R :=
  let framed := frameChar (R := R) link.parser byte
  let link := { link with parser := framed.1 }
  match framed.2 with
  | .ok message => link.receive message now
  | .badCrc | .badSignature =>
      { link with stats := { link.stats with invalidFrames := link.stats.invalidFrames + 1 } }
  | .incomplete => link

def receiveBytes (link : MavlinkLink R) (input : List UInt8) (now : Int) : MavlinkLink R :=
  input.foldl (receiveByte now) link

/-- Pack one message and encode it into the fixed buffer. -/
def append (link : MavlinkLink R) (message : Outgoing R) : Call R Unit :=
  let packed := pack link.config.source link.transmitStatus message
  let link := { link with transmitStatus := packed.2 }
  if link.pending.length + maxPacketLen > pendingCapacity then
    (link, .error (.logicError "MAVLink transmit buffer capacity exceeded"))
  else ({ link with pending := link.pending ++ toSendBuffer packed.1 }, .ok ())

/-- Append messages in order and stop at the first throw. -/
def appendAll (link : MavlinkLink R) : List (Outgoing R) → Call R Unit
  | [] => (link, .ok ())
  | message :: rest =>
      match link.append message with
      | (link, .error thrown) => (link, .error thrown)
      | (link, .ok ()) => link.appendAll rest

/-- Fill the buffer with one transmission and set its kind and deadline. -/
def queue (link : MavlinkLink R) (content : Content R) (deadline now : Int) : Call R Unit :=
  let transmission := { status := link.transmitStatus, content }
  match link.appendAll content.messages with
  | (link, .error thrown) => (link, .error thrown)
  | (link, .ok ()) =>
      ({ link with
          pendingKind := content.kind
          pendingDeadline := deadline
          history := .queued transmission now :: link.history }, .ok ())

section Publish
variable [Scalar R]

/-- The covariance is unknown: NaN in its first entry. -/
def unknownCovariance (size : Nat) : List R := Scalar.nan :: List.replicate (size - 1) 0.0

def posePacket (link : MavlinkLink R) (measurement : ArduPilotMeasurement R) :
    VisionPositionEstimate R :=
  { usec := usec measurement.timestamp
    x := measurement.positionNedM.x
    y := measurement.positionNedM.y
    z := measurement.positionNedM.z
    roll := measurement.rollPitchYawRad.x
    pitch := measurement.rollPitchYawRad.y
    yaw := measurement.rollPitchYawRad.z
    covariance := unknownCovariance 21
    resetCounter := link.session.resetCounter }

def speedPacket (link : MavlinkLink R) (measurement : ArduPilotMeasurement R) :
    VisionSpeedEstimate R :=
  { usec := usec measurement.timestamp
    x := measurement.velocityNedMps.x
    y := measurement.velocityNedMps.y
    z := measurement.velocityNedMps.z
    covariance := unknownCovariance 9
    resetCounter := link.session.resetCounter }

/-- Queue the pose packet and, where configured, its velocity packet. -/
def queueMeasurement (link : MavlinkLink R) (estimate : EstimatorEstimate R)
    (measurement : ArduPilotMeasurement R) (now : Int) : Call R PublishResult :=
  let speed := if link.config.sendVelocity then some (link.speedPacket measurement) else Option.none
  let deadline :=
    now + (link.session.config.maxEstimateAge - (now - measurement.timestamp))
  match link.queue (.measurement estimate (link.posePacket measurement) speed) deadline now with
  | (link, .error thrown) => (link, .error thrown)
  | (link, .ok ()) =>
      ({ link with
          pendingTimestamp := measurement.timestamp
          lastEstimateTime := some estimate.timestamp }, .ok .queued)

def publish (link : MavlinkLink R) (estimate : EstimatorEstimate R) (now : Int) :
    Call R PublishResult :=
  let link := link.tick now
  if !link.started || !link.stream || !link.session.canPublish now then (link, .ok .held)
  else
    match link.session.generation with
    | Option.none => (link, .error .badOptionalAccess)
    | some generation =>
        match validateEstimate estimate generation now link.session.config.maxEstimateAge with
        | .error thrown => (link, .error thrown)
        | .ok rejection =>
            if rejection ≠ .none then (link, .ok .invalidEstimate)
            else if link.lastEstimateTime.any fun last => estimate.timestamp ≤ last then
              (link, .ok .outOfOrder)
            -- The next poll is kept for due control traffic.
            else if link.pendingKind ≠ .none || link.session.alignmentDue now ||
                now ≥ link.nextHeartbeat then (link, .ok .busy)
            else
              match link.transform.transform estimate with
              | .error thrown => (link, .error thrown)
              | .ok measurement =>
                  if !fitsWire measurement.positionNedM || !fitsWire measurement.velocityNedMps ||
                      !fitsWire measurement.rollPitchYawRad then (link, .ok .invalidEstimate)
                  else link.queueMeasurement estimate measurement now

/-- The confirmation byte counts the attempts already made. -/
def alignmentCommand (link : MavlinkLink R) : CommandLong R :=
  { targetSystem := link.config.controller.system
    targetComponent := link.config.controller.component
    command := cmdDoAuxFunction
    confirmation := UInt8.ofNat link.session.attempts
    params := [visualOdometryAlign, switchHigh, 0.0, 0.0, 0.0, 0.0, 0.0] }

def queueAlignment (link : MavlinkLink R) (now : Int) : Call R Unit :=
  link.queue (.alignment link.alignmentCommand) (now + link.config.session.alignmentTimeout) now

end Publish

def onboardHeartbeat : Heartbeat :=
  { type := typeOnboardController
    autopilot := autopilotInvalid
    baseMode := 0
    customMode := 0
    systemStatus := stateActive }

def queueHeartbeat (link : MavlinkLink R) (now : Int) : Call R Unit :=
  match link.queue (.heartbeat onboardHeartbeat) (now + 1000000000) now with
  | (link, .error thrown) => (link, .error thrown)
  | (link, .ok ()) => ({ link with nextHeartbeat := link.pendingDeadline }, .ok ())

def eligible (link : MavlinkLink R) (now : Int) : Bool :=
  match link.pendingKind with
  | .measurement => link.session.canPublish now
  | .alignment => link.session.alignmentDue now
  | _ => true

def countDropped (link : MavlinkLink R) : MavlinkLink R :=
  if link.pendingKind = .measurement then
    { link with
      stats := { link.stats with measurementsDropped := link.stats.measurementsDropped + 1 } }
  else link

/-- Drop a transmission that expired or lost its permission; close over a partial one. -/
def expire (link : MavlinkLink R) (now : Int) : MavlinkLink R :=
  if link.pendingKind ≠ .none ∧ (link.eligible now = false ∨ now > link.pendingDeadline) then
    let link := link.countDropped
    if link.pendingOffset ≠ 0 then
      link.fail "partial transmission expired or publication permission was revoked"
    else link.clearPending
  else link

/-- The bookkeeping after the last byte of a transmission. -/
def finish (link : MavlinkLink R) (now : Int) : Call R Unit :=
  match link.pendingKind with
  | .measurement =>
      (({ link with
          stats := { link.stats with measurementsSent := link.stats.measurementsSent + 1 }
          session := link.session.measurementSent link.pendingTimestamp }).clearPending, .ok ())
  | .alignment =>
      match link.session.alignmentSent now with
      | .error thrown => (link, .error thrown)
      | .ok session => (({ link with session }).clearPending, .ok ())
  | _ => (link.clearPending, .ok ())

/-- One call of the stream's `write` with the unsent rest of the buffer. -/
def writeCall (link : MavlinkLink R) (accepted : Nat) (now : Int) : WriteCall where
  kind := link.pendingKind
  bytes := link.pending.drop link.pendingOffset
  accepted := min accepted (link.pending.length - link.pendingOffset)
  now := now
  session := link.session
  started := link.started

/-- The write and what follows it. -/
def transmit (link : MavlinkLink R) (now : Int) (accept : Except String Nat) : Call R Unit :=
  if link.pendingKind = .none then (link, .ok ())
  else
    match accept with
    | .error what => (link.record (.handed (link.writeCall 0 now)), .error (.runtimeError what))
    | .ok accepted =>
        let call := link.writeCall accepted now
        let link : MavlinkLink R :=
          { link.record (.handed call) with
            pendingOffset := link.pendingOffset + call.accepted }
        if link.pendingOffset ≠ link.pending.length then (link, .ok ())
        else link.finish now

section Poll
variable [Scalar R]

/-- The part of the poll after the input loop. -/
def advance (link : MavlinkLink R) (now : Int) (full : Bool) (accept : Except String Nat) :
    Call R Unit :=
  if link.session.state = .failed then
    (link.fail "alignment failed or controller state changed during alignment", .ok ())
  else
    let link := link.expire now
    if !link.stream then (link, .ok ())
    -- A full receive budget may hide a queued arming heartbeat.
    else if full then (link, .ok ())
    else
      let queued : Call R Unit :=
        if link.pendingKind = .none then
          if link.started && link.session.alignmentDue now then link.queueAlignment now
          else if now ≥ link.nextHeartbeat then link.queueHeartbeat now
          else (link, .ok ())
        else (link, .ok ())
      match queued with
      | (link, .error thrown) => (link, .error thrown)
      | (link, .ok ()) => link.transmit now accept

/-- The body of the `try` block. -/
def service (link : MavlinkLink R) (now : Int) (transport : Transport) : Call R Unit :=
  let link := link.tick now
  match transport.waiting with
  | .error what => (link, .error (.runtimeError what))
  | .ok waiting =>
      let input := waiting.take inputCapacity
      (link.receiveBytes input now).advance now (input.length = inputCapacity) transport.accept

def poll (link : MavlinkLink R) (now : Int) (transport : Transport) : Call R Unit :=
  if !link.stream then (link, .ok ())
  else
    match link.service now transport with
    | (link, .error (.runtimeError what)) => (link.fail what, .ok ())
    | result => result

end Poll

end MavlinkLink

inductive Operation (R : Type) where
  | startSession (generation : SessionGeneration)
  | endSession
  | publish (estimate : EstimatorEstimate R) (now : Int)
  | poll (now : Int) (transport : Transport)

def Operation.time {R : Type} : Operation R → Option Int
  | .startSession _ | .endSession => none
  | .publish _ now | .poll now _ => some now

namespace MavlinkLink
variable {R : Type} [Scalar R] [Mavlink R]

/-- The link after one call, whether the call returned or threw. -/
def apply (link : MavlinkLink R) : Operation R → MavlinkLink R
  | .startSession generation => (link.startSession generation).1
  | .endSession => link.endSession
  | .publish estimate now => (link.publish estimate now).1
  | .poll now transport => (link.poll now transport).1

def run (link : MavlinkLink R) (operations : List (Operation R)) : MavlinkLink R :=
  operations.foldl apply link

end MavlinkLink

def NonDecreasing {R : Type} (operations : List (Operation R)) : Prop :=
  (operations.filterMap Operation.time).Pairwise (· ≤ ·)

end Vio
