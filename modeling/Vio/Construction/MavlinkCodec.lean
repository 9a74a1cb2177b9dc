/-
This file holds a codec with the unsigned framing of MAVLink 2, over exact rational scalars.
It is one instance of the library that the link calls. A short flight over it ends the file.
-/

import Vio.Construction.MavlinkLink

namespace Vio
open Mavlink

/-- A rational number, or NaN where the exact value is not rational. -/
structure Exact where
  value : Option Rat
  deriving DecidableEq, Repr

namespace Exact

def lift (operation : Rat → Rat → Option Rat) (first second : Exact) : Exact :=
  match first.value, second.value with
  | some first, some second => ⟨operation first second⟩
  | _, _ => ⟨none⟩

def compare (relation : Rat → Rat → Bool) (first second : Exact) : Bool :=
  match first.value, second.value with
  | some first, some second => relation first second
  | _, _ => false

/-- The value of a function that is known at one argument only. -/
def only (argument result : Rat) (value : Exact) : Exact :=
  if value.value = some argument then ⟨some result⟩ else ⟨none⟩

def naturalRoot (square : Nat) : Option Nat :=
  (List.range (square + 1)).find? fun root => root * root = square

def root (value : Exact) : Exact :=
  match value.value with
  | none => ⟨none⟩
  | some square =>
      match naturalRoot square.num.toNat, naturalRoot square.den with
      | some num, some den => if square.num < 0 then ⟨none⟩ else ⟨some (num / den)⟩
      | _, _ => ⟨none⟩

def add : Exact → Exact → Exact := lift fun first second => some (first + second)
def mul : Exact → Exact → Exact := lift fun first second => some (first * second)

instance : Scalar Exact where
  add := add
  sub := lift fun first second => some (first - second)
  neg value := ⟨value.value.map fun value => -value⟩
  mul := mul
  div := lift fun first second => if second = 0 then none else some (first / second)
  ofScientific mantissa sign exponent := ⟨some (OfScientific.ofScientific mantissa sign exponent)⟩
  lt := compare fun first second => first < second
  le := compare fun first second => first ≤ second
  isFinite value := value.value.isSome
  abs value := ⟨value.value.map fun value => if value < 0 then -value else value⟩
  sqrt := root
  cos := only 0 1
  sin := only 0 0
  asin := only 0 0
  atan2 := lift fun y x => if y = 0 ∧ 0 < x then some 0 else none
  stableNorm x y z w := root (add (add (mul x x) (mul y y)) (add (mul z z) (mul w w)))
  nan := ⟨none⟩

def exponent (value : Rat) : Int :=
  let estimate : Int := (Nat.log2 value.num.toNat : Int) - Nat.log2 value.den
  if (2 : Rat) ^ estimate ≤ value then estimate else estimate - 1

/-- The nearest integer, a tie going to the even one. -/
def nearest (value : Rat) : Int :=
  let doubled := 2 * (value - value.floor)
  if doubled < 1 ∨ (doubled = 1 ∧ value.floor % 2 = 0) then value.floor else value.floor + 1

/-- The bits of the nearest single-precision float, with overflow to infinity. -/
def floatBits (value : Exact) : Nat :=
  match value.value with
  | none => 0x7FC00000
  | some value =>
      let sign := if value < 0 then 0x80000000 else 0
      let magnitude := if value < 0 then -value else value
      if magnitude = 0 then 0
      else
        let scale := max (exponent magnitude) (-126)
        let mantissa := (nearest (magnitude * (2 : Rat) ^ (23 - scale))).toNat
        -- A carry out of the mantissa raises the exponent field.
        sign + min ((scale + 126).toNat * 0x800000 + mantissa) 0x7F800000

end Exact

namespace MavlinkCodec

def littleEndian : Nat → Nat → List UInt8
  | 0, _ => []
  | size + 1, value => UInt8.ofNat value :: littleEndian size (value / 256)

def natural (bytes : List UInt8) : Nat :=
  bytes.foldr (fun byte value => byte.toNat + 256 * value) 0

def floats (size : Nat) (values : List Exact) : List UInt8 :=
  (List.range size).flatMap fun index => littleEndian 4 (values.getD index ⟨some 0⟩).floatBits

/-- One bit of the X.25 checksum. -/
def crcBit (crc : Nat) : Nat := if crc % 2 = 1 then (crc / 2) ^^^ 0x8408 else crc / 2

def crcByte (crc : Nat) (byte : UInt8) : Nat := Nat.repeat crcBit 8 (crc ^^^ byte.toNat)

def checksum (bytes : List UInt8) : Nat := bytes.foldl crcByte 0xFFFF

/-- The message ID, the checksum seed and the payload of a message. -/
def layout : Outgoing Exact → Nat × UInt8 × List UInt8
  | .visionPositionEstimate message =>
      (102, 158, littleEndian 8 message.usec ++
        floats 6 [message.x, message.y, message.z, message.roll, message.pitch, message.yaw] ++
        floats 21 message.covariance ++ [message.resetCounter])
  | .visionSpeedEstimate message =>
      (103, 208, littleEndian 8 message.usec ++ floats 3 [message.x, message.y, message.z] ++
        floats 9 message.covariance ++ [message.resetCounter])
  | .commandLong message =>
      (76, 152, floats 7 message.params ++ littleEndian 2 message.command.toNat ++
        [message.targetSystem, message.targetComponent, message.confirmation])
  | .heartbeat message =>
      (0, 50, littleEndian 4 message.customMode.toNat ++
        [message.type, message.autopilot, message.baseMode, message.systemStatus, 3])

/-- Trailing zeros are cut, but one byte stays. -/
def trim (payload : List UInt8) : List UInt8 :=
  payload.take (max 1 (payload.reverse.dropWhile (· = 0)).length)

/-- A packet: the start byte, the header, the payload and the checksum. -/
def frame (source : MavlinkAddress) (sequence : UInt8) (msgid : Nat) (seed : UInt8)
    (payload : List UInt8) : List UInt8 :=
  let payload := trim payload
  let body := [UInt8.ofNat payload.length, 0, 0, sequence, source.system, source.component] ++
    littleEndian 3 msgid ++ payload
  0xFD :: (body ++ littleEndian 2 (checksum (body ++ [seed])))

def seed (msgid : Nat) : UInt8 := if msgid = 0 then 50 else if msgid = 77 then 143 else 0

def decode (msgid : Nat) (payload : List UInt8) : Body :=
  if msgid = 0 then
    .heartbeat
      { type := payload.getD 4 0
        autopilot := payload.getD 5 0
        baseMode := payload.getD 6 0
        customMode := UInt32.ofNat (natural (payload.take 4))
        systemStatus := payload.getD 7 0 }
  else if msgid = 77 then
    .commandAck
      { command := UInt16.ofNat (natural (payload.take 2))
        result := payload.getD 2 0
        targetSystem := payload.getD 8 0
        targetComponent := payload.getD 9 0 }
  else .other msgid

/-- The bytes of a packet under way, and the answer when its last byte arrives. -/
def receive (received : List UInt8) (byte : UInt8) : List UInt8 × Framing :=
  let packet := received ++ [byte]
  if packet.head? ≠ some 0xFD then ([], .incomplete)
  else
    let size := (packet.getD 1 0).toNat
    if packet.length < 3 ∨ packet.length < size + 12 then (packet, .incomplete)
    else
      let body := (packet.drop 1).take (size + 9)
      let msgid := natural ((packet.drop 7).take 3)
      if checksum (body ++ [seed msgid]) ≠ natural (packet.drop (size + 10)) then ([], .badCrc)
      else
        ([], .ok
          { sysid := packet.getD 5 0
            compid := packet.getD 6 0
            body := decode msgid ((packet.drop 10).take size) })

instance : Mavlink Exact where
  Parser := List UInt8
  Status := UInt8
  Packet := List UInt8
  freshParser := []
  freshStatus := 0
  pack source sequence message :=
    (frame source sequence (layout message).1 (layout message).2.1 (layout message).2.2, sequence + 1)
  toSendBuffer packet := packet
  frameChar := receive

theorem littleEndian_length (size value : Nat) : (littleEndian size value).length = size := by
  induction size generalizing value with
  | zero => rfl
  | succ size ih => rw [littleEndian, List.length_cons, ih]

theorem floats_length (size : Nat) (values : List Exact) : (floats size values).length = 4 * size := by
  induction size with
  | zero => rfl
  | succ size ih =>
      rw [floats] at ih ⊢
      rw [List.range_succ, List.flatMap_append, List.length_append, ih, List.flatMap_singleton,
        littleEndian_length]
      rfl

theorem layout_length (message : Outgoing Exact) : (layout message).2.2.length ≤ 117 := by
  cases message <;> simp [layout, littleEndian_length, floats_length]

/-- Every packet of the codec fits the buffer of the link. -/
theorem packsFit : PacksFit Exact := by
  intro source sequence message
  have short : (trim (layout message).2.2).length ≤ 117 :=
    Nat.le_trans (List.length_take_le' _ _) (layout_length message)
  constructor
  · exact Nat.succ_le_succ (Nat.zero_le _)
  · simp only [Mavlink.toSendBuffer, Mavlink.pack, frame, List.length_cons, List.length_append,
      List.length_nil, littleEndian_length, maxPacketLen]
    omega

end MavlinkCodec

namespace SampleFlight
open MavlinkCodec

def heartbeat (armed : Bool) (sequence : UInt8) : List UInt8 :=
  let message : Heartbeat :=
    { type := 2
      autopilot := autopilotArdupilotmega
      baseMode := if armed then 209 else 81
      customMode := 0
      systemStatus := 3 }
  frame ⟨1, 1⟩ sequence 0 50 (layout (.heartbeat message)).2.2

def acknowledgment (result sequence : UInt8) : List UInt8 :=
  frame ⟨1, 1⟩ sequence 77 143 (littleEndian 2 cmdDoAuxFunction.toNat ++ [result])

def estimate (timestamp : Int) : EstimatorEstimate Exact where
  timestamp := timestamp
  generation := ⟨1⟩
  status := .ready
  positionWorldM := ⟨1.0, 2.0, 3.0⟩
  velocityWorldMps := ⟨0.0, 0.5, 0.0⟩
  worldFromImu := ⟨1.0, 0.0, 0.0, 0.0⟩

def poll (now : Int) (input : List UInt8) (accepted : Nat) : Operation Exact :=
  .poll now ⟨.ok input, .ok accepted⟩

def link : MavlinkLink Exact where
  stream := true
  config := {}
  accepted := by decide
  transform := ⟨nedFromWorld⟩
  session := { config := {}, accepted := by decide, resetCounter := 7 }

theorem created : MavlinkLink.create true {} ⟨nedFromWorld⟩ 7 = .ok link := rfl

/-- The measurement that primes the controller is written, and the command follows it. -/
def priming : List (Operation Exact) :=
  [.startSession ⟨1⟩, poll 1 (heartbeat false 0) 300, .publish (estimate 2) 2, poll 2 [] 300,
    poll 3 [] 300]

/-- The controller accepts the command. -/
def alignment : List (Operation Exact) := priming ++ [poll 4 (acknowledgment resultAccepted 1) 300]

/-- The controller arms, and a part of the next measurement is written. -/
def flight : List (Operation Exact) :=
  alignment ++ [poll 5 (heartbeat true 2) 300, .publish (estimate 6) 6, poll 6 [] 20]

end SampleFlight
end Vio
