/-
This file holds the thread that reads the two IMU devices and pairs their samples, over an exact
field. The copy of the raw bytes to the recording and the read statistics are not modelled. The
field `pushed` is not in the source: it keeps what the thread pushed in all, oldest first.
-/

import Mathlib.Algebra.Field.Basic
import Mathlib.Algebra.Module.Pi
import Mathlib.Data.Fin.VecNotation
import Mathlib.Data.Int.Cast.Basic

namespace Vio

inductive ImuKind where
  | accel
  | gyro
  deriving DecidableEq, Repr

abbrev Axes (K : Type) := Fin 3 → K

/-- A device whose record description the runner accepted. -/
structure ImuDev (K : Type) where
  kind : ImuKind
  chardev : String
  record : Nat
  timestampOffset : Nat
  axisOffsets : Fin 3 → Nat
  scale : K
  recordBounds : 8 ≤ record ∧ record ≤ 65536
  timestampInside : timestampOffset ≤ record - 8
  axesInside : ∀ axis, axisOffsets axis ≤ record - 2

structure ImuLowPass (K : Type) where
  on : Bool := false
  b0 : K
  b1 : K
  b2 : K
  a1 : K
  a2 : K
  delay : Int := 0

/-- One sensor's filter state, one lane per axis. -/
structure ImuLowPassState (K : Type) where
  s1 : Axes K
  s2 : Axes K
  last : Int := 0

/-- One sample: its time in nanoseconds and its three axes. -/
abbrev ImuSample (K : Type) := Int × Axes K

structure ImuData (K : Type) where
  timestamp : K
  wm : Axes K
  am : Axes K

/-- What one `read` of a device returns. The clock is read again for each record. -/
inductive ReadResult where
  /-- `EINTR` or `EAGAIN`. -/
  | again
  | fails (reason : String)
  | bytes (data : List UInt8) (clock : Nat → Int)

structure DeviceEvents where
  disconnected : Bool := false
  input : Option ReadResult := none

inductive ImuPoll where
  /-- A timeout or an interrupted poll. -/
  | idle
  | fails (reason : String)
  | ready (accel gyro : DeviceEvents)

def signed : List UInt8 → Int
  | [] => 0
  | [byte] => byte.toInt8.toInt
  | byte :: rest => byte.toNat + 256 * signed rest

section Field
variable {K : Type} [Field K]

def ImuLowPass.off : ImuLowPass K := { b0 := 1, b1 := 0, b2 := 0, a1 := 0, a2 := 0 }

def ImuLowPassState.step (state : ImuLowPassState K) (filter : ImuLowPass K) (time : Int)
    (value : Axes K) : ImuLowPassState K × Axes K :=
  if filter.on = false then (state, value)
  else
    -- The first sample and a gap restart the filter at its steady state.
    let restarted : ImuLowPassState K :=
      if state.last = 0 ∨ time < state.last ∨ time - state.last > 50000000 then
        { state with s1 := (1 - filter.b0) • value, s2 := (filter.b2 - filter.a2) • value }
      else state
    let output := filter.b0 • value + restarted.s1
    ({ s1 := filter.b1 • value - filter.a1 • output + restarted.s2
       s2 := filter.b2 • value - filter.a2 • output
       last := time }, output)

namespace ImuDev
variable (device : ImuDev K)

def parse (record : List UInt8) : ImuSample K :=
  (signed ((record.drop device.timestampOffset).take 8),
    fun axis => (signed ((record.drop (device.axisOffsets axis)).take 2) : K) * device.scale)

/-- The samples of a buffer, one for each whole record. -/
def samples (buffer : List UInt8) : List (ImuSample K) :=
  (List.range (buffer.length / device.record)).map fun index =>
    device.parse ((buffer.drop (index * device.record)).take device.record)

end ImuDev

/-- One sensor's unpaired samples, filter state and last timestamp. -/
structure SensorQueue (K : Type) where
  queue : List (ImuSample K) := []
  filter : ImuLowPassState K
  last : Int := 0

structure ImuThread (K : Type) where
  accel : SensorQueue K
  gyro : SensorQueue K
  imuQueue : List (ImuData K) := []
  imuCount : Nat := 0
  pushed : List (ImuData K) := []

namespace SensorQueue

def empty : SensorQueue K := { filter := { s1 := 0, s2 := 0 } }

/-- The checks of one record, and its place at the end of the queue. -/
def receive (filter : ImuLowPass K) (now : Int) (sensor : SensorQueue K) (sample : ImuSample K) :
    Except String (SensorQueue K) :=
  if sample.1 ≤ sensor.last ∨ sample.1 > now + 10000000 then
    .error "invalid or non-increasing IMU timestamp"
  else
    let filtered := sensor.filter.step filter sample.1 sample.2
    if sensor.queue.length ≥ 1024 then .error "unpaired IMU queue overflow"
    else if sensor.queue.getLast?.any fun back => sample.1 - filter.delay ≤ back.1 then
      .error "non-increasing IMU timestamp"
    else
      .ok
        { queue := sensor.queue ++ [(sample.1 - filter.delay, filtered.2)]
          filter := filtered.1
          last := sample.1 }

/-- The loop over the records of one read, from the record `index` on. -/
def receiveAll (filter : ImuLowPass K) (clock : Nat → Int) (index : Nat) (sensor : SensorQueue K) :
    List (ImuSample K) → Except String (SensorQueue K)
  | [] => .ok sensor
  | sample :: rest =>
      match sensor.receive filter (clock index) sample with
      | .error message => .error message
      | .ok sensor => sensor.receiveAll filter clock (index + 1) rest

/-- The part of the loop body for one device. -/
def readDevice (filter : ImuLowPass K) (device : ImuDev K) (events : DeviceEvents)
    (sensor : SensorQueue K) : Except String (SensorQueue K) :=
  if events.disconnected then .error "IMU device disconnected"
  else
    match events.input with
    | none | some .again => .ok sensor
    | some (.fails reason) => .error ("imu read " ++ device.chardev ++ ": " ++ reason)
    | some (.bytes data clock) =>
        if data.length = 0 then .error "IMU stream ended"
        else if data.length % device.record ≠ 0 then
          .error ("IIO returned a partial record from " ++ device.chardev)
        else sensor.receiveAll filter clock 0 (device.samples data)

end SensorQueue

/-- Pop accelerometer samples while the second one is not after the time. -/
def seek : List (ImuSample K) → Int → List (ImuSample K)
  | left :: right :: rest, time =>
      if right.1 ≤ time then seek (right :: rest) time else left :: right :: rest
  | rest, _ => rest

/-- The accelerometer value at the time, from the front of the queue. -/
def accelAt : List (ImuSample K) → Int → Axes K
  | left :: right :: _, time =>
      if right.1 > left.1 then
        left.2 + (((time - left.1 : Int) : K) / ((right.1 - left.1 : Int) : K)) • (right.2 - left.2)
      else left.2
  | [left], _ => left.2
  | [], _ => 0

/-- One paired row; the timestamp is in seconds. -/
def imuData (time : Int) (gyro accel : Axes K) : ImuData K where
  timestamp := time * (1 / 1000000000)
  wm := gyro
  am := accel

namespace ImuThread

def start : ImuThread K := { accel := .empty, gyro := .empty }

def setAccel (thread : ImuThread K) (queue : List (ImuSample K)) : ImuThread K :=
  { thread with accel := { thread.accel with queue } }

def setGyro (thread : ImuThread K) (queue : List (ImuSample K)) : ImuThread K :=
  { thread with gyro := { thread.gyro with queue } }

/-- The push under the lock. The consumer may have emptied the queue since the push before. -/
def push (emptied : Nat → Bool) (thread : ImuThread K) (data : ImuData K) :
    Except String (ImuThread K) :=
  let queue := if emptied thread.imuCount then [] else thread.imuQueue
  if queue.length ≥ 1024 then .error "IMU queue overflow; estimator cannot keep up"
  else
    .ok
      { thread with
        imuQueue := queue ++ [data]
        imuCount := thread.imuCount + 1
        pushed := thread.pushed ++ [data] }

/-- The pairing loop, which pops the given gyroscope samples. -/
def pair (emptied : Nat → Bool) (thread : ImuThread K) :
    List (ImuSample K) → Except String (ImuThread K)
  | [] => .ok (thread.setGyro [])
  | sample :: rest =>
      if thread.accel.queue.getLast?.any fun back => sample.1 ≤ back.1 then
        -- A sample before the first accelerometer sample is dropped.
        if thread.accel.queue.head?.any fun front => sample.1 < front.1 then
          thread.pair emptied rest
        else
          let queue := seek thread.accel.queue sample.1
          match (thread.setAccel queue).push emptied
              (imuData sample.1 sample.2 (accelAt queue sample.1)) with
          | .error message => .error message
          | .ok thread => thread.pair emptied rest
      else .ok (thread.setGyro (sample :: rest))

def step (filter : ImuLowPass K) (accel gyro : ImuDev K) (emptied : Nat → Bool)
    (thread : ImuThread K) : ImuPoll → Except String (ImuThread K)
  | .idle => .ok thread
  | .fails reason => .error ("imu poll: " ++ reason)
  | .ready accelEvents gyroEvents =>
      match thread.accel.readDevice filter accel accelEvents with
      | .error message => .error message
      | .ok accelQueue =>
          match thread.gyro.readDevice filter gyro gyroEvents with
          | .error message => .error message
          | .ok gyroQueue =>
              { thread with accel := accelQueue, gyro := gyroQueue }.pair emptied gyroQueue.queue

def run (filter : ImuLowPass K) (accel gyro : ImuDev K) (emptied : Nat → Bool)
    (polls : List ImuPoll) : Except String (ImuThread K) :=
  polls.foldlM (step filter accel gyro emptied) start

end ImuThread
end Field
end Vio
