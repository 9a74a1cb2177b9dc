/-
This file holds the camera source over libcamera: its start, and the callback of a completed request.
libcamera runs one callback at a time. A callback is one transition up to the push of its frame, and a
second one gives the request back; the reader and the owner act before, between and after them. The
counters are unsigned numbers of 32 bits, and wrap. The field `history` is not in the source: it records
what happened to the queue and its callbacks since the start, newest first, and no modelled function
reads it.
-/

import Mathlib.Algebra.Order.Group.Unbundled.Abs
import Mathlib.Algebra.Order.Group.Unbundled.Int
import Vio.Construction.CameraCapture
import Vio.Construction.CameraQueue
import Vio.Construction.SensorRunner

namespace Vio
open CameraCapture

/-- Both clocks, the monotonic one before and after the other. -/
structure ClockSample where
  before : Int
  boot : Int
  after : Int
  deriving DecidableEq, Repr

/-- The loop over the attempts to read both clocks closely. -/
def sampleOffset : Nat → List (Except Thrown ClockSample) → Except Thrown Int
  | attempts + 1, sample :: rest =>
      match sample with
      | .error thrown => .error thrown
      | .ok sample =>
          if sample.after - sample.before < 100000 then
            .ok (max 0 (sample.boot - (sample.before + (sample.after - sample.before).tdiv 2)))
          else sampleOffset attempts rest
  | _, _ => .error (.runtimeError "could not sample camera clock offset within 100 us")

def clockOffset (samples : List (Except Thrown ClockSample)) : Except Thrown Int :=
  sampleOffset 10 samples

/-- A completed request, with what its callback reads from libcamera and the clocks. -/
structure Request (K : Type) where
  cancelled : Bool := false
  /-- The frame succeeded and has one plane. -/
  whole : Bool := true
  timestamp : Option Int
  shutter : Option Int
  gain : Option K
  duration : Option Int
  clocks : List (Except Thrown ClockSample)
  now : Except Thrown Int
  data : Nat → UInt8
  bytesUsed : Nat
  mapped : Nat
  syncStart : Except Thrown Unit := .ok ()
  syncEnd : Except Thrown Unit := .ok ()
  sequence : Nat

inductive SourceEvent (K : Type) where
  /-- A callback without an exception, and the frame that it pushed. -/
  | callback (request : Request K) (frame : Option (CameraCapture.CameraFrame K))
  | fault (thrown : Thrown)
  | read
  | closed

structure LibcameraSource (K : Type) where
  frames : CameraQueue (CameraCapture.CameraFrame K) Thrown := {}
  stopping : Bool := true
  running : Bool := false
  highByte : Bool := false
  stride : Nat := 0
  received : UInt32 := 0
  settled : UInt32 := 0
  offset : Int := 0
  previous : Int := 0
  durationUs : Int := 0
  exposure : Option (Exposure K) := none
  /-- A callback has not given its request back yet. -/
  requeueing : Bool := false
  history : List (SourceEvent K) := []

/-- What libcamera and the clocks answer during a start. -/
structure StartAnswers where
  stopped : Except Thrown Unit := .ok ()
  configured : Except Thrown (Nat × Bool)
  controls : Except Thrown Unit := .ok ()
  clocks : List (Except Thrown ClockSample)
  started : Except Thrown Unit := .ok ()
  queued : Except Thrown Unit := .ok ()
  cleanup : Except Thrown Unit := .ok ()

namespace LibcameraSource
variable {K : Type}

def close (source : LibcameraSource K) : LibcameraSource K :=
  { source with
    running := false
    frames := source.frames.close
    history := .closed :: source.history }

/-- The stop of the stream, if it runs, with the answer of libcamera. -/
def stop (source : LibcameraSource K) (answer : Except Thrown Unit) :
    LibcameraSource K × Except Thrown Unit :=
  ({ source with stopping := true }.close, if source.running then answer else .ok ())

def read (source : LibcameraSource K) :
    ReadOutcome (CameraCapture.CameraFrame K) Thrown × LibcameraSource K :=
  (source.frames.read.1,
    { source with frames := source.frames.read.2, history := .read :: source.history })

section Exact
variable [Field K] [LinearOrder K]

def allowsExposure (duration : Int) (exposure : Exposure K) : Bool :=
  !(exposure.shutter = 0 || exposure.shutter > duration || exposure.gain < 1 ||
    exposure.gain > ((16 : Int) : K))

/-- The readback agrees with the requested exposure. -/
def matchesExposure (requested : Option (Exposure K)) (shutter : Int) (gain : K) : Bool :=
  requested.all fun exposure =>
    |(shutter : K) - exposure.shutter| ≤
        max ((20 : Int) : K) (exposure.shutter * (((5 : Int) : K) / (100 : Int))) &&
      |gain - exposure.gain| ≤ exposure.gain * (((5 : Int) : K) / (100 : Int))

/-- The monotonic time, the shutter and the gain of a request. -/
def readMetadata (source : LibcameraSource K) (request : Request K) :
    Except Thrown (Int × Int × K) :=
  if request.whole = false then .error (.runtimeError "camera delivered an incomplete frame")
  else
    match request.timestamp, request.shutter, request.gain with
    | some timestamp, some shutter, some gain =>
        if shutter ≤ 0 ∨ gain ≤ 0 then
          .error (.runtimeError "camera metadata missing timestamp/exposure")
        else
          match clockOffset request.clocks with
          | .error thrown => .error thrown
          | .ok offset =>
              -- A suspend moves the offset.
              if |offset - source.offset| > 1000000 then
                .error (.runtimeError "camera clock offset changed during capture")
              else
                match request.now with
                | .error thrown => .error thrown
                | .ok now =>
                    match cameraTimestamp timestamp source.offset now source.previous with
                    | .error thrown => .error thrown
                    | .ok mono => .ok (mono, shutter, gain)
    | _, _, _ => .error (.runtimeError "camera metadata missing timestamp/exposure")

/-- A copy does not read outside its buffer, so that each of its faults is an exception. -/
def copyThrown : CopyFault → Thrown
  | .thrown what => what
  | .outside _ => .logicError "outside"

/-- The pixels of a request, between the two synchronizations of its buffer. -/
def copyPixels (source : LibcameraSource K) (request : Request K) : Except Thrown (List UInt8) :=
  if request.bytesUsed > request.mapped then
    .error (.runtimeError "camera bytesused exceeds mapping")
  else
    match request.syncStart with
    | .error thrown => .error thrown
    | .ok () =>
        match copyMonoFrame (some request.data) request.bytesUsed source.stride source.highByte,
          request.syncEnd with
        | _, .error thrown => .error thrown
        | .error fault, .ok () => .error (copyThrown fault)
        | .ok pixels, .ok () => .ok pixels

def count (source : LibcameraSource K) (mono shutter : Int) (gain : K) : LibcameraSource K :=
  { source with
    previous := mono
    received := source.received + 1
    settled := if matchesExposure source.exposure shutter gain then source.settled + 1 else 0 }

/-- The frame of a counted request, if the exposure has settled. -/
def frameOf (source : LibcameraSource K) (request : Request K) (mono shutter : Int) (gain : K) :
    Except Thrown (Option (CameraCapture.CameraFrame K)) :=
  if source.received ≥ 60 ∧ source.settled < 3 then
    .error (.runtimeError "camera did not apply requested exposure")
  else if source.received > 10 ∧ source.settled ≥ 3 then
    if request.duration.all fun duration =>
        |duration - source.durationUs| > max 100 (source.durationUs.tdiv 20) then
      .error (.runtimeError "camera did not apply requested frame duration")
    else
      match source.copyPixels request with
      | .error thrown => .error thrown
      | .ok pixels =>
          .ok (some
            { pixels, timestampNs := mono, sequence := request.sequence,
              exposure := ⟨shutter.toNat, gain⟩ })
  else .ok none

def fail (source : LibcameraSource K) (thrown : Thrown) : LibcameraSource K :=
  { source with frames := source.frames.fail thrown, history := .fault thrown :: source.history }

def fault (source : LibcameraSource K) (thrown : Thrown) : LibcameraSource K :=
  if source.stopping then source else source.fail thrown

/-- The callback of a completed request, up to the push. The owner may begin to stop the source
meanwhile. -/
def completed (source : LibcameraSource K) (request : Request K) (stops : Bool) :
    LibcameraSource K :=
  if source.stopping ∨ request.cancelled then { source with stopping := source.stopping || stops }
  else
    let source := { source with stopping := stops }
    match source.readMetadata request with
    | .error thrown => source.fault thrown
    | .ok (mono, shutter, gain) =>
        let source := source.count mono shutter gain
        match source.frameOf request mono shutter gain with
        | .error thrown => source.fault thrown
        | .ok frame =>
            { source with
              frames := (frame.map source.frames.push).getD source.frames
              requeueing := true
              history := .callback request frame :: source.history }

end Exact

/-- The callback gives its request back, with the answer of libcamera. -/
def requeue (source : LibcameraSource K) (answer : Except Thrown Unit) : LibcameraSource K :=
  let source := { source with requeueing := false }
  if source.stopping then source
  else
    match answer with
    | .ok () => source
    | .error thrown => source.fault thrown

def disconnected (source : LibcameraSource K) : LibcameraSource K :=
  source.fail (.runtimeError "camera disconnected")

section Start
variable [Field K] [LinearOrder K] [FloorRing K]

def frameDuration (fps : K) : Int := SensorRunner.llround (((1000000 : Int) : K) / fps)

/-- The `try` block of the start. -/
def launch (source : LibcameraSource K) (fps : K) (exposure : Option (Exposure K))
    (answers : StartAnswers) : LibcameraSource K × Except Thrown Unit :=
  match answers.configured with
  | .error thrown => (source, .error thrown)
  | .ok (stride, highByte) =>
      let source := { source with stride, highByte }
      if fps ≤ 0 ∨ fps > ((120 : Int) : K) then
        (source, .error (.runtimeError "invalid camera frame rate"))
      else
        match answers.controls with
        | .error thrown => (source, .error thrown)
        | .ok () =>
            if exposure.any fun exposure => !allowsExposure (frameDuration fps) exposure then
              (source,
                .error (.runtimeError "fixed exposure exceeds frame duration or gain limits"))
            else
              match clockOffset answers.clocks with
              | .error thrown => (source, .error thrown)
              | .ok offset =>
                  let source :=
                    { source with
                      durationUs := frameDuration fps
                      offset
                      previous := 0
                      received := 0
                      settled := 0
                      exposure
                      frames := source.frames.reset
                      stopping := false
                      history := [] }
                  match answers.started with
                  | .error thrown => (source, .error thrown)
                  | .ok () => ({ source with running := true }, answers.queued)

/-- A fresh stream. A failed start stops what it began. -/
def start (source : LibcameraSource K) (fps : K) (exposure : Option (Exposure K))
    (answers : StartAnswers) : LibcameraSource K × Except Thrown Unit :=
  match source.stop answers.stopped with
  | (source, .error thrown) => (source, .error thrown)
  | (source, .ok ()) =>
      match source.launch fps exposure answers with
      | (source, .ok ()) => (source, .ok ())
      | (source, .error thrown) =>
          match source.stop answers.cleanup with
          | (source, .error other) => (source, .error other)
          | (source, .ok ()) => (source, .error thrown)

end Start
end LibcameraSource

/-- What happens between two starts. -/
inductive SourceAction (K : Type) where
  | completed (request : Request K) (stops : Bool)
  | requeue (answer : Except Thrown Unit)
  | disconnected
  | read
  /-- The owner begins to stop the source. -/
  | stopping
  /-- The stream has stopped, and the queue is closed. -/
  | stopped

namespace LibcameraSource
variable {K : Type} [Field K] [LinearOrder K]

def step (source : LibcameraSource K) : SourceAction K → Option (LibcameraSource K)
  | .completed request stops =>
      if source.requeueing then none else some (source.completed request stops)
  | .requeue answer => if source.requeueing then some (source.requeue answer) else none
  | .disconnected => some source.disconnected
  | .read => some source.read.2
  | .stopping => some { source with stopping := true }
  | .stopped =>
      if source.stopping ∧ source.requeueing = false then some source.close else none

def run (source : LibcameraSource K) (actions : List (SourceAction K)) :
    Option (LibcameraSource K) :=
  actions.foldlM step source

end LibcameraSource
end Vio
