/-
This file holds the camera thread and the update thread of a native capture with sensor recording.
Both hand records to one recorder. The field `frames` is not in the source: it lists the frames that
the camera thread counted, oldest first, and no modelled function reads it.
-/

import Vio.Library.Decimal
import Vio.Construction.FileSink

namespace Vio

/-- `camera_timestamp` lets positive timestamps pass only. -/
structure CameraFrame where
  pixels : List UInt8
  timestamp_ns : Nat
  sequence : Nat
  deriving DecidableEq, Repr

structure CapturedFrame where
  timestamp_ns : Nat
  frame_index : Nat
  deriving DecidableEq, Repr

/-- A coordinate as the stream prints it: digits, a point, a sign, or the letters of a value that is
not finite. -/
structure Coordinate where
  text : List UInt8
  printed : text.all (fun byte => byte ∈ ascii "0123456789.-naif") = true

structure FeaturePoint where
  id : Nat
  x : Coordinate
  y : Coordinate

structure FeatureFrame where
  timestamp_ns : Nat
  frame_index : Nat
  width : Nat
  height : Nat
  initialized : Bool
  points : List FeaturePoint

/-- One point of a record, after a comma unless it is the first. -/
def featurePoint (first : Bool) (point : FeaturePoint) : List UInt8 :=
  (if first then [] else ascii ",") ++ ascii "[" ++ Decimal.print point.id ++ ascii "," ++
    point.x.text ++ ascii "," ++ point.y.text ++ ascii "]"

def featurePoints : Bool → List FeaturePoint → List UInt8
  | _, [] => []
  | first, point :: rest => featurePoint first point ++ featurePoints false rest

def featureRecord (frame : FeatureFrame) : List UInt8 :=
  ascii "\x7b\"type\":\"frame\",\"timestamp_ns\":" ++ Decimal.print frame.timestamp_ns ++
    ascii ",\"frame_index\":" ++ Decimal.print frame.frame_index ++
    ascii ",\"camera_id\":0,\"width\":" ++ Decimal.print frame.width ++
    ascii ",\"height\":" ++ Decimal.print frame.height ++
    ascii ",\"initialized\":" ++ ascii (if frame.initialized then "true" else "false") ++
    ascii ",\"features\":[" ++ featurePoints true frame.points ++ ascii "]\x7d\n"

def featuresHeader : List UInt8 :=
  ascii "\x7b\"type\":\"header\",\"version\":1,\"source\":\"live_tracker\"," ++
    ascii "\"coordinates\":\"raw_pixels\",\"frame_index_base\":0," ++
    ascii "\"openvins_revision\":\"69488123ed9362dd44b6f28e7f4680abbff1442b\"\x7d\n"

def featuresFooter : List UInt8 := ascii "\x7b\"type\":\"end\"\x7d\n"

/-- The files of a capture with sensor recording; the estimates follow where they are recorded. -/
def captureFiles (filePrefix : String) (estimateLog : Option String) : List RecordingFile :=
  [⟨filePrefix ++ ".imu_accel.bin", [], []⟩,
    ⟨filePrefix ++ ".imu_gyro.bin", [], []⟩,
    ⟨filePrefix ++ ".y16", [], []⟩,
    ⟨filePrefix ++ ".meta.json", ascii "[\n", ascii "\n]\n"⟩,
    ⟨filePrefix ++ ".features.jsonl", featuresHeader, featuresFooter⟩] ++
    (estimateLog.map fun path =>
      (⟨path, ascii "# timestamp(s) q(JPL xyzw) p v bg ba\n", []⟩ : RecordingFile)).toList

/-- The 16-bit pixels of the replay layout. -/
def rawPixels (pixels : List UInt8) : List UInt8 := pixels.flatMap fun pixel => [0, pixel]

/-- The metadata of the frame that the camera thread counted as `idx`. -/
def frameMetadata (idx : Nat) (frame : CameraFrame) : List UInt8 :=
  (if idx = 1 then [] else ascii ",\n") ++ ascii "\x7b\"SensorTimestamp\":" ++
    Decimal.print frame.timestamp_ns ++ ascii ",\"Sequence\":" ++ Decimal.print frame.sequence ++
    ascii "\x7d"

/-- Raw pixels and metadata enter the queue together. -/
def cameraRecord (idx : Nat) (frame : CameraFrame) : RecordingRecord :=
  ⟨.camera, [⟨2, rawPixels frame.pixels⟩, recordingText 3 (frameMetadata idx frame)]⟩

def featuresRecord (frame : FeatureFrame) : RecordingRecord :=
  ⟨.features, [recordingText 4 (featureRecord frame)]⟩

inductive CameraStage where
  | waiting
  | checking (frame : CameraFrame)
  /-- `active` read no failure. -/
  | healthy (frame : CameraFrame)
  /-- `active` returned true. -/
  | recording (frame : CameraFrame)
  /-- Inside `submit`. -/
  | submitting (frame : CameraFrame)
  | handing (frame : CameraFrame)
  | died
  deriving DecidableEq, Repr

inductive UpdateStage where
  | waiting
  /-- The estimator has seen the frame. -/
  | fed (captured : CapturedFrame)
  | healthy (captured : CapturedFrame)
  | recording (captured : CapturedFrame)
  | submitting (captured : CapturedFrame)
  deriving DecidableEq, Repr

structure NativeCapture where
  recording : Recording fileSink
  width : Nat
  height : Nat
  maxQueue : Nat
  idx : Nat := 0
  camera : CameraStage := .waiting
  camQueue : List CapturedFrame := []
  update : UpdateStage := .waiting
  frames : List CameraFrame := []

inductive CaptureAction where
  /-- `read` of the camera source returned a frame. -/
  | read (frame : CameraFrame)
  | camera
  /-- The estimator has inertial samples beyond the oldest frame. -/
  | take
  /-- The snapshot is used where the update thread submits one. -/
  | update (initialized : Bool) (points : List FeaturePoint)
  /-- A transition of the recorder, or of a thread that submits to another stream. -/
  | recorder (action : RecordingAction fileSink)

namespace NativeCapture

/-- Drop the oldest frames rather than lag without limit. -/
def dropOldest (maxQueue : Nat) : List CapturedFrame → List CapturedFrame
  | [] => []
  | captured :: rest =>
      if (captured :: rest).length ≥ maxQueue then dropOldest maxQueue rest else captured :: rest

def enqueueFrame (capture : NativeCapture) (timestamp_ns idx : Nat) : NativeCapture :=
  { capture with
    camQueue := dropOldest capture.maxQueue capture.camQueue ++ [⟨timestamp_ns, idx - 1⟩] }

def read (capture : NativeCapture) (frame : CameraFrame) : Option NativeCapture :=
  if capture.camera = .waiting then
    if frame.pixels.length ≠ capture.width * capture.height then
      some { capture with camera := .died }
    else
      some
        { capture with
          idx := capture.idx + 1
          camera := .checking frame
          frames := capture.frames ++ [frame] }
  else none

/-- The next access of the camera thread. -/
def cameraThread (capture : NativeCapture) : Option NativeCapture :=
  match capture.camera with
  | .waiting | .died => none
  | .checking frame =>
      if capture.recording.status.failure = .none then some { capture with camera := .healthy frame }
      else some { capture with camera := .handing frame }
  | .healthy frame =>
      if capture.recording.status.finished then some { capture with camera := .handing frame }
      else some { capture with camera := .recording frame }
  | .recording frame =>
      (capture.recording.submit (cameraRecord capture.idx frame)).map fun recording =>
        { capture with recording, camera := .submitting frame }
  | .submitting frame =>
      if (capture.recording.submits .camera).isNone then
        some { capture with camera := .handing frame }
      else none
  | .handing frame =>
      some { capture.enqueueFrame frame.timestamp_ns capture.idx with camera := .waiting }

def take (capture : NativeCapture) : Option NativeCapture :=
  if capture.update = .waiting then
    match capture.camQueue with
    | [] => none
    | captured :: rest =>
        some { capture with camQueue := rest, update := .fed captured }
  else none

/-- The next access of the update thread after it took a frame. -/
def updateThread (capture : NativeCapture) (initialized : Bool) (points : List FeaturePoint) :
    Option NativeCapture :=
  match capture.update with
  | .waiting => none
  | .fed captured =>
      if capture.recording.status.failure = .none then
        some { capture with update := .healthy captured }
      else some { capture with update := .waiting }
  | .healthy captured =>
      if capture.recording.status.finished then some { capture with update := .waiting }
      else some { capture with update := .recording captured }
  | .recording captured =>
      let record := featuresRecord
        { timestamp_ns := captured.timestamp_ns
          frame_index := captured.frame_index
          width := capture.width
          height := capture.height
          initialized
          points }
      (capture.recording.submit record).map fun recording =>
        { capture with recording, update := .submitting captured }
  | .submitting _ =>
      if (capture.recording.submits .features).isNone then
        some { capture with update := .waiting }
      else none

/-- The records of the other producers go to other streams and other files. -/
def Foreign (record : RecordingRecord) : Prop :=
  record.stream ≠ .camera ∧ record.stream ≠ .features ∧
    ∀ chunk ∈ record.chunks, chunk.file ≠ 2 ∧ chunk.file ≠ 3 ∧ chunk.file ≠ 4

instance (record : RecordingRecord) : Decidable (Foreign record) :=
  inferInstanceAs (Decidable (_ ∧ _ ∧ _))

/-- A transition of the recorder, where a submission comes from another producer. -/
def recorder (capture : NativeCapture) (action : RecordingAction fileSink) : Option NativeCapture :=
  match action with
  | .submit record =>
      if Foreign record then
        (capture.recording.submit record).map fun recording => { capture with recording }
      else none
  | action => (capture.recording.next action).map fun recording => { capture with recording }

def next (capture : NativeCapture) : CaptureAction → Option NativeCapture
  | .read frame => capture.read frame
  | .camera => capture.cameraThread
  | .take => capture.take
  | .update initialized points => capture.updateThread initialized points
  | .recorder action => capture.recorder action

/-- An interleaving of the threads; a transition that is not enabled does not occur. -/
def run (capture : NativeCapture) (actions : List CaptureAction) : Option NativeCapture :=
  actions.foldlM next capture

end NativeCapture

end Vio
