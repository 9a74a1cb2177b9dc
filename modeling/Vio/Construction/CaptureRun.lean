/-
This file holds one capture of the estimator: the checks of `run` on its options, the descriptors, the
worker threads with their shared stop flag, the watch on the IMU, and what happens on the way out. A
transition of `run` is one access to shared data or one outside call; between them the bodies of the
threads do what they like with the recording, as far as `run` can see. The fields `released` and
`stored` are not in the source: they record the closed descriptors and the errors that came to the lock
of `Workers`, oldest first, and no modelled function reads them.
-/

import Vio.Construction.CaptureSetup
import Vio.Construction.FlightConfigFile
import Vio.Construction.NativeCapture

namespace Vio

/-- The bodies that `run` launches. -/
inductive CaptureThread where
  | imu
  | update
  | camera
  | metadata
  | frames
  deriving DecidableEq, Repr

def CaptureThread.streams : CaptureThread → List RecordingStream
  | .imu => [.accel, .gyro]
  | .update => [.estimate, .features]
  | .camera | .frames => [.camera]
  | .metadata => []

inductive ThreadStage where
  | running
  /-- The handler, before its lock. -/
  | catching (thrown : Thrown)
  /-- The error is stored, and the flag is not set. -/
  | raising
  | ended
  deriving DecidableEq, Repr

structure WorkerThread where
  body : CaptureThread
  stage : ThreadStage := .running
  deriving DecidableEq, Repr

/-- Where `run` stands. The second half is what its local objects do when they are destroyed. -/
inductive RunStage where
  | opening (left : List String)
  | recording
  | fifos (left : List String)
  | launching (left : List CaptureThread)
  | starting
  /-- The condition of the loop. -/
  | watching (start : Int)
  /-- After the sleep, before the lock. -/
  | waking (start : Int)
  | timing (start : Int)
  | missing (start : Int)
  | aging (start : Int)
  | stopping
  | joining
  | closing (called : Bool)
  | concluding
  | destroying
  | rejoining
  | discarding (called : Bool)
  | releasing (left : List Nat)
  | left
  deriving DecidableEq, Repr

inductive RunAction where
  /-- `open`, with the descriptor or the reason. -/
  | openFile (result : Except String Nat)
  | record (writerBusy threads : Bool)
  | launch (started : Bool)
  | clock (now : Int)
  /-- The next step of `run` without an input. -/
  | proceed
  | recorder (action : RecordingAction fileSink)
  /-- The update thread fed a sample. -/
  | fedImu (time : Int)
  /-- The frame thread came to the end of its FIFO. -/
  | framesDone
  | returns (body : CaptureThread)
  | throws (body : CaptureThread) (thrown : Thrown)
  | store (body : CaptureThread)
  | raise (body : CaptureThread)
  /-- The owner of the flag sets it. -/
  | requestStop

/-- The options that `run_capture` makes of a loaded configuration and the devices. -/
def nativeOptions {K : Type} (config : FlightConfigFile.FlightConfig K) (recording : PreparedRecording)
    (generation : SessionGeneration) (first : ImuDevice K) (others : List (ImuDevice K)) :
    RunnerOptions K :=
  captureOptions config.fps config.imuLpf recording generation first others

/-- The options of a capture without a camera name the two FIFOs. -/
structure CaptureInputs (K : Type) where
  options : RunnerOptions K
  fifos : Option (String × String) := none

namespace CaptureInputs

section Checks
variable {K : Type} [Field K] [LinearOrder K]

/-- The checks before anything is acquired. Every number is finite here. -/
def validate (inputs : CaptureInputs K) : Except Thrown (List (ImuDev K)) :=
  let options := inputs.options
  if 0 < options.imuLpfHz ∧ 45 / 100 * options.imuRateHz ≤ options.imuLpfHz then
    .error (.runtimeError "IMU filter cutoff too high")
  else if options.cameraFps ≤ 0 then .error (.runtimeError "invalid camera frame rate")
  else if options.maxCameraQueue = 0 ∨ options.maxCameraQueue > 100 then
    .error (.runtimeError "camera queue must hold 1..100 frames")
  else
    match options.devices with
    | [first, second] =>
        if first.kind = second.kind then
          .error (.runtimeError "capture requires one accelerometer and one gyroscope")
        else
          match acceptDevice first, acceptDevice second with
          | .ok first, .ok second => .ok [first, second]
          | .error reason, _ | .ok _, .error reason => .error (.runtimeError reason)
    | _ => .error (.runtimeError "capture requires one accelerometer and one gyroscope")

end Checks
variable {K : Type} (inputs : CaptureInputs K)

/-- The files of the recording, where there is one. -/
def outputs : Option (List RecordingFile) :=
  match inputs.options.recordingPrefix, inputs.options.estimateLog with
  | some filePrefix, log => some (captureFiles filePrefix log)
  | none, some log => some [⟨log, ascii "# timestamp(s) q(JPL xyzw) p v bg ba\n", []⟩]
  | none, none => none

/-- The threads in the order in which they are launched. -/
def threads : List CaptureThread :=
  if inputs.fifos.isNone then [.imu, .update, .camera] else [.imu, .update, .metadata, .frames]

def devicePaths : List String := inputs.options.devices.map ImuDevice.chardev

def fifoPaths : List String :=
  match inputs.fifos with
  | none => []
  | some (frames, metadata) => [metadata, frames]

end CaptureInputs

structure CaptureRun where
  outputs : Option (List RecordingFile)
  fifoPaths : List String
  plan : List CaptureThread
  stage : RunStage
  stop : Bool
  framesDone : Bool := false
  lastImuNs : Int := 0
  /-- `CaptureFiles::descriptors`. -/
  descriptors : List Nat := []
  /-- `Workers::threads`, with what became of each. -/
  threads : List WorkerThread := []
  /-- The threads that are not joined. -/
  joinable : List CaptureThread := []
  /-- `Workers::error`. -/
  error : Option Thrown := none
  recording : Option (Recording fileSink) := none
  imuStalled : Bool := false
  /-- The exception that leaves `run`. -/
  outcome : Option Thrown := none
  released : List Nat := []
  stored : List Thrown := []

namespace CaptureRun

/-- The limits that the constructor of the recording has as defaults. -/
def byteLimit : Nat := 33554432

def recordLimit : Nat := 1024

def openRecording (files : List RecordingFile) (writerBusy threads : Bool) :
    Except Thrown (Recording fileSink) :=
  (@Recording.create fileSink (some (recordingFiles files)) (some {}) byteLimit recordLimit writerBusy
    threads).1

/-- The run after its checks; the flag may be set already. -/
def start {K : Type} (inputs : CaptureInputs K) (stop : Bool) : CaptureRun where
  outputs := inputs.outputs
  fifoPaths := inputs.fifoPaths
  plan := inputs.threads
  stage := .opening inputs.devicePaths
  stop

def enter {K : Type} [Field K] [LinearOrder K] (inputs : CaptureInputs K) (stop : Bool) :
    Except Thrown CaptureRun :=
  match inputs.validate with
  | .error thrown => .error thrown
  | .ok _ => .ok (start inputs stop)

variable (run : CaptureRun)

/-- An exception before the threads have an owner. -/
def abandon (thrown : Thrown) : CaptureRun :=
  { run with
    outcome := some thrown
    stage := if run.recording.isSome then .discarding false else .releasing run.descriptors }

/-- `CaptureFiles::input`. -/
def openFile (result : Except String Nat) : Option CaptureRun :=
  match run.stage, result with
  | .opening (path :: _), .error reason | .fifos (path :: _), .error reason =>
      some (run.abandon (.runtimeError ("cannot open " ++ path ++ ": " ++ reason)))
  | .opening (_ :: paths), .ok fd =>
      some { run with descriptors := run.descriptors ++ [fd], stage := .opening paths }
  | .fifos (_ :: paths), .ok fd =>
      some { run with descriptors := run.descriptors ++ [fd], stage := .fifos paths }
  | _, _ => none

/-- The constructor of the recording. -/
def record (writerBusy threads : Bool) : Option CaptureRun :=
  match run.stage, run.outputs with
  | .recording, some files =>
      match openRecording files writerBusy threads with
      | .error thrown => some (run.abandon thrown)
      | .ok recording => some { run with recording := some recording, stage := .fifos run.fifoPaths }
  | _, _ => none

/-- `Workers::launch`. -/
def launch (started : Bool) : Option CaptureRun :=
  match run.stage with
  | .launching (body :: left) =>
      if started then
        some
          { run with
            threads := run.threads ++ [{ body }]
            joinable := run.joinable ++ [body]
            stage := .launching left }
      else some { run with outcome := some (.runtimeError "thread"), stage := .destroying }
  | _ => none

def clock (now : Int) : Option CaptureRun :=
  match run.stage with
  | .starting => some { run with stage := .watching now }
  | .timing start =>
      some { run with stage := if now - start > 3000000000 then .missing start else .watching start }
  | .aging start =>
      if now - run.lastImuNs > 2000000000 then
        some { run with imuStalled := true, stop := true, stage := .stopping }
      else some { run with stage := .watching start }
  | _ => none

/-- `Workers::join`, which waits for the threads in order. -/
def join (after : RunStage) : Option CaptureRun :=
  match run.joinable with
  | [] => some { run with stage := after }
  | body :: left =>
      if ∃ thread ∈ run.threads, thread.body = body ∧ thread.stage = .ended then
        some { run with joinable := left }
      else none

/-- A call of `Recording::close`, made or answered. -/
def close (called : Bool) (waiting after : RunStage) : Option CaptureRun :=
  match run.recording with
  | none => some { run with stage := after }
  | some recording =>
      if called then
        if recording.owner = .idle then some { run with stage := after } else none
      else
        recording.close.map fun recording =>
          { run with recording := some recording, stage := waiting }

/-- The next step of `run` without an input. -/
def proceed : Option CaptureRun :=
  match run.stage with
  | .opening [] => some { run with stage := .recording }
  | .recording =>
      if run.outputs.isNone then some { run with stage := .fifos run.fifoPaths } else none
  | .fifos [] => some { run with stage := .launching run.plan }
  | .launching [] => some { run with stage := .starting }
  | .watching start => some { run with stage := if run.stop then .stopping else .waking start }
  | .waking start => some { run with stage := if run.framesDone then .stopping else .timing start }
  | .missing start =>
      if run.lastImuNs = 0 then
        some { run with imuStalled := true, stop := true, stage := .stopping }
      else some { run with stage := .aging start }
  | .stopping => some { run with stop := true, stage := .joining }
  | .joining => run.join (.closing false)
  | .closing called => run.close called (.closing true) .concluding
  | .concluding =>
      some
        { run with
          outcome :=
            match run.error with
            | some thrown => some thrown
            | none =>
                if run.imuStalled then some (.runtimeError "IMU samples stopped advancing") else none
          stage := .destroying }
  | .destroying => some { run with stop := true, stage := .rejoining }
  | .rejoining => run.join (.discarding false)
  | .discarding called => run.close called (.discarding true) (.releasing run.descriptors)
  | .releasing (fd :: fds) =>
      some { run with released := run.released ++ [fd], stage := .releasing fds }
  | .releasing [] => some { run with stage := .left }
  | .opening _ | .fifos _ | .launching _ | .starting | .timing _ | .aging _ | .left => none

def stands (body : CaptureThread) (stage : ThreadStage) : Prop :=
  ⟨body, stage⟩ ∈ run.threads

instance (body : CaptureThread) (stage : ThreadStage) : Decidable (run.stands body stage) :=
  inferInstanceAs (Decidable (_ ∈ _))

def move (body : CaptureThread) (stage : ThreadStage) : CaptureRun :=
  { run with
    threads := run.threads.map fun thread =>
      if thread.body = body then { thread with stage } else thread }

/-- The body is inside no call of `submit`. -/
def idle (body : CaptureThread) : Prop :=
  ∀ recording ∈ run.recording, ∀ stream ∈ body.streams, recording.submits stream = none

instance (body : CaptureThread) : Decidable (run.idle body) :=
  match found : run.recording with
  | none => isTrue fun _ member => by rw [found] at member; cases member
  | some recording =>
      decidable_of_iff (∀ stream ∈ body.streams, recording.submits stream = none)
        ⟨fun all other member => by rw [found] at member; cases member; exact all,
          fun all => all recording (by rw [found]; rfl)⟩

/-- A thread that submits to this stream runs. -/
def submits (stream : RecordingStream) : Prop :=
  ∃ thread ∈ run.threads, thread.stage = .running ∧ stream ∈ thread.body.streams

instance (stream : RecordingStream) : Decidable (run.submits stream) :=
  inferInstanceAs (Decidable (∃ thread ∈ run.threads, _))

/-- The action of the recording is one of its own thread, of a running body, or of a call of `close`. -/
def allows : RecordingAction fileSink → Prop
  | .submit record => run.submits record.stream
  | .advance stream => run.submits stream
  | .close => False
  | .work | .write _ | .finish _ | .timeout | .proceed => True

instance (action : RecordingAction fileSink) : Decidable (run.allows action) :=
  match action with
  | .submit record => inferInstanceAs (Decidable (run.submits record.stream))
  | .advance stream => inferInstanceAs (Decidable (run.submits stream))
  | .close => .isFalse id
  | .work | .write _ | .finish _ | .timeout | .proceed => .isTrue trivial

def step : RunAction → Option CaptureRun
  | .openFile result => run.openFile result
  | .record writerBusy threads => run.record writerBusy threads
  | .launch started => run.launch started
  | .clock now => run.clock now
  | .proceed => run.proceed
  | .recorder action =>
      match run.recording with
      | none => none
      | some recording =>
          if run.allows action then
            (recording.next action).map fun recording => { run with recording := some recording }
          else none
  | .fedImu time => if run.stands .update .running then some { run with lastImuNs := time } else none
  | .framesDone =>
      if run.stands .frames .running then some { run with framesDone := true } else none
  | .returns body =>
      if run.stands body .running ∧ run.idle body then some (run.move body .ended) else none
  | .throws body thrown =>
      if run.stands body .running ∧ run.idle body then
        some (run.move body (.catching thrown))
      else none
  | .store body =>
      match run.threads.find? fun thread => thread.body = body with
      | some ⟨_, .catching thrown⟩ =>
          some
            { run.move body .raising with
              error := run.error.or (some thrown)
              stored := run.stored ++ [thrown] }
      | _ => none
  | .raise body =>
      if run.stands body .raising then some { run.move body .ended with stop := true } else none
  | .requestStop => some { run with stop := true }

/-- An interleaving of the threads; a transition that is not enabled does not occur. -/
def steps (actions : List RunAction) : Option CaptureRun := actions.foldlM step run

end CaptureRun
end Vio
