/-
This file holds what the flight loop sets up for a capture: the estimator and the camera before the
exposure, and the recording, the sensors and the worker of `run_capture`.
The field `events` is not in the source: it records the loop, newest first, and no modelled function
reads it.
-/

import Vio.Construction.FlightApplication
import Vio.Construction.ImuDevice
import Vio.Construction.Recording

namespace Vio
open Mavlink

/-- The Frobenius distance of two matrices. -/
def Matrix3.distance {R : Type} [Scalar R] (first second : Matrix3 R) : R :=
  let row0 : Vector3 R := ⟨first.row0.x - second.row0.x, first.row0.y - second.row0.y,
    first.row0.z - second.row0.z⟩
  let row1 : Vector3 R := ⟨first.row1.x - second.row1.x, first.row1.y - second.row1.y,
    first.row1.z - second.row1.z⟩
  let row2 : Vector3 R := ⟨first.row2.x - second.row2.x, first.row2.y - second.row2.y,
    first.row2.z - second.row2.z⟩
  Scalar.sqrt (row0.dot row0 + row1.dot row1 + row2.dot row2)

/-- What `run_flight` reads of its configuration. -/
structure FlightConfig (R : Type) where
  link : MavlinkLinkConfig
  mounting : CameraMount R
  fps : R
  imuLpf : R

structure PreparedRecording where
  filePrefix : String
  enabled : Bool

structure RunnerOptions (R : Type) where
  devices : List (ImuDevice R)
  recordingStatus : Option RecordingStatus := none
  estimateLog : Option String := none
  recordingPrefix : Option String := none
  imuLpfHz : R
  imuRateHz : R
  cameraFps : R
  maxCameraQueue : Nat := 10
  generation : SessionGeneration

/-- The options that `run_capture` makes of its configuration, its recording and the devices. -/
def captureOptions {R : Type} (fps imuLpf : R) (recording : PreparedRecording)
    (generation : SessionGeneration) (first : ImuDevice R) (others : List (ImuDevice R)) :
    RunnerOptions R where
  devices := first :: others
  cameraFps := fps
  imuLpfHz := imuLpf
  imuRateHz := first.rateHz
  generation
  recordingStatus := if recording.enabled then some {} else none
  recordingPrefix := if recording.enabled then some recording.filePrefix else none
  estimateLog := if recording.enabled then some (recording.filePrefix ++ ".est.txt") else none

/-- How far the set-up of the current stage came. -/
inductive CaptureSetup (R : Type) where
  | idle
  /-- The estimator has the calibration of the first one. -/
  | calibrated
  | camera
  | recorded (recording : PreparedRecording)
  | sensing (recording : PreparedRecording) (first : ImuDevice R) (others : List (ImuDevice R))
  | described (options : RunnerOptions R)
  | streaming (options : RunnerOptions R)
  | working (options : RunnerOptions R)

inductive FlightEvent (R : Type) where
  /-- An iteration begins with the link in this state. -/
  | entered (state : FlightSessionState)
  /-- `start_session` returned. -/
  | started (generation : SessionGeneration)
  /-- A poll, with the last heartbeat of the controller after it. -/
  | polled (now : Int) (controller : Option (Bool × Int))
  /-- `controller_disarmed`, with its answer. -/
  | checked (clock : Int) (answer : Bool)
  /-- The constructor of `ImuDevices` runs. -/
  | imuDevices
  /-- The worker starts, with the session of the link then. -/
  | worker (options : RunnerOptions R) (session : Option SessionGeneration)
  | published
  | endedSession
  /-- `run_capture` returned or threw. -/
  | left
  /-- The handler of the `try` block. -/
  | caught

/-- The body of `run_capture`. -/
@[simp] def FlightStage.captures : FlightStage → Bool
  | .acquiring | .capturing _ | .loading _ | .judging | .ending _ | .unwinding _ | .saving => true
  | _ => false

/-- The conditions that ask for a disarmed controller after their `pump`. -/
@[simp] def FlightStage.asksDisarmed : FlightStage → Bool
  | .waiting | .preparing | .confirming => true
  | _ => false

/-- The last heartbeat of the controller that a link has on record. -/
def lastController {R : Type} [Mavlink R] (history : List (LinkEvent R)) : Option (Bool × Int) :=
  history.findSome? fun
    | .heartbeat armed now => some (armed, now)
    | _ => none

namespace Flight
variable {R : Type} [Mavlink R] [Scalar R]

/-- The poll of a condition and, where its `pump` returned true, the question after it. -/
def asked (flight : Flight R) (input : Pump) : List (FlightEvent R) :=
  if flight.stage.elapsed input.clock then []
  else
    let result := pump flight.link input
    let polled : FlightEvent R := .polled input.now (lastController result.1.history)
    match result.2 with
    | .ok true =>
        if flight.stage.asksDisarmed then
          [.checked input.clock (result.1.session.controllerDisarmed input.clock), polled]
        else [polled]
    | _ => [polled]

/-- What an action does before the loop goes on, newest first. -/
def observed (flight next : Flight R) : FlightAction R → List (FlightEvent R)
  | .stopping answer =>
      if flight.stage = .looping ∧ answer = false then [.entered flight.link.session.state] else []
  | .start => if next.stage = .waiting then [.started ⟨next.generation⟩] else []
  | .pump input => flight.asked input
  | .publish _ _ _ => [.published]
  | .endSession _ => [.endedSession]
  | .poll now _ => [.polled now (lastController next.link.history)]
  | _ => []

/-- Where an action leads out of `run_capture` and into the handler. -/
def exits (flight next : Flight R) : List (FlightEvent R) :=
  (if next.stage = .caught ∧ flight.stage ≠ .caught then [.caught] else []) ++
    if flight.stage.captures ∧ next.stage.captures = false then [.left] else []

end Flight

/-- The outside interactions of the set-up, with what they returned. -/
inductive FlightApplicationAction (R : Type) where
  | flight (action : FlightAction R)
  | makeEstimator
  | cameraFromImu (matrix : Matrix3 R)
  | makeCamera
  | prepareRecording (recording : PreparedRecording)
  /-- The constructor finds devices or throws. -/
  | imuDevices (devices : Option (ImuDevice R × List (ImuDevice R)))
  | saveMetadata
  | startCamera
  | worker

structure FlightApplication (R : Type) [Mavlink R] where
  flight : Flight R
  config : FlightConfig R
  calibration : Matrix3 R
  /-- The estimator is there. -/
  estimator : Bool := true
  setup : CaptureSetup R := .idle
  events : List (FlightEvent R) := []

namespace FlightApplication
variable {R : Type} [Mavlink R] [Scalar R]

/-- The part of `run_flight` before its loop, with the calibration of the first estimator. -/
def launch (store : SessionStore) (owner : OwnerFates) (fates : ReserveFates) (stream : Bool)
    (config : FlightConfig R) (calibration : Matrix3 R) : Option (FlightApplication R) :=
  match FrameTransform.create calibration config.mounting with
  | .error _ => none
  | .ok transform =>
      (Flight.launch store owner fates stream config.link transform).map fun flight =>
        { flight, config, calibration }

/-- The options that `run_capture` hands to the estimator. -/
def options (application : FlightApplication R) (recording : PreparedRecording)
    (first : ImuDevice R) (others : List (ImuDevice R)) : RunnerOptions R :=
  captureOptions application.config.fps application.config.imuLpf recording
    ⟨application.flight.generation⟩ first others

/-- The set-up that the stage needs is done. -/
def ready (application : FlightApplication R) : Bool :=
  match application.flight.stage, application.setup with
  | .preparing, .camera => true
  | .preparing, _ => false
  | .acquiring, .working _ => true
  | .acquiring, _ => false
  | _, _ => true

/-- An action of the loop. The estimator is reset after the `try` block. -/
def fly (application : FlightApplication R) (action : FlightAction R) :
    Option (FlightApplication R) :=
  (application.flight.step action).map fun next =>
    { application with
      flight := next
      estimator := if next.stage = .resting then false else application.estimator
      setup := if next.stage = application.flight.stage then application.setup else .idle
      events := application.flight.exits next ++ application.flight.observed next action ++
        application.events }

/-- The application after one action. A failure of the set-up is the action `throws` of the loop. -/
def step (application : FlightApplication R) :
    FlightApplicationAction R → Option (FlightApplication R)
  | .flight .throws => application.fly .throws
  | .flight action => if application.ready then application.fly action else none
  | .makeEstimator =>
      match application.flight.stage, application.estimator with
      | .preparing, false => some { application with estimator := true }
      | _, _ => none
  | .cameraFromImu matrix =>
      match application.flight.stage, application.estimator, application.setup with
      | .preparing, true, .idle =>
          if Scalar.lt 1e-10 (matrix.distance application.calibration) then
            application.fly .throws
          else some { application with setup := .calibrated }
      | _, _, _ => none
  | .makeCamera =>
      match application.flight.stage, application.setup with
      | .preparing, .calibrated => some { application with setup := .camera }
      | _, _ => none
  | .prepareRecording recording =>
      match application.flight.stage, application.setup with
      | .acquiring, .idle => some { application with setup := .recorded recording }
      | _, _ => none
  | .imuDevices devices =>
      match application.flight.stage, application.setup with
      | .acquiring, .recorded recording =>
          let application := { application with events := .imuDevices :: application.events }
          match devices with
          | none => application.fly .throws
          | some (first, others) =>
              some { application with setup := .sensing recording first others }
      | _, _ => none
  | .saveMetadata =>
      match application.flight.stage, application.setup with
      | .acquiring, .sensing recording first others =>
          some { application with setup := .described (application.options recording first others) }
      | _, _ => none
  | .startCamera =>
      match application.flight.stage, application.setup with
      | .acquiring, .described options => some { application with setup := .streaming options }
      | _, _ => none
  | .worker =>
      match application.flight.stage, application.setup with
      | .acquiring, .streaming options =>
          some
            { application with
              setup := .working options
              events := .worker options application.flight.link.session.generation ::
                application.events }
      | _, _ => none

def run (application : FlightApplication R) (actions : List (FlightApplicationAction R)) :
    Option (FlightApplication R) :=
  actions.foldlM step application

end FlightApplication
end Vio
