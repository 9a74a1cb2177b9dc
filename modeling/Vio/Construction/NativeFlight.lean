/-
This file holds the flight application with the captures of its estimator, and the marker that a
complete capture leaves. The doubles of the options denote numbers of an ordered field.
The field `saved` is not in the source: it records the markers with the capture at that time, newest
first, and no modelled function reads it.
-/

import Vio.Construction.CaptureRun
import Vio.Construction.FlightCapture

namespace Vio
open Mavlink

section Numbers
variable {R K : Type} (number : R → K)

def ImuDevice.numbers (device : ImuDevice R) : ImuDevice K :=
  { device with
    scale := number device.scale
    rateHz := number device.rateHz }

def RunnerOptions.numbers (options : RunnerOptions R) : RunnerOptions K :=
  { options with
    devices := options.devices.map (ImuDevice.numbers number)
    imuLpfHz := number options.imuLpfHz
    imuRateHz := number options.imuRateHz
    cameraFps := number options.cameraFps }

end Numbers

/-- `RecordingStatus::complete`, of the status that the run shares with the options. -/
def CaptureRun.complete (run : CaptureRun) : Bool :=
  run.recording.any fun recording =>
    recording.status.finished && recording.status.failure = .none

/-- The marker is saved, or its `save` threw and may leave it behind too. -/
def FlightApplicationAction.saves {R : Type} : FlightApplicationAction R → Bool
  | .flight .proceed | .flight .throws => true
  | _ => false

inductive NativeFlightAction (R : Type) where
  | main (action : FlightApplicationAction R)
  /-- A transition of the capture. The flag is the worker's. -/
  | run (action : RunAction)
  /-- The update thread stores a snapshot. -/
  | store (timestamp : Int) (positionWorldM velocityWorldMps : Vector3 R)
      (worldFromImu : Quaternion R)
  /-- `runner.run` returned or threw. -/
  | done
  | join

structure NativeFlight (R : Type) [Mavlink R] where
  capture : FlightCapture R
  /-- The options of the last worker. -/
  options : Option (RunnerOptions R) := none
  /-- The last call of `run`, or what its checks threw. -/
  run : Option (Except Thrown CaptureRun) := none
  saved : List (String × CaptureRun) := []

namespace NativeFlight
variable {R K : Type} [Mavlink R] [Scalar R]

def launch (store : SessionStore) (owner : OwnerFates) (fates : ReserveFates) (stream : Bool)
    (config : FlightConfig R) (calibration : Matrix3 R) : Option (NativeFlight R) :=
  (FlightCapture.launch store owner fates stream config calibration).map fun capture => { capture }

/-- The marker that `run_capture` saves at its end. -/
def saves (flight : NativeFlight R) (action : FlightApplicationAction R) :
    List (String × CaptureRun) :=
  if flight.capture.stage = .saving ∧ action.saves then
    match flight.options.bind RunnerOptions.recordingPrefix, flight.run with
    | some filePrefix, some (.ok run) => if run.complete then [(filePrefix, run)] else []
    | _, _ => []
  else []

variable [Field K] [LinearOrder K] (number : R → K)

/-- The worker enters `run`, and the flag of the worker is the flag of `run`. -/
def runAfter (flight : NativeFlight R) (capture : FlightCapture R) :
    Option (Except Thrown CaptureRun) :=
  match flight.capture.worker, capture.worker with
  | none, some worker =>
      some (CaptureRun.enter { options := worker.options.numbers number } false)
  | some _, some worker =>
      if worker.stop then flight.run.map (Except.map fun run => { run with stop := true })
      else flight.run
  | _, none => flight.run

def step (flight : NativeFlight R) : NativeFlightAction R → Option (NativeFlight R)
  | .main action =>
      (flight.capture.step (.main action)).map fun capture =>
        { capture
          options := (capture.worker.map CaptureWorker.options).or flight.options
          run := flight.runAfter number capture
          saved := flight.saves action ++ flight.saved }
  | .run action =>
      match flight.run, action with
      | _, .requestStop => none
      | some (.ok run), action =>
          (run.step action).map fun run => { flight with run := some (.ok run) }
      | _, _ => none
  | .store timestamp positionWorldM velocityWorldMps worldFromImu =>
      match flight.run with
      | some (.ok run) =>
          if run.stands .update .running then
            (flight.capture.step
              (.store timestamp positionWorldM velocityWorldMps worldFromImu)).map
                fun capture => { flight with capture }
          else none
      | _ => none
  | .done =>
      match flight.run with
      | some (.error _) =>
          (flight.capture.step (.done true)).map fun capture => { flight with capture }
      | some (.ok run) =>
          if run.stage = .left then
            (flight.capture.step (.done run.outcome.isSome)).map fun capture =>
              { flight with capture }
          else none
      | none => none
  | .join => (flight.capture.step .join).map fun capture => { flight with capture }

/-- An interleaving of the threads; a transition that is not enabled does not occur. -/
def steps (flight : NativeFlight R) (actions : List (NativeFlightAction R)) :
    Option (NativeFlight R) :=
  actions.foldlM (step number) flight

end NativeFlight
end Vio
