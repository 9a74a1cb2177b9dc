/-
This file holds the two threads of the flight application: the communication thread, and the worker
of a capture, which hands the snapshots of the estimator over through a mailbox of one slot.
The field `stored` is not in the source: it records every stored snapshot, oldest first, and no
modelled function reads it.
-/

import Vio.Construction.CaptureSetup

namespace Vio
open Mavlink

/-- The worker exists, unless the set-up did not reach it yet. -/
@[simp] def FlightStage.works : FlightStage → Bool
  | .acquiring | .capturing _ | .loading _ | .judging | .ending _ | .unwinding _ => true
  | _ => false

/-- The worker was told to stop, or the destructor tells it. -/
@[simp] def FlightStage.stopsWorker : FlightStage → Bool
  | .acquiring | .capturing _ | .loading _ | .judging | .ending _ => false
  | _ => true

structure CaptureWorker (R : Type) where
  options : RunnerOptions R
  stop : Bool := false
  /-- Once the thread is done, whether the estimator threw. -/
  done : Option Bool := none

inductive FlightCaptureAction (R : Type) where
  /-- The communication thread. What it reads of the worker and the mailbox is not from the action. -/
  | main (action : FlightApplicationAction R)
  /-- The estimator stores a snapshot. -/
  | store (timestamp : Int) (positionWorldM velocityWorldMps : Vector3 R)
      (worldFromImu : Quaternion R)
  /-- `runner.run` returned or threw. -/
  | done (error : Bool)
  /-- The destructor of the worker joined the thread. -/
  | join

structure FlightCapture (R : Type) [Mavlink R] where
  application : FlightApplication R
  worker : Option (CaptureWorker R) := none
  /-- The mailbox. -/
  estimates : Option (EstimatorEstimate R) := none
  stored : List (EstimatorEstimate R) := []

namespace FlightCapture
variable {R : Type} [Mavlink R]

/-- The part of `run_flight` before its loop. -/
def launch [Scalar R] (store : SessionStore) (owner : OwnerFates) (fates : ReserveFates)
    (stream : Bool) (config : FlightConfig R) (calibration : Matrix3 R) : Option (FlightCapture R) :=
  (FlightApplication.launch store owner fates stream config calibration).map fun application =>
    { application }

def stage (capture : FlightCapture R) : FlightStage := capture.application.flight.stage

def link (capture : FlightCapture R) : MavlinkLink R := capture.application.flight.link

/-- The action with what the communication thread reads of the worker and the mailbox. -/
def reads (capture : FlightCapture R) :
    FlightApplicationAction R → Option (FlightApplicationAction R)
  | .flight (.pump input) =>
      some (.flight (.pump
        { input with workerDone := capture.worker.any fun worker => worker.done.isSome }))
  | .flight (.publish _ now later) =>
      capture.estimates.map fun estimate => .flight (.publish estimate now later)
  | .flight (.clock now) =>
      match capture.stage, capture.estimates with
      | .loading _, some _ => none
      | _, _ => some (.flight (.clock now))
  | .flight (.joined _) =>
      (capture.worker.bind CaptureWorker.done).map fun error => .flight (.joined error)
  | action => some action

def workerAfter (capture : FlightCapture R) (action : FlightApplicationAction R)
    (next : FlightApplication R) : Option (CaptureWorker R) :=
  match action, next.setup with
  | .worker, .working options => some { options }
  | _, _ =>
      capture.worker.map fun worker =>
        { worker with stop := worker.stop || next.flight.stage.stopsWorker }

variable [Scalar R]

def step (capture : FlightCapture R) : FlightCaptureAction R → Option (FlightCapture R)
  | .main action =>
      -- The destructor of the worker waits for the thread.
      if capture.worker.isSome ∧ capture.stage.works = false then none
      else
        (capture.reads action).bind fun action =>
          (capture.application.step action).map fun next =>
            { capture with application := next, worker := capture.workerAfter action next }
  | .store timestamp positionWorldM velocityWorldMps worldFromImu =>
      match capture.worker with
      | some ⟨options, _, none⟩ =>
          let snapshot : EstimatorEstimate R :=
            { timestamp
              generation := options.generation
              status := .ready
              positionWorldM
              velocityWorldMps
              worldFromImu }
          some
            { capture with
              estimates := some snapshot
              stored := capture.stored ++ [snapshot] }
      | _ => none
  | .done error =>
      match capture.worker with
      | some ⟨options, stop, none⟩ =>
          some { capture with worker := some ⟨options, stop, some error⟩ }
      | _ => none
  | .join =>
      match capture.worker with
      -- The mailbox goes with the capture.
      | some ⟨_, _, some _⟩ =>
          if capture.stage.works then none
          else some { capture with worker := none, estimates := none }
      | _ => none

def run (capture : FlightCapture R) (actions : List (FlightCaptureAction R)) :
    Option (FlightCapture R) :=
  actions.foldlM step capture

end FlightCapture
end Vio
