/-
This file holds the queues between the sensor threads and the estimator: the push of the IMU thread,
`enqueue_frame`, and the loop of the update thread. A transition is one section of a thread between
two accesses that another thread can see; the lock is held within a transition only. Timestamps and
offsets are exact numbers. The masks and images of a frame, the estimates and the statistics of the
update thread are not modelled. The fields `pushed`, `enqueued` and `feeds` are not in the source:
they record what entered the queues, oldest first, and what the estimator got, newest first. No
modelled function reads them.
-/

import Mathlib.Algebra.Order.Round
import Vio.Construction.ImuThread
import Vio.Library.BoundedQueue

namespace Vio
namespace SensorRunner
open BoundedQueue

structure CapturedFrame (K : Type) where
  /-- `camera.timestamp`, in seconds. -/
  timestamp : K
  timestampNs : Int
  frameIndex : Nat
  deriving DecidableEq, Repr

/-- What the estimator got, and what it gave back. -/
inductive Feed (K : Type) where
  | imu (sample : ImuData K)
  | camera (captured : CapturedFrame K)
  /-- The offset that was read after a camera update. -/
  | offset (calibDt : K)

inductive UpdateStage (K : Type) where
  /-- The condition of the loop. -/
  | looping
  /-- The wait for samples or frames, up to the release of the lock. -/
  | waiting
  /-- The lock is free, and these samples are still to be fed. -/
  | feeding (samples : List (ImuData K))
  /-- The estimator works on a frame. -/
  | updating (captured : CapturedFrame K)
  /-- The estimator threw, with the frame that it worked on. -/
  | threw (captured : Option (CapturedFrame K))
  | ended

/-- The samples that the thread took from the queue and has not fed yet. -/
def UpdateStage.samples {K : Type} : UpdateStage K → List (ImuData K)
  | .feeding samples => samples
  | _ => []

/-- The frame that the thread took from the queue and has not counted yet. -/
def UpdateStage.inHand {K : Type} : UpdateStage K → Option (CapturedFrame K)
  | .updating captured => some captured
  | .threw captured => captured
  | _ => none

inductive RunnerAction (K : Type) where
  /-- The IMU thread pushes a row with the timestamp of the gyroscope. -/
  | pushImu (time : Int) (wm am : Axes K)
  /-- The camera thread calls `enqueue_frame`, which counts the frame before it takes the lock. -/
  | count (ts : Int) (idx : Nat)
  | enqueue
  /-- The end of the frame stream. -/
  | framesDone
  | requestStop
  | loop
  /-- The wait ends by a notification or after 100 ms. -/
  | collect
  | feedImu
  /-- The lock is taken again; the clock is read twice. -/
  | relock (now later : Int)
  /-- The estimator returns, and the offset is read. -/
  | update (calibDt : K)
  | throws

structure Runner (K : Type) where
  maxQueue : Nat
  /-- `run` lets positive limits pass only. -/
  positive : 0 < maxQueue
  stop : Bool := false
  imuQueue : List (ImuData K) := []
  camQueue : List (CapturedFrame K) := []
  framesDone : Bool := false
  lastImuNs : Int := 0
  imuCount : Nat := 0
  framesIn : Nat := 0
  framesDoneN : Nat := 0
  framesDropped : Nat := 0
  /-- The IMU thread did not die. -/
  imuAlive : Bool := true
  /-- The frame between its count and its push. -/
  entering : Option (CapturedFrame K) := none
  stage : UpdateStage K := .looping
  calibDt : K
  stallSince : Int := 0
  pushed : List (ImuData K) := []
  enqueued : List (CapturedFrame K) := []
  feeds : List (Feed K) := []

section Exact
variable {K : Type} [Field K] [LinearOrder K] [FloorRing K]

/-- The nearest integer, a half going away from zero. -/
def llround (value : K) : Int := if 0 ≤ value then round value else -round (-value)

def nsPerSecond : Int := 1000000000

def seconds (ns : Int) : K := ns / nsPerSecond

namespace Runner

/-- The start of a run; the update thread has read the first offset. -/
def start (maxQueue : Nat) (positive : 0 < maxQueue) (calibDt : K) : Runner K :=
  { maxQueue, positive, calibDt }

/-- Inertial samples cover the oldest frame. -/
def ready (runner : Runner K) : Bool :=
  match runner.camQueue with
  | [] => false
  | front :: _ => front.timestamp < seconds runner.lastImuNs - runner.calibDt

/-- The second locked section of the loop. -/
def relock (runner : Runner K) (now later : Int) : Runner K :=
  if runner.stop then { runner with stage := .ended }
  else if runner.ready = false then
    if runner.framesDone = false then { runner with stage := .looping }
    else if runner.camQueue = [] then { runner with stage := .ended }
    else
      -- The IMU has one more second to pass the frames that are left.
      let stallSince := if runner.stallSince = 0 then now else runner.stallSince
      { runner with
        stallSince
        stage := if later - stallSince > 1000000000 then .ended else .looping }
  else
    match runner.camQueue with
    | [] => runner
    | captured :: rest =>
        { runner with
          camQueue := rest
          stage := .updating captured
          feeds := .camera captured :: runner.feeds }

def enqueueFrame (runner : Runner K) (captured : CapturedFrame K) : Runner K :=
  let room := makeRoom runner.maxQueue runner.camQueue
  { runner with
    camQueue := room.1 ++ [captured]
    framesDropped := runner.framesDropped + room.2
    entering := none
    enqueued := runner.enqueued ++ [captured] }

def step (runner : Runner K) : RunnerAction K → Option (Runner K)
  | .pushImu time wm am =>
      if runner.imuAlive = false then none
      else if runner.imuQueue.length ≥ 1024 then some { runner with imuAlive := false }
      else
        some
          { runner with
            imuQueue := runner.imuQueue ++ [imuData time wm am]
            imuCount := runner.imuCount + 1
            pushed := runner.pushed ++ [imuData time wm am] }
  | .count ts idx =>
      match runner.entering with
      | none =>
          some
            { runner with
              framesIn := runner.framesIn + 1
              entering := some
                { timestamp := seconds ts, timestampNs := ts, frameIndex := idx - 1 } }
      | some _ => none
  | .enqueue => runner.entering.map runner.enqueueFrame
  | .framesDone => if runner.entering = none then some { runner with framesDone := true } else none
  | .requestStop => some { runner with stop := true }
  | .loop =>
      match runner.stage with
      | .looping => some { runner with stage := if runner.stop then .ended else .waiting }
      | _ => none
  | .collect =>
      match runner.stage with
      | .waiting => some { runner with imuQueue := [], stage := .feeding runner.imuQueue }
      | _ => none
  | .feedImu =>
      match runner.stage with
      | .feeding (sample :: rest) =>
          some
            { runner with
              lastImuNs := llround (sample.timestamp * nsPerSecond)
              stage := .feeding rest
              feeds := .imu sample :: runner.feeds }
      | _ => none
  | .relock now later =>
      match runner.stage with
      | .feeding [] => some (runner.relock now later)
      | _ => none
  | .update calibDt =>
      match runner.stage with
      | .updating _ =>
          some
            { runner with
              framesDoneN := runner.framesDoneN + 1
              calibDt
              stage := .looping
              feeds := .offset calibDt :: runner.feeds }
      | _ => none
  | .throws =>
      match runner.stage with
      | .threw _ | .ended => none
      | stage => some { runner with stage := .threw stage.inHand }

/-- An interleaving of the threads; a transition that is not enabled does not occur. -/
def run (runner : Runner K) (actions : List (RunnerAction K)) : Option (Runner K) :=
  actions.foldlM step runner

end Runner
end Exact
end SensorRunner
end Vio
