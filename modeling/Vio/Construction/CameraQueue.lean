/-
This file holds the handoff queue between the camera callbacks and its reader. Each operation has the
mutex for its whole body. A `read` is one transition, at the end of its wait.
-/

import Mathlib.Tactic.Common

namespace Vio

inductive ReadOutcome (F E : Type) where
  | frame (frame : F)
  | nothing
  | throws (error : E)
  deriving DecidableEq, Repr

inductive QueueAction (F E : Type) where
  | reset
  | push (frame : F)
  | read
  | fail (error : E)
  | close
  deriving DecidableEq, Repr

structure CameraQueue (F E : Type) where
  frames : List F := []
  error : Option E := none
  closed : Bool := true
  dropped : Nat := 0
  deriving DecidableEq, Repr

namespace CameraQueue
variable {F E : Type} (queue : CameraQueue F E)

def reset (_ : CameraQueue F E) : CameraQueue F E where
  frames := []
  error := none
  closed := false
  dropped := 0

/-- A queue of four frames gives up its oldest one. -/
def makeRoom : CameraQueue F E :=
  match queue.frames with
  | [] => queue
  | _ :: rest =>
      if queue.frames.length = 4 then { queue with frames := rest, dropped := queue.dropped + 1 }
      else queue

def push (frame : F) : CameraQueue F E :=
  if queue.closed then queue
  else { queue.makeRoom with frames := queue.makeRoom.frames ++ [frame] }

def read : ReadOutcome F E × CameraQueue F E :=
  match queue.error, queue.frames with
  | some error, _ => (.throws error, queue)
  | none, [] => (.nothing, queue)
  | none, frame :: rest => (.frame frame, { queue with frames := rest })

/-- The first error stays. -/
def fail (error : E) : CameraQueue F E :=
  { queue with error := some (queue.error.getD error), frames := [] }

def close : CameraQueue F E := { queue with closed := true, frames := [] }

def step : QueueAction F E → CameraQueue F E
  | .reset => queue.reset
  | .push frame => queue.push frame
  | .read => queue.read.2
  | .fail error => queue.fail error
  | .close => queue.close

def run (actions : List (QueueAction F E)) : CameraQueue F E := actions.foldl step queue

def outcome : QueueAction F E → Option (ReadOutcome F E)
  | .read => some queue.read.1
  | _ => none

/-- What the reads of an interleaving give their callers, in order. -/
def outcomes : CameraQueue F E → List (QueueAction F E) → List (ReadOutcome F E)
  | _, [] => []
  | queue, action :: actions => (queue.outcome action).toList ++ outcomes (queue.step action) actions

end CameraQueue
end Vio
