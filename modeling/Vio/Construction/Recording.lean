/-
This file holds the bounded recording handoff between the producers and the writer thread.
A transition is one access of a thread to shared data, or a critical section without a further
access from outside. The field `history` is not in the source: it records what happened, newest
first, and no modelled function reads it.
-/

import Mathlib.Logic.Function.Basic
import Vio.Construction.Estimate

namespace Vio

inductive RecordingStream where
  | accel
  | gyro
  | camera
  | estimate
  | features
  | count
  deriving DecidableEq, Repr

inductive RecordingFailure where
  | none
  | backlog
  | storage
  | shutdownTimeout
  | writerBusy
  deriving DecidableEq, Repr

def RecordingFailure.reason : RecordingFailure → String
  | .none => "none"
  | .backlog => "queue_full"
  | .storage => "storage_error"
  | .shutdownTimeout => "shutdown_timeout"
  | .writerBusy => "previous_writer_still_running"

structure RecordingStatus where
  failure : RecordingFailure := .none
  finished : Bool := false
  submitted : RecordingStream → Nat := fun _ => 0
  written : RecordingStream → Nat := fun _ => 0
  rejected : RecordingStream → Nat := fun _ => 0

namespace RecordingStatus

/-- Only the first failure is kept. -/
def fail (status : RecordingStatus) (reason : RecordingFailure) : RecordingStatus :=
  if status.failure = .none then { status with failure := reason } else status

def counted (counter : RecordingStream → Nat) (stream : RecordingStream) : RecordingStream → Nat :=
  Function.update counter stream (counter stream + 1)

end RecordingStatus

structure RecordingFile where
  path : String
  header : List UInt8
  footer : List UInt8
  deriving DecidableEq, Repr

structure RecordingChunk where
  file : Nat
  bytes : List UInt8
  deriving DecidableEq, Repr

structure RecordingRecord where
  stream : RecordingStream
  chunks : List RecordingChunk
  deriving DecidableEq, Repr

def RecordingRecord.size (record : RecordingRecord) : Nat :=
  record.chunks.foldl (fun size chunk => size + chunk.bytes.length) 0

def ascii (text : String) : List UInt8 := text.toList.map fun letter => UInt8.ofNat letter.toNat

def recordingText (file : Nat) (text : List UInt8) : RecordingChunk := ⟨file, text⟩

/-- What one access of `finish` to the status or to storage does. -/
inductive FinishStep where
  | proceed
  | fail (reason : RecordingFailure)
  | done
  | throw
  deriving DecidableEq, Repr

/-- A sink of the worker. `Env` is what storage decides during one call. -/
structure RecordingSink where
  State : Type
  Env : Type
  /-- The sink after the call, and whether the call returned rather than threw. -/
  write : Env → State → RecordingRecord → State × Bool
  finish : Env → RecordingStatus → State → State × FinishStep

/-- How far one `submit` call has come. -/
inductive SubmitStage where
  /-- The call was counted. -/
  | entered
  /-- `active` read no failure. -/
  | healthy
  /-- `active` returned true. -/
  | measuring
  /-- The record asks for the mutex. -/
  | locking (bytes : Nat)
  | inside (bytes : Nat)
  | insideHealthy (bytes : Nat)
  | overflowing (locked : Bool)
  | rejecting (locked : Bool)
  deriving DecidableEq, Repr

structure Submit where
  record : RecordingRecord
  stage : SubmitStage
  deriving DecidableEq, Repr

inductive WorkerStage where
  /-- The slot was taken, so no thread was started. -/
  | absent
  | waiting
  | holding (record : RecordingRecord)
  | wrote (record : RecordingRecord)
  | failing
  /-- The loop is over, and the thread waits for the end of the submissions. -/
  | lingering
  | finishing
  | failingFinish
  | cleaning
  | releasing
  | ended
  deriving DecidableEq, Repr

inductive CloseStage where
  | idle
  | entered
  | waiting
  | joining
  | reading
  /-- The status was read as finished. -/
  | deciding
  deriving DecidableEq, Repr

inductive RecordingEvent where
  | began (record : RecordingRecord)
  | accepted (record : RecordingRecord)
  | rejected (record : RecordingRecord)
  /-- The sink was handed a record, and its `write` returned or threw. -/
  | written (record : RecordingRecord) (returned : Bool)
  | closeCalled
  | closed (result : Bool)
  deriving DecidableEq, Repr

/-- A recording with the positions of the threads that use it. -/
structure Recording (sink : RecordingSink) where
  sinkState : sink.State
  status : RecordingStatus
  byteLimit : Nat
  recordLimit : Nat
  queue : List RecordingRecord := []
  bytes : Nat := 0
  closing : Bool := false
  done : Bool := false
  /-- The producer inside the mutex between two transitions. -/
  holder : Option RecordingStream := none
  submits : RecordingStream → Option Submit := fun _ => none
  worker : WorkerStage
  joinable : Bool
  owner : CloseStage := .idle
  history : List RecordingEvent := []

namespace Recording
variable {sink : RecordingSink}

/-- The constructor, and the global slot after it. `threads` says whether a thread can start. -/
def create (sinkState : Option sink.State) (status : Option RecordingStatus)
    (byteLimit recordLimit : Nat) (writerBusy threads : Bool) :
    Except Thrown (Recording sink) × Bool :=
  match sinkState, status with
  | some sinkState, some status =>
      if byteLimit = 0 ∨ recordLimit = 0 then
        (.error (.invalidArgument "invalid recording configuration"), writerBusy)
      else if writerBusy then
        (.ok
          { sinkState
            status := { status.fail .writerBusy with finished := true }
            byteLimit
            recordLimit
            done := true
            worker := .absent
            joinable := false }, true)
      else if threads then
        (.ok { sinkState, status, byteLimit, recordLimit, worker := .waiting, joinable := true }, true)
      else (.error (.runtimeError "thread"), false)
  | _, _ => (.error (.invalidArgument "invalid recording configuration"), writerBusy)

def record (recording : Recording sink) (event : RecordingEvent) : Recording sink :=
  { recording with history := event :: recording.history }

def fail (recording : Recording sink) (reason : RecordingFailure) : Recording sink :=
  { recording with status := recording.status.fail reason }

def toStage (recording : Recording sink) (record : RecordingRecord) (stage : SubmitStage) :
    Recording sink :=
  { recording with
    submits := Function.update recording.submits record.stream (some ⟨record, stage⟩) }

/-- A call of `submit`; a stream outside the five throws and touches nothing. -/
def submit (recording : Recording sink) (record : RecordingRecord) : Option (Recording sink) :=
  if record.stream = .count ∨ recording.submits record.stream ≠ none then none
  else
    some
      (({ recording with
          status :=
            { recording.status with
              submitted := RecordingStatus.counted recording.status.submitted record.stream }
        }).toStage record .entered |>.record (.began record))

/-- The chunk loop of `submit`: the size of the record, or nothing where it exceeds the limit. -/
def measure (limit : Nat) : List RecordingChunk → Nat → Option Nat
  | [], bytes => some bytes
  | chunk :: rest, bytes =>
      if chunk.bytes.length > limit - bytes then none
      else measure limit rest (bytes + chunk.bytes.length)

/-- The record enters the queue, and the call returns true. -/
def accept (recording : Recording sink) (record : RecordingRecord) (bytes : Nat) : Recording sink :=
  { recording with
    bytes := recording.bytes + bytes
    queue := recording.queue ++ [record]
    holder := none
    submits := Function.update recording.submits record.stream none
    history := .accepted record :: recording.history }

/-- The call counts its rejection, leaves the mutex and returns false. -/
def reject (recording : Recording sink) (record : RecordingRecord) (locked : Bool) :
    Recording sink :=
  { recording with
    status :=
      { recording.status with
        rejected := RecordingStatus.counted recording.status.rejected record.stream }
    holder := if locked then none else recording.holder
    submits := Function.update recording.submits record.stream none
    history := .rejected record :: recording.history }

/-- The next access of the `submit` call on a stream. -/
def advance (recording : Recording sink) (stream : RecordingStream) : Option (Recording sink) :=
  match recording.submits stream with
  | none => none
  | some ⟨record, stage⟩ =>
      match stage with
      | .entered =>
          if recording.status.failure = .none then some (recording.toStage record .healthy)
          else some (recording.toStage record (.rejecting false))
      | .healthy =>
          if recording.status.finished then some (recording.toStage record (.rejecting false))
          else some (recording.toStage record .measuring)
      | .measuring =>
          match measure recording.byteLimit record.chunks 0 with
          | none => some (recording.toStage record (.overflowing false))
          | some bytes => some (recording.toStage record (.locking bytes))
      | .locking bytes =>
          if recording.holder = none then
            some { recording.toStage record (.inside bytes) with holder := some record.stream }
          else none
      | .inside bytes =>
          if recording.status.failure = .none then
            some (recording.toStage record (.insideHealthy bytes))
          else some (recording.toStage record (.rejecting true))
      | .insideHealthy bytes =>
          if recording.status.finished then some (recording.toStage record (.rejecting true))
          else if recording.closing ∨ recording.queue.length ≥ recording.recordLimit ∨
              bytes > recording.byteLimit - recording.bytes then
            some (recording.toStage record (.overflowing true))
          else some (recording.accept record bytes)
      | .overflowing locked =>
          some ((recording.fail .backlog).toStage record (.rejecting locked))
      | .rejecting locked => some (recording.reject record locked)

/-- The next access of the worker outside the sink. -/
def work (recording : Recording sink) : Option (Recording sink) :=
  match recording.worker with
  | .waiting =>
      if recording.holder = none then
        match recording.queue with
        | [] => if recording.closing then some { recording with worker := .lingering } else none
        | record :: rest =>
            some
              { recording with
                queue := rest
                bytes := recording.bytes - record.size
                worker := .holding record }
      else none
  | .wrote record =>
      some
        { recording with
          status :=
            { recording.status with
              written := RecordingStatus.counted recording.status.written record.stream }
          worker := .waiting }
  | .failing => some { recording.fail .storage with worker := .lingering }
  | .lingering =>
      if recording.holder = none ∧ recording.closing then
        some { recording with worker := .finishing }
      else none
  | .failingFinish => some { recording.fail .storage with worker := .cleaning }
  | .cleaning =>
      if recording.holder = none then
        some
          { recording with
            queue := []
            done := true
            status := { recording.status with finished := true }
            worker := .releasing }
      else none
  -- The slot is free from here on.
  | .releasing => some { recording with worker := .ended }
  | .absent | .holding _ | .finishing | .ended => none

/-- The worker's call of the sink's `write`. -/
def write (recording : Recording sink) (env : sink.Env) : Option (Recording sink) :=
  match recording.worker with
  | .holding record =>
      let result := sink.write env recording.sinkState record
      some
        { recording with
          sinkState := result.1
          worker := if result.2 then .wrote record else .failing
          history := .written record result.2 :: recording.history }
  | _ => none

/-- One access inside the worker's call of the sink's `finish`. -/
def finish (recording : Recording sink) (env : sink.Env) : Option (Recording sink) :=
  match recording.worker with
  | .finishing =>
      let result := sink.finish env recording.status recording.sinkState
      let recording := { recording with sinkState := result.1 }
      match result.2 with
      | .proceed => some recording
      | .fail reason => some (recording.fail reason)
      | .done => some { recording with worker := .cleaning }
      | .throw => some { recording with worker := .failingFinish }
  | _ => none

def close (recording : Recording sink) : Option (Recording sink) :=
  if recording.owner = .idle then
    some ({ recording with owner := .entered }.record .closeCalled)
  else none

def closed (recording : Recording sink) (result : Bool) : Recording sink :=
  { recording with owner := .idle }.record (.closed result)

def timeout (recording : Recording sink) : Option (Recording sink) :=
  if recording.owner = .waiting ∧ recording.holder = none ∧ recording.done = false then
    some ({ recording.fail .shutdownTimeout with joinable := false }.closed false)
  else none

/-- The next access of `close`. -/
def proceed (recording : Recording sink) : Option (Recording sink) :=
  match recording.owner with
  | .idle => none
  | .entered =>
      if recording.joinable then
        if recording.holder = none then
          some { recording with closing := true, owner := .waiting }
        else none
      else some { recording with owner := .reading }
  | .waiting =>
      if recording.holder = none ∧ recording.done then some { recording with owner := .joining }
      else none
  | .joining =>
      if recording.worker = .ended then
        some { recording with joinable := false, owner := .reading }
      else none
  | .reading =>
      if recording.status.finished then some { recording with owner := .deciding }
      else some (recording.closed false)
  | .deciding => some (recording.closed (recording.status.failure = .none))

end Recording

inductive RecordingAction (sink : RecordingSink) where
  | submit (record : RecordingRecord)
  | advance (stream : RecordingStream)
  | work
  | write (env : sink.Env)
  | finish (env : sink.Env)
  | close
  | timeout
  | proceed

namespace Recording
variable {sink : RecordingSink}

def next (recording : Recording sink) : RecordingAction sink → Option (Recording sink)
  | .submit record => recording.submit record
  | .advance stream => recording.advance stream
  | .work => recording.work
  | .write env => recording.write env
  | .finish env => recording.finish env
  | .close => recording.close
  | .timeout => recording.timeout
  | .proceed => recording.proceed

/-- An interleaving of the threads; a transition that is not enabled does not occur. -/
def run (recording : Recording sink) (actions : List (RecordingAction sink)) :
    Option (Recording sink) :=
  actions.foldlM next recording

end Recording

end Vio
