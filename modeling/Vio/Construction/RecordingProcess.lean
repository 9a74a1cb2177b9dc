/-
This file holds the recordings of one process, which share the slot of the writer. A recording may be
closed and destroyed while its worker still runs, and several recordings may report to one status.
A transition is one access of a thread to shared data, or a critical section without a further access
from outside. Storage is the scheduler's choice: a call of a sink returns, throws or lasts. The fields
of a state from `subtractions` on are not in the source: they record what happened, and no modelled
function reads them.
-/

import Vio.Construction.Recording

namespace Vio

def RecordingStatus.complete (status : RecordingStatus) : Bool :=
  status.finished && status.failure = .none

/-- The answer of `active` where the status does not change between its accesses. -/
def RecordingStatus.active (status : RecordingStatus) : Bool :=
  status.failure = .none && !status.finished

inductive WriterStage where
  /-- No thread was started. -/
  | absent
  | waiting
  | holding (record : RecordingRecord)
  /-- Inside the sink's `write`. -/
  | writing (record : RecordingRecord)
  | wrote (record : RecordingRecord)
  | failing (record : RecordingRecord)
  /-- The loop is over, and the thread waits for the end of the submissions. -/
  | lingering
  /-- Inside the sink's `finish`. -/
  | finishing
  | failingFinish
  /-- Inside the sink's destructor. -/
  | destroying
  | cleaning
  | releasing
  | ended
  deriving DecidableEq, Repr

/-- How far the owner of the recording has come in its constructor or in `close`. -/
inductive OwnerStage where
  | exchanging
  /-- The exchange found the slot taken. -/
  | refused
  | marking
  /-- The slot was free, and no thread was started yet. -/
  | starting
  | idle
  | entered
  | waiting
  | joining
  | reading
  /-- The status was read as finished. -/
  | deciding
  /-- The recording was destroyed, or its constructor threw. -/
  | gone
  deriving DecidableEq, Repr

/-- The state of a recording with the positions of the threads that use it. -/
structure RecordingState where
  /-- The status that the recording reports to. -/
  status : Nat
  byteLimit : UInt64
  recordLimit : UInt64
  queue : List RecordingRecord := []
  bytes : Nat := 0
  closing : Bool := false
  done : Bool := false
  /-- A producer is inside the mutex between two transitions. -/
  locked : Bool := false
  submits : List Submit := []
  worker : WriterStage := .absent
  joinable : Bool := false
  owner : OwnerStage := .exchanging
  /-- The recording is being destroyed. -/
  dying : Bool := false
  /-- The minuends and subtrahends of the byte counts. -/
  subtractions : List (Nat × Nat) := []
  accepted : Nat := 0
  sinkCalls : Nat := 0
  /-- The record whose `write` threw. -/
  lost : Option RecordingRecord := none
  /-- The records that the last cleanup removed from the queue. -/
  dropped : List RecordingRecord := []
  /-- The results of `close`, newest first. -/
  results : List Bool := []

/-- What the threads of one recording see. -/
structure RecordingView where
  writerBusy : Bool
  status : RecordingStatus
  state : RecordingState

inductive RecordingMove where
  | construct
  /-- The constructor starts its thread, where the system has threads left. -/
  | start (threads : Bool)
  | submit (record : RecordingRecord)
  | advance (call : Nat)
  | work
  | write (returned : Bool)
  | finish (step : FinishStep)
  | close
  | destroy
  | timeout
  | proceed
  deriving DecidableEq, Repr

namespace RecordingView

def addSize (first second : Nat) : Nat := (first + second) % UInt64.size

def subtractSize (minuend subtrahend : Nat) : Nat :=
  (minuend + (UInt64.size - subtrahend % UInt64.size)) % UInt64.size

def measure (limit : Nat) : List RecordingChunk → Nat → List (Nat × Nat) →
    Option Nat × List (Nat × Nat)
  | [], bytes, made => (some bytes, made)
  | chunk :: rest, bytes, made =>
      if chunk.bytes.length > subtractSize limit bytes then (none, (limit, bytes) :: made)
      else measure limit rest (addSize bytes chunk.bytes.length) ((limit, bytes) :: made)

/-- The chunk loop of the worker. -/
def discount : List RecordingChunk → Nat → List (Nat × Nat) → Nat × List (Nat × Nat)
  | [], bytes, made => (bytes, made)
  | chunk :: rest, bytes, made =>
      discount rest (subtractSize bytes chunk.bytes.length) ((bytes, chunk.bytes.length) :: made)

def fail (view : RecordingView) (reason : RecordingFailure) : RecordingView :=
  { view with status := view.status.fail reason }

/-- The next access of the constructor. -/
def construct (view : RecordingView) : Option RecordingView :=
  match view.state.owner with
  | .exchanging =>
      some
        { view with
          writerBusy := true
          state := { view.state with owner := if view.writerBusy then .refused else .starting } }
  | .refused => some { view.fail .writerBusy with state := { view.state with owner := .marking } }
  | .marking =>
      some
        { view with
          status := { view.status with finished := true }
          state := { view.state with done := true, owner := .idle } }
  | _ => none

def start (view : RecordingView) (threads : Bool) : Option RecordingView :=
  if view.state.owner = .starting then
    if threads then
      some
        { view with
          state := { view.state with worker := .waiting, joinable := true, owner := .idle } }
    else some { view with writerBusy := false, state := { view.state with owner := .gone } }
  else none

/-- The recording was constructed, and nobody destroys it. -/
def usable (view : RecordingView) : Bool :=
  !view.state.dying &&
    match view.state.owner with
    | .exchanging | .refused | .marking | .starting | .gone => false
    | .idle | .entered | .waiting | .joining | .reading | .deciding => true

def submit (view : RecordingView) (record : RecordingRecord) : Option RecordingView :=
  if record.stream = .count ∨ view.usable = false then none
  else
    some
      { view with
        status :=
          { view.status with
            submitted := RecordingStatus.counted view.status.submitted record.stream }
        state := { view.state with submits := view.state.submits ++ [⟨record, .entered⟩] } }

def toStage (view : RecordingView) (call : Nat) (record : RecordingRecord) (stage : SubmitStage) :
    RecordingView :=
  { view with
    state := { view.state with submits := view.state.submits.set call ⟨record, stage⟩ } }

def accept (view : RecordingView) (call : Nat) (record : RecordingRecord) (bytes : Nat) :
    RecordingView :=
  { view with
    state :=
      { view.state with
        bytes := addSize view.state.bytes bytes
        queue := view.state.queue ++ [record]
        locked := false
        submits := view.state.submits.eraseIdx call
        accepted := view.state.accepted + 1 } }

def reject (view : RecordingView) (call : Nat) (record : RecordingRecord) (locked : Bool) :
    RecordingView :=
  { view with
    status :=
      { view.status with
        rejected := RecordingStatus.counted view.status.rejected record.stream }
    state :=
      { view.state with
        locked := if locked then false else view.state.locked
        submits := view.state.submits.eraseIdx call } }

/-- The chunk loop of one `submit` call. -/
def toMeasured (view : RecordingView) (call : Nat) (record : RecordingRecord) : RecordingView :=
  let measured := measure view.state.byteLimit.toNat record.chunks 0 view.state.subtractions
  let view := { view with state := { view.state with subtractions := measured.2 } }
  match measured.1 with
  | none => view.toStage call record (.overflowing false)
  | some bytes => view.toStage call record (.locking bytes)

/-- The last check of one `submit` call, inside the mutex. -/
def checkLimits (view : RecordingView) (call : Nat) (record : RecordingRecord) (bytes : Nat) :
    RecordingView :=
  let limit := view.state.byteLimit.toNat
  if view.state.closing ∨ view.state.queue.length ≥ view.state.recordLimit.toNat then
    view.toStage call record (.overflowing true)
  else
    let made := (limit, view.state.bytes) :: view.state.subtractions
    let checked := { view with state := { view.state with subtractions := made } }
    if bytes > subtractSize limit view.state.bytes then
      checked.toStage call record (.overflowing true)
    else checked.accept call record bytes

def advance (view : RecordingView) (call : Nat) : Option RecordingView :=
  match view.state.submits[call]? with
  | none => none
  | some ⟨record, stage⟩ =>
      match stage with
      | .entered =>
          if view.status.failure = .none then some (view.toStage call record .healthy)
          else some (view.toStage call record (.rejecting false))
      | .healthy =>
          if view.status.finished then some (view.toStage call record (.rejecting false))
          else some (view.toStage call record .measuring)
      | .measuring => some (view.toMeasured call record)
      | .locking bytes =>
          if view.state.locked then none
          else
            let locked := { view with state := { view.state with locked := true } }
            some (locked.toStage call record (.inside bytes))
      | .inside bytes =>
          if view.status.failure = .none then
            some (view.toStage call record (.insideHealthy bytes))
          else some (view.toStage call record (.rejecting true))
      | .insideHealthy bytes =>
          if view.status.finished then some (view.toStage call record (.rejecting true))
          else some (view.checkLimits call record bytes)
      | .overflowing locked =>
          some ((view.fail .backlog).toStage call record (.rejecting locked))
      | .rejecting locked => some (view.reject call record locked)

def toWorker (view : RecordingView) (worker : WriterStage) : RecordingView :=
  { view with state := { view.state with worker } }

/-- The worker calls its sink. -/
def enterSink (view : RecordingView) (worker : WriterStage) : RecordingView :=
  { view with state := { view.state with worker, sinkCalls := view.state.sinkCalls + 1 } }

/-- The worker takes the first record of the queue. -/
def take (view : RecordingView) (record : RecordingRecord) (rest : List RecordingRecord) :
    RecordingView :=
  let discounted := discount record.chunks view.state.bytes view.state.subtractions
  { view with
    state :=
      { view.state with
        queue := rest
        bytes := discounted.1
        subtractions := discounted.2
        worker := .holding record } }

/-- The next access of the worker outside its sink. -/
def work (view : RecordingView) : Option RecordingView :=
  match view.state.worker with
  | .waiting =>
      if view.state.locked then none
      else
        match view.state.queue with
        | [] => if view.state.closing then some (view.toWorker .lingering) else none
        | record :: rest => some (view.take record rest)
  | .holding record => some (view.enterSink (.writing record))
  | .wrote record =>
      some
        { view.toWorker .waiting with
          status :=
            { view.status with
              written := RecordingStatus.counted view.status.written record.stream } }
  | .failing record =>
      some
        { view.fail .storage with
          state := { view.state with worker := .lingering, lost := some record } }
  | .lingering =>
      if view.state.closing ∧ view.state.locked = false then some (view.enterSink .finishing)
      else none
  | .failingFinish => some ((view.fail .storage).toWorker .destroying)
  | .destroying => some (view.toWorker .cleaning)
  | .cleaning =>
      if view.state.locked then none
      else
        some
          { view with
            status := { view.status with finished := true }
            state :=
              { view.state with
                queue := []
                done := true
                worker := .releasing
                dropped := view.state.queue } }
  | .releasing => some { view.toWorker .ended with writerBusy := false }
  | .absent | .writing _ | .finishing | .ended => none

/-- The sink's `write` returns or throws. -/
def write (view : RecordingView) (returned : Bool) : Option RecordingView :=
  match view.state.worker with
  | .writing record => some (view.toWorker (if returned then .wrote record else .failing record))
  | _ => none

/-- One access inside the sink's `finish`. -/
def finish (view : RecordingView) (step : FinishStep) : Option RecordingView :=
  if view.state.worker = .finishing then
    match step with
    | .proceed => some view
    | .fail reason => some (view.fail reason)
    | .done => some (view.toWorker .destroying)
    | .throw => some (view.toWorker .failingFinish)
  else none

def toOwner (view : RecordingView) (owner : OwnerStage) : RecordingView :=
  { view with state := { view.state with owner } }

def close (view : RecordingView) : Option RecordingView :=
  if view.state.owner = .idle then some (view.toOwner .entered) else none

/-- The destructor calls `close`. -/
def destroy (view : RecordingView) : Option RecordingView :=
  if view.state.owner = .idle then
    some { view with state := { view.state with owner := .entered, dying := true } }
  else none

def closed (view : RecordingView) (result : Bool) : RecordingView :=
  { view with
    state :=
      { view.state with
        owner := if view.state.dying then .gone else .idle
        results := result :: view.state.results } }

def timeout (view : RecordingView) : Option RecordingView :=
  if view.state.owner = .waiting ∧ view.state.locked = false ∧ view.state.done = false then
    some
      ({ view.fail .shutdownTimeout with
          state := { view.state with joinable := false } }.closed false)
  else none

/-- The next access of `close`. -/
def proceed (view : RecordingView) : Option RecordingView :=
  match view.state.owner with
  | .entered =>
      if view.state.joinable then
        if view.state.locked then none
        else some { view with state := { view.state with closing := true, owner := .waiting } }
      else some (view.toOwner .reading)
  | .waiting =>
      if view.state.locked = false ∧ view.state.done then some (view.toOwner .joining) else none
  | .joining =>
      if view.state.worker = .ended then
        some { view with state := { view.state with joinable := false, owner := .reading } }
      else none
  | .reading =>
      if view.status.finished then some (view.toOwner .deciding) else some (view.closed false)
  | .deciding => some (view.closed (view.status.failure = .none))
  | _ => none

def next (view : RecordingView) : RecordingMove → Option RecordingView
  | .construct => view.construct
  | .start threads => view.start threads
  | .submit record => view.submit record
  | .advance call => view.advance call
  | .work => view.work
  | .write returned => view.write returned
  | .finish step => view.finish step
  | .close => view.close
  | .destroy => view.destroy
  | .timeout => view.timeout
  | .proceed => view.proceed

end RecordingView

inductive ProcessAction where
  /-- A constructor is called, with a sink or with a null pointer, and with a status or a null pointer. -/
  | create (sink : Bool) (status : Option Nat) (byteLimit recordLimit : UInt64)
  | move (recording : Nat) (move : RecordingMove)
  deriving DecidableEq, Repr

/-- A process with its statuses and with its recordings in the order of their constructor calls. -/
structure RecordingProcess where
  writerBusy : Bool := false
  statuses : Nat → RecordingStatus := fun _ => {}
  recordings : List RecordingState := []

namespace RecordingProcess

/-- A call of the constructor; with an invalid argument it throws and touches nothing. -/
def create (process : RecordingProcess) (sink : Bool) (status : Option Nat)
    (byteLimit recordLimit : UInt64) : Option RecordingProcess :=
  match status with
  | none => none
  | some status =>
      if sink = false ∨ byteLimit = 0 ∨ recordLimit = 0 then none
      else
        some
          { process with
            recordings := process.recordings ++ [{ status, byteLimit, recordLimit }] }

def view (process : RecordingProcess) (state : RecordingState) : RecordingView where
  writerBusy := process.writerBusy
  status := process.statuses state.status
  state

/-- The process after a transition of one of its recordings. -/
def put (process : RecordingProcess) (recording : Nat) (view : RecordingView) : RecordingProcess where
  writerBusy := view.writerBusy
  statuses := Function.update process.statuses view.state.status view.status
  recordings := process.recordings.set recording view.state

def move (process : RecordingProcess) (recording : Nat) (move : RecordingMove) :
    Option RecordingProcess :=
  match process.recordings[recording]? with
  | none => none
  | some state => ((process.view state).next move).map (process.put recording)

def next (process : RecordingProcess) : ProcessAction → Option RecordingProcess
  | .create sink status byteLimit recordLimit => process.create sink status byteLimit recordLimit
  | .move recording move => process.move recording move

/-- An interleaving of the threads of the process; a transition that is not enabled does not occur. -/
def run (process : RecordingProcess) (actions : List ProcessAction) : Option RecordingProcess :=
  actions.foldlM next process

end RecordingProcess
end Vio
