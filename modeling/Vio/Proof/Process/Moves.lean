import Mathlib.Tactic.Common
import Vio.Construction.RecordingProcess

namespace Vio

namespace RecordingView

/-- The checks that one stage of `submit` makes on the way to the next one. -/
inductive Checked (view : RecordingView) : SubmitStage → SubmitStage → Prop
  | failed (failure : view.status.failure ≠ .none) : Checked view .entered (.rejecting false)
  | healthy (failure : view.status.failure = .none) : Checked view .entered .healthy
  | ended (finished : view.status.finished = true) : Checked view .healthy (.rejecting false)
  | active (finished : view.status.finished = false) : Checked view .healthy .measuring
  | failedInside (bytes : Nat) (failure : view.status.failure ≠ .none) :
      Checked view (.inside bytes) (.rejecting true)
  | healthyInside (bytes : Nat) (failure : view.status.failure = .none) :
      Checked view (.inside bytes) (.insideHealthy bytes)
  | endedInside (bytes : Nat) (finished : view.status.finished = true) :
      Checked view (.insideHealthy bytes) (.rejecting true)
  | full (bytes : Nat) : Checked view (.insideHealthy bytes) (.overflowing true)

/-- The moves of a call that make subtractions and change only its stage. -/
inductive Subtracted (view : RecordingView) (record : RecordingRecord) :
    SubmitStage → SubmitStage → List (Nat × Nat) → Prop
  | large (size : (measure view.state.byteLimit.toNat record.chunks 0 view.state.subtractions).1 =
        none) :
      Subtracted view record .measuring (.overflowing false)
        (measure view.state.byteLimit.toNat record.chunks 0 view.state.subtractions).2
  | sized (bytes : Nat)
      (size : (measure view.state.byteLimit.toNat record.chunks 0 view.state.subtractions).1 =
        some bytes) :
      Subtracted view record .measuring (.locking bytes)
        (measure view.state.byteLimit.toNat record.chunks 0 view.state.subtractions).2
  | tight (bytes : Nat) :
      Subtracted view record (.insideHealthy bytes) (.overflowing true)
        ((view.state.byteLimit.toNat, view.state.bytes) :: view.state.subtractions)

/-- The moves of the worker that change nothing else. -/
inductive Turns (view : RecordingView) : WriterStage → WriterStage → Prop
  | drain (queue : view.state.queue = []) (closing : view.state.closing = true) :
      Turns view .waiting .lingering
  | returned (record : RecordingRecord) : Turns view (.writing record) (.wrote record)
  | threw (record : RecordingRecord) : Turns view (.writing record) (.failing record)
  | done : Turns view .finishing .destroying
  | thrown : Turns view .finishing .failingFinish
  | destroyed : Turns view .destroying .cleaning

/-- The moves of the owner that change nothing else. -/
inductive Passes (view : RecordingView) : OwnerStage → OwnerStage → Prop
  | close : Passes view .idle .entered
  | unjoinable (joinable : view.state.joinable = false) : Passes view .entered .reading
  | awake (done : view.state.done = true) : Passes view .waiting .joining
  | finished (finished : view.status.finished = true) : Passes view .reading .deciding

/-- More subtractions were made. -/
def withSubtractions (view : RecordingView) (made : List (Nat × Nat)) : RecordingView :=
  { view with state := { view.state with subtractions := made } }

/-- What one transition can do. -/
inductive Step (view : RecordingView) : RecordingView → Prop
  | exchange (owner : view.state.owner = .exchanging) :
      Step view
        { view with
          writerBusy := true
          state := { view.state with owner := if view.writerBusy then .refused else .starting } }
  | refuse (owner : view.state.owner = .refused) :
      Step view { view.fail .writerBusy with state := { view.state with owner := .marking } }
  | mark (owner : view.state.owner = .marking) :
      Step view
        { view with
          status := { view.status with finished := true }
          state := { view.state with done := true, owner := .idle } }
  | started (owner : view.state.owner = .starting) :
      Step view
        { view with
          state := { view.state with worker := .waiting, joinable := true, owner := .idle } }
  | unstarted (owner : view.state.owner = .starting) :
      Step view { view with writerBusy := false, state := { view.state with owner := .gone } }
  | begin (record : RecordingRecord) (usable : view.usable = true) :
      Step view
        { view with
          status :=
            { view.status with
              submitted := RecordingStatus.counted view.status.submitted record.stream }
          state := { view.state with submits := view.state.submits ++ [⟨record, .entered⟩] } }
  | check (call : Nat) (record : RecordingRecord) (before after : SubmitStage)
      (current : view.state.submits[call]? = some ⟨record, before⟩)
      (checked : view.Checked before after) : Step view (view.toStage call record after)
  | subtract (call : Nat) (record : RecordingRecord) (before after : SubmitStage)
      (made : List (Nat × Nat)) (current : view.state.submits[call]? = some ⟨record, before⟩)
      (subtracted : view.Subtracted record before after made) :
      Step view ((view.withSubtractions made).toStage call record after)
  | lock (call : Nat) (record : RecordingRecord) (bytes : Nat)
      (current : view.state.submits[call]? = some ⟨record, .locking bytes⟩)
      (free : view.state.locked = false) :
      Step view
        ({ view with state := { view.state with locked := true } }.toStage call record (.inside bytes))
  | accept (call : Nat) (record : RecordingRecord) (bytes : Nat)
      (current : view.state.submits[call]? = some ⟨record, .insideHealthy bytes⟩)
      (unshut : view.state.closing = false)
      (room : view.state.queue.length < view.state.recordLimit.toNat)
      (fits : bytes ≤ subtractSize view.state.byteLimit.toNat view.state.bytes) :
      Step view
        ((view.withSubtractions
            ((view.state.byteLimit.toNat, view.state.bytes) :: view.state.subtractions)).accept
          call record bytes)
  | overflow (call : Nat) (record : RecordingRecord) (locked : Bool)
      (current : view.state.submits[call]? = some ⟨record, .overflowing locked⟩) :
      Step view ((view.fail .backlog).toStage call record (.rejecting locked))
  | reject (call : Nat) (record : RecordingRecord) (locked : Bool)
      (current : view.state.submits[call]? = some ⟨record, .rejecting locked⟩) :
      Step view (view.reject call record locked)
  | take (record : RecordingRecord) (rest : List RecordingRecord)
      (worker : view.state.worker = .waiting) (queue : view.state.queue = record :: rest) :
      Step view (view.take record rest)
  | turn (before after : WriterStage) (worker : view.state.worker = before)
      (turns : view.Turns before after) : Step view (view.toWorker after)
  | enterWrite (record : RecordingRecord) (worker : view.state.worker = .holding record) :
      Step view (view.enterSink (.writing record))
  | enterFinish (worker : view.state.worker = .lingering) (closing : view.state.closing = true) :
      Step view (view.enterSink .finishing)
  | count (record : RecordingRecord) (worker : view.state.worker = .wrote record) :
      Step view
        { view.toWorker .waiting with
          status :=
            { view.status with
              written := RecordingStatus.counted view.status.written record.stream } }
  | giveUp (record : RecordingRecord) (worker : view.state.worker = .failing record) :
      Step view
        { view.fail .storage with
          state := { view.state with worker := .lingering, lost := some record } }
  | abandon (worker : view.state.worker = .failingFinish) :
      Step view ((view.fail .storage).toWorker .destroying)
  | clean (worker : view.state.worker = .cleaning) :
      Step view
        { view with
          status := { view.status with finished := true }
          state :=
            { view.state with
              queue := []
              done := true
              worker := .releasing
              dropped := view.state.queue } }
  | release (worker : view.state.worker = .releasing) :
      Step view { view.toWorker .ended with writerBusy := false }
  | access (worker : view.state.worker = .finishing) : Step view view
  | blame (reason : RecordingFailure) (worker : view.state.worker = .finishing) :
      Step view (view.fail reason)
  | pass (before after : OwnerStage) (owner : view.state.owner = before)
      (passes : view.Passes before after) : Step view (view.toOwner after)
  | destroy (owner : view.state.owner = .idle) :
      Step view { view with state := { view.state with owner := .entered, dying := true } }
  | shut (owner : view.state.owner = .entered) (joinable : view.state.joinable = true) :
      Step view { view with state := { view.state with closing := true, owner := .waiting } }
  | timeout (owner : view.state.owner = .waiting) (running : view.state.done = false) :
      Step view
        ({ view.fail .shutdownTimeout with
            state := { view.state with joinable := false } }.closed false)
  | join (owner : view.state.owner = .joining) (ended : view.state.worker = .ended) :
      Step view { view with state := { view.state with joinable := false, owner := .reading } }
  | readRunning (owner : view.state.owner = .reading) (running : view.status.finished = false) :
      Step view (view.closed false)
  | decide (owner : view.state.owner = .deciding) :
      Step view (view.closed (view.status.failure = .none))

variable {view after : RecordingView}

/-- The construction is one of the listed steps. -/
theorem construct_step (moved : view.construct = some after) : view.Step after := by
  unfold construct at moved
  split at moved <;> rename_i owner <;> cases moved
  · exact .exchange owner
  · exact .refuse owner
  · exact .mark owner

/-- The start of the worker is one of the listed steps. -/
theorem start_step {threads : Bool} (moved : view.start threads = some after) : view.Step after := by
  unfold start at moved
  split at moved
  · rename_i owner
    split at moved <;> cases moved
    · exact .started owner
    · exact .unstarted owner
  · cases moved

/-- A call of `submit` begins with one of the listed steps. -/
theorem submit_step {record : RecordingRecord} (moved : view.submit record = some after) :
    view.Step after := by
  unfold submit at moved
  split at moved <;> cases moved
  rename_i possible
  rw [not_or, Bool.not_eq_false] at possible
  exact .begin record possible.2

/-- The measuring of a record is one of the listed steps, with its subtractions. -/
theorem toMeasured_step {call : Nat} {record : RecordingRecord}
    (current : view.state.submits[call]? = some ⟨record, .measuring⟩) :
    view.Step (view.toMeasured call record) := by
  unfold toMeasured
  dsimp only
  split <;> rename_i size
  · exact .subtract call record _ _ _ current (.large size)
  · exact .subtract call record _ _ _ current (.sized _ size)

/-- The check of the limits is one of the listed steps, with its subtraction. -/
theorem checkLimits_step {call bytes : Nat} {record : RecordingRecord}
    (current : view.state.submits[call]? = some ⟨record, .insideHealthy bytes⟩) :
    view.Step (view.checkLimits call record bytes) := by
  unfold checkLimits
  split
  · exact .check call record _ _ current (.full bytes)
  · rename_i room
    rw [not_or, Bool.not_eq_true, Nat.not_le] at room
    dsimp only
    split
    · exact .subtract call record _ _ _ current (.tight bytes)
    · rename_i fits
      exact .accept call record bytes current room.1 room.2 (Nat.not_lt.mp fits)

/-- Each access of a call of `submit` is one of the listed steps. -/
theorem advance_step {call : Nat} (moved : view.advance call = some after) : view.Step after := by
  unfold advance at moved
  split at moved
  · cases moved
  rename_i record stage current
  cases stage with
  | entered =>
      dsimp only at moved
      split at moved <;> cases moved
      · exact .check call record _ _ current (.healthy ‹_›)
      · exact .check call record _ _ current (.failed ‹_›)
  | healthy =>
      dsimp only at moved
      split at moved <;> cases moved
      · exact .check call record _ _ current (.ended ‹_›)
      · exact .check call record _ _ current (.active (eq_false_of_ne_true ‹_›))
  | measuring =>
      cases moved
      exact toMeasured_step current
  | locking bytes =>
      dsimp only at moved
      split at moved <;> cases moved
      exact .lock call record bytes current (eq_false_of_ne_true ‹_›)
  | inside bytes =>
      dsimp only at moved
      split at moved <;> cases moved
      · exact .check call record _ _ current (.healthyInside bytes ‹_›)
      · exact .check call record _ _ current (.failedInside bytes ‹_›)
  | insideHealthy bytes =>
      dsimp only at moved
      split at moved <;> cases moved
      · exact .check call record _ _ current (.endedInside bytes ‹_›)
      · exact checkLimits_step current
  | overflowing locked =>
      cases moved
      exact .overflow call record locked current
  | rejecting locked =>
      cases moved
      exact .reject call record locked current

/-- Each access of the worker is one of the listed steps. -/
theorem work_step (moved : view.work = some after) : view.Step after := by
  unfold work at moved
  split at moved <;> rename_i worker
  · split at moved
    · cases moved
    split at moved <;> rename_i queue
    · split at moved <;> cases moved
      exact .turn _ _ worker (.drain queue ‹_›)
    · cases moved
      exact .take _ _ worker queue
  · cases moved
    exact .enterWrite _ worker
  · cases moved
    exact .count _ worker
  · cases moved
    exact .giveUp _ worker
  · split at moved <;> cases moved
    rename_i ready
    exact .enterFinish worker ready.1
  · cases moved
    exact .abandon worker
  · cases moved
    exact .turn _ _ worker .destroyed
  · split at moved <;> cases moved
    exact .clean worker
  · cases moved
    exact .release worker
  all_goals cases moved

/-- A write of the sink is one of the listed steps. -/
theorem write_step {returned : Bool} (moved : view.write returned = some after) :
    view.Step after := by
  unfold write at moved
  split at moved <;> rename_i worker <;> cases moved
  cases returned with
  | false => exact .turn _ _ worker (.threw _)
  | true => exact .turn _ _ worker (.returned _)

/-- Each access of the sink's `finish` is one of the listed steps. -/
theorem finish_step {step : FinishStep} (moved : view.finish step = some after) :
    view.Step after := by
  unfold finish at moved
  split at moved
  · rename_i worker
    cases step with
    | proceed =>
        cases moved
        exact .access worker
    | fail reason =>
        cases moved
        exact .blame reason worker
    | done =>
        cases moved
        exact .turn _ _ worker .done
    | throw =>
        cases moved
        exact .turn _ _ worker .thrown
  · cases moved

/-- Each access of the owner is one of the listed steps. -/
theorem proceed_step (moved : view.proceed = some after) : view.Step after := by
  unfold proceed at moved
  split at moved <;> rename_i owner
  · split at moved
    · split at moved <;> cases moved
      exact .shut owner ‹_›
    · cases moved
      exact .pass _ _ owner (.unjoinable (eq_false_of_ne_true ‹_›))
  · split at moved <;> cases moved
    rename_i ready
    exact .pass _ _ owner (.awake ready.2)
  · split at moved <;> cases moved
    exact .join owner ‹_›
  · split at moved <;> cases moved
    · exact .pass _ _ owner (.finished ‹_›)
    · exact .readRunning owner (eq_false_of_ne_true ‹_›)
  · cases moved
    exact .decide owner
  · cases moved

/-- Every transition is one of the listed steps. -/
theorem next_step {move : RecordingMove} (moved : view.next move = some after) : view.Step after := by
  cases move with
  | construct => exact construct_step moved
  | start threads => exact start_step moved
  | submit record => exact submit_step moved
  | advance call => exact advance_step moved
  | work => exact work_step moved
  | write returned => exact write_step moved
  | finish step => exact finish_step moved
  | proceed => exact proceed_step moved
  | close =>
      change view.close = some after at moved
      unfold close at moved
      split at moved <;> cases moved
      exact .pass _ _ ‹_› .close
  | destroy =>
      change view.destroy = some after at moved
      unfold destroy at moved
      split at moved <;> cases moved
      exact .destroy ‹_›
  | timeout =>
      change view.timeout = some after at moved
      unfold timeout at moved
      split at moved <;> cases moved
      rename_i ready
      exact .timeout ready.1 ready.2.2

end RecordingView
end Vio
