import Mathlib.Tactic.Common
import Vio.Construction.Recording

namespace Vio

namespace Recording
variable {sink : RecordingSink}

/-- The checks that one stage of `submit` makes on the way to the next one. -/
inductive Check (recording : Recording sink) (record : RecordingRecord) :
    SubmitStage → SubmitStage → Prop
  | failed (failure : recording.status.failure ≠ .none) :
      Check recording record .entered (.rejecting false)
  | healthy (failure : recording.status.failure = .none) : Check recording record .entered .healthy
  | ended (finished : recording.status.finished = true) :
      Check recording record .healthy (.rejecting false)
  | active (finished : recording.status.finished = false) :
      Check recording record .healthy .measuring
  | large (size : measure recording.byteLimit record.chunks 0 = none) :
      Check recording record .measuring (.overflowing false)
  | measured (bytes : Nat) (size : measure recording.byteLimit record.chunks 0 = some bytes) :
      Check recording record .measuring (.locking bytes)
  | failedInside (bytes : Nat) (failure : recording.status.failure ≠ .none) :
      Check recording record (.inside bytes) (.rejecting true)
  | healthyInside (bytes : Nat) (failure : recording.status.failure = .none) :
      Check recording record (.inside bytes) (.insideHealthy bytes)
  | endedInside (bytes : Nat) (finished : recording.status.finished = true) :
      Check recording record (.insideHealthy bytes) (.rejecting true)
  | full (bytes : Nat) : Check recording record (.insideHealthy bytes) (.overflowing true)

/-- Each call in progress belongs to the stream of its record. -/
def Keyed (recording : Recording sink) : Prop :=
  ∀ stream submit, recording.submits stream = some submit → submit.record.stream = stream

/-- What one transition can do. -/
inductive Step (recording : Recording sink) : Recording sink → Prop
  | begin (record : RecordingRecord) (idle : recording.submits record.stream = none) :
      Step recording
        (({ recording with
            status :=
              { recording.status with
                submitted := RecordingStatus.counted recording.status.submitted record.stream }
          }).toStage record .entered |>.record (.began record))
  | check (record : RecordingRecord) (before after : SubmitStage)
      (current : recording.submits record.stream = some ⟨record, before⟩)
      (checked : recording.Check record before after) :
      Step recording (recording.toStage record after)
  | lock (record : RecordingRecord) (bytes : Nat)
      (current : recording.submits record.stream = some ⟨record, .locking bytes⟩)
      (free : recording.holder = none) :
      Step recording
        { recording.toStage record (.inside bytes) with holder := some record.stream }
  | overflow (record : RecordingRecord) (locked : Bool)
      (current : recording.submits record.stream = some ⟨record, .overflowing locked⟩) :
      Step recording ((recording.fail .backlog).toStage record (.rejecting locked))
  | accept (record : RecordingRecord) (bytes : Nat)
      (current : recording.submits record.stream = some ⟨record, .insideHealthy bytes⟩)
      (active : recording.status.finished = false) (unshut : recording.closing = false)
      (room : recording.queue.length < recording.recordLimit)
      (fits : bytes ≤ recording.byteLimit - recording.bytes) :
      Step recording (recording.accept record bytes)
  | reject (record : RecordingRecord) (locked : Bool)
      (current : recording.submits record.stream = some ⟨record, .rejecting locked⟩) :
      Step recording (recording.reject record locked)
  | take (record : RecordingRecord) (rest : List RecordingRecord)
      (worker : recording.worker = .waiting) (free : recording.holder = none)
      (queue : recording.queue = record :: rest) :
      Step recording
        { recording with
          queue := rest
          bytes := recording.bytes - record.size
          worker := .holding record }
  | drain (worker : recording.worker = .waiting) (free : recording.holder = none)
      (queue : recording.queue = []) (closing : recording.closing = true) :
      Step recording { recording with worker := .lingering }
  | count (record : RecordingRecord) (worker : recording.worker = .wrote record) :
      Step recording
        { recording with
          status :=
            { recording.status with
              written := RecordingStatus.counted recording.status.written record.stream }
          worker := .waiting }
  | giveUp (worker : recording.worker = .failing) :
      Step recording { recording.fail .storage with worker := .lingering }
  | linger (worker : recording.worker = .lingering) (free : recording.holder = none)
      (closing : recording.closing = true) : Step recording { recording with worker := .finishing }
  | write (env : sink.Env) (record : RecordingRecord) (worker : recording.worker = .holding record) :
      Step recording
        { recording with
          sinkState := (sink.write env recording.sinkState record).1
          worker :=
            if (sink.write env recording.sinkState record).2 then .wrote record else .failing
          history :=
            .written record (sink.write env recording.sinkState record).2 :: recording.history }
  | finishAccess (env : sink.Env) (worker : recording.worker = .finishing)
      (same : (sink.finish env recording.status recording.sinkState).2 = .proceed) :
      Step recording
        { recording with
          sinkState := (sink.finish env recording.status recording.sinkState).1 }
  | finishFail (env : sink.Env) (reason : RecordingFailure) (worker : recording.worker = .finishing)
      (same : (sink.finish env recording.status recording.sinkState).2 = .fail reason) :
      Step recording
        (({ recording with
            sinkState := (sink.finish env recording.status recording.sinkState).1 }).fail reason)
  | finishDone (env : sink.Env) (worker : recording.worker = .finishing)
      (same : (sink.finish env recording.status recording.sinkState).2 = .done) :
      Step recording
        { recording with
          sinkState := (sink.finish env recording.status recording.sinkState).1
          worker := .cleaning }
  | finishThrow (env : sink.Env) (worker : recording.worker = .finishing)
      (same : (sink.finish env recording.status recording.sinkState).2 = .throw) :
      Step recording
        { recording with
          sinkState := (sink.finish env recording.status recording.sinkState).1
          worker := .failingFinish }
  | abandon (worker : recording.worker = .failingFinish) :
      Step recording { recording.fail .storage with worker := .cleaning }
  | clean (worker : recording.worker = .cleaning) (free : recording.holder = none) :
      Step recording
        { recording with
          queue := []
          done := true
          status := { recording.status with finished := true }
          worker := .releasing }
  | release (worker : recording.worker = .releasing) :
      Step recording { recording with worker := .ended }
  | close (owner : recording.owner = .idle) :
      Step recording ({ recording with owner := .entered }.record .closeCalled)
  | shut (owner : recording.owner = .entered) (joinable : recording.joinable = true)
      (free : recording.holder = none) :
      Step recording { recording with closing := true, owner := .waiting }
  | detached (owner : recording.owner = .entered) (joinable : recording.joinable = false) :
      Step recording { recording with owner := .reading }
  | timeout (owner : recording.owner = .waiting) (running : recording.done = false) :
      Step recording ({ recording.fail .shutdownTimeout with joinable := false }.closed false)
  | awake (owner : recording.owner = .waiting) (done : recording.done = true) :
      Step recording { recording with owner := .joining }
  | join (owner : recording.owner = .joining) (ended : recording.worker = .ended) :
      Step recording { recording with joinable := false, owner := .reading }
  | readFinished (owner : recording.owner = .reading) (finished : recording.status.finished = true) :
      Step recording { recording with owner := .deciding }
  | readRunning (owner : recording.owner = .reading) (running : recording.status.finished = false) :
      Step recording (recording.closed false)
  | decide (owner : recording.owner = .deciding) :
      Step recording (recording.closed (recording.status.failure = .none))

variable {recording next : Recording sink}

/-- A call of `submit` begins with one of the listed steps. -/
theorem submit_step {record : RecordingRecord} (moved : recording.submit record = some next) :
    recording.Step next := by
  unfold submit at moved
  split at moved
  · cases moved
  rename_i idle
  rw [not_or, not_not] at idle
  cases moved
  exact .begin record idle.2

/-- Each access of a call of `submit` is one of the listed steps. -/
theorem advance_step (keyed : recording.Keyed) {stream : RecordingStream}
    (moved : recording.advance stream = some next) : recording.Step next := by
  unfold advance at moved
  split at moved
  · cases moved
  rename_i record stage current
  obtain rfl := keyed stream _ current
  cases stage with
  | entered =>
      dsimp only at moved
      split at moved <;> cases moved
      · exact .check record _ _ current (.healthy ‹_›)
      · exact .check record _ _ current (.failed ‹_›)
  | healthy =>
      dsimp only at moved
      split at moved <;> cases moved
      · exact .check record _ _ current (.ended ‹_›)
      · exact .check record _ _ current (.active (eq_false_of_ne_true ‹_›))
  | measuring =>
      dsimp only at moved
      split at moved <;> cases moved
      · exact .check record _ _ current (.large ‹_›)
      · exact .check record _ _ current (.measured _ ‹_›)
  | locking bytes =>
      dsimp only at moved
      split at moved <;> cases moved
      exact .lock record bytes current ‹_›
  | inside bytes =>
      dsimp only at moved
      split at moved <;> cases moved
      · exact .check record _ _ current (.healthyInside bytes ‹_›)
      · exact .check record _ _ current (.failedInside bytes ‹_›)
  | insideHealthy bytes =>
      dsimp only at moved
      split at moved
      · cases moved
        exact .check record _ _ current (.endedInside bytes ‹_›)
      rename_i active
      split at moved <;> cases moved
      · exact .check record _ _ current (.full bytes)
      · rename_i room
        simp only [not_or, Bool.not_eq_true, Nat.not_le, Nat.not_lt] at room active
        exact .accept record bytes current active room.1 room.2.1 room.2.2
  | overflowing locked =>
      cases moved
      exact .overflow record locked current
  | rejecting locked =>
      cases moved
      exact .reject record locked current

/-- Each access of the worker is one of the listed steps. -/
theorem work_step (moved : recording.work = some next) : recording.Step next := by
  unfold work at moved
  split at moved
  · rename_i worker
    split at moved
    · rename_i free
      split at moved
      · split at moved <;> cases moved
        exact .drain worker free ‹_› ‹_›
      · cases moved
        exact .take _ _ worker free ‹_›
    · cases moved
  · cases moved
    exact .count _ ‹_›
  · cases moved
    exact .giveUp ‹_›
  · rename_i worker
    split at moved <;> cases moved
    rename_i ready
    exact .linger worker ready.1 ready.2
  · cases moved
    exact .abandon ‹_›
  · rename_i worker
    split at moved <;> cases moved
    exact .clean worker ‹_›
  · cases moved
    exact .release ‹_›
  all_goals cases moved

theorem write_step {env : sink.Env} (moved : recording.write env = some next) :
    recording.Step next := by
  unfold write at moved
  split at moved <;> cases moved
  exact .write env _ ‹_›

/-- Each access of the sink's `finish` is one of the listed steps. -/
theorem finish_step {env : sink.Env} (moved : recording.finish env = some next) :
    recording.Step next := by
  unfold finish at moved
  split at moved
  · rename_i worker
    dsimp only at moved
    split at moved <;> rename_i same <;> cases moved
    · exact .finishAccess env worker same
    · exact .finishFail env _ worker same
    · exact .finishDone env worker same
    · exact .finishThrow env worker same
  · cases moved

/-- A `close` that runs out of time is one of the listed steps. -/
theorem timeout_step (moved : recording.timeout = some next) : recording.Step next := by
  unfold timeout at moved
  split at moved <;> cases moved
  rename_i ready
  exact .timeout ready.1 ready.2.2

/-- Each access of `close` is one of the listed steps. -/
theorem proceed_step (moved : recording.proceed = some next) : recording.Step next := by
  unfold proceed at moved
  split at moved <;> rename_i owner
  · cases moved
  · split at moved
    · split at moved <;> cases moved
      exact .shut owner ‹_› ‹_›
    · cases moved
      exact .detached owner (eq_false_of_ne_true ‹_›)
  · split at moved <;> cases moved
    rename_i ready
    exact .awake owner ready.2
  · split at moved <;> cases moved
    exact .join owner ‹_›
  · split at moved <;> cases moved
    · exact .readFinished owner ‹_›
    · exact .readRunning owner (eq_false_of_ne_true ‹_›)
  · cases moved
    exact .decide owner

/-- Every transition is one of the listed steps. -/
theorem next_step (keyed : recording.Keyed) {action : RecordingAction sink}
    (moved : recording.next action = some next) : recording.Step next := by
  cases action with
  | submit record => exact submit_step moved
  | advance stream => exact advance_step keyed moved
  | work => exact work_step moved
  | write env => exact write_step moved
  | finish env => exact finish_step moved
  | close =>
      change recording.close = some next at moved
      unfold close at moved
      split at moved <;> cases moved
      exact .close ‹_›
  | timeout => exact timeout_step moved
  | proceed => exact proceed_step moved

/-- A step changes the call of one stream at most, and it keeps the record of that call. -/
theorem Step.submits (step : recording.Step next) :
    next.submits = recording.submits ∨ ∃ stream submit,
      next.submits = Function.update recording.submits stream submit ∧
        ∀ entry, submit = some entry → entry.record.stream = stream := by
  cases step with
  | begin record | check record | lock record | overflow record =>
      exact .inr ⟨record.stream, _, rfl, fun _ same => by cases same; rfl⟩
  | accept record | reject record =>
      exact .inr ⟨record.stream, none, rfl, fun _ same => by cases same⟩
  | take | drain | count | giveUp | linger | write | finishAccess | finishFail | finishDone
  | finishThrow | abandon | clean | release | close | shut | detached | timeout | awake | join
  | readFinished | readRunning | decide => exact .inl rfl

theorem Step.limits (step : recording.Step next) :
    next.byteLimit = recording.byteLimit ∧ next.recordLimit = recording.recordLimit := by
  cases step <;> exact ⟨rfl, rfl⟩

/-- A call stays with the stream of its record. -/
theorem Keyed.step (keyed : recording.Keyed) (step : recording.Step next) : next.Keyed := by
  intro stream submit current
  rcases step.submits with same | ⟨changed, entry, same, law⟩
  · rw [same] at current
    exact keyed stream submit current
  · rw [same] at current
    by_cases here : stream = changed
    · subst here
      rw [Function.update_self] at current
      exact law submit current
    · rw [Function.update_of_ne here] at current
      exact keyed stream submit current

end Recording
end Vio
