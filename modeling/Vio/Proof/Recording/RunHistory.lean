import Vio.Library.History
import Vio.Library.PartialRun
import Vio.Proof.Recording.Steps

namespace Vio
open History

/-- The beginning of a call of `submit` or of `close`. -/
def RecordingEvent.call : RecordingEvent → Option RecordingEvent
  | .began record => some (.began record)
  | .closeCalled => some .closeCalled
  | _ => none

/-- The call that an action makes. -/
def RecordingAction.call {sink : RecordingSink} : RecordingAction sink → Option RecordingEvent
  | .submit record => some (.began record)
  | .close => some .closeCalled
  | _ => none

namespace Recording
variable {sink : RecordingSink} {recording next last : Recording sink}

/-- What an action is seen to do, read off the positions of the threads and the queue. -/
def seen (recording : Recording sink) (action : RecordingAction sink) (next : Recording sink) :
    List RecordingEvent :=
  match action with
  | .submit record => [.began record]
  | .advance stream =>
      match recording.submits stream with
      | none => []
      | some ⟨record, _⟩ =>
          if (next.submits record.stream).isSome then []
          else if next.queue = recording.queue then [.rejected record] else [.accepted record]
  | .write env =>
      match recording.worker with
      | .holding record => [.written record (sink.write env recording.sinkState record).2]
      | _ => []
  | .close => [.closeCalled]
  | .timeout => [.closed false]
  | .proceed =>
      if next.owner = .idle then
        [.closed (recording.owner = .deciding ∧ recording.status.failure = .none)]
      else []
  | .work | .finish _ => []

/-- A call of `submit` that is still in progress is seen to do nothing. -/
theorem seen_stays {stream : RecordingStream} {record : RecordingRecord} {stage : SubmitStage}
    (current : recording.submits stream = some ⟨record, stage⟩)
    (busy : (next.submits record.stream).isSome = true) :
    seen recording (.advance stream) next = [] := by
  simp only [seen, current, busy, if_true]

/-- A call of `submit` goes on record when it returns. -/
theorem advance_seen {stream : RecordingStream} (moved : recording.advance stream = some next) :
    next.history = seen recording (.advance stream) next ++ recording.history := by
  unfold advance at moved
  split at moved
  · cases moved
  rename_i record stage current
  cases stage with
  | entered | healthy | measuring | locking | inside | overflowing =>
      dsimp only at moved
      repeat' split at moved
      all_goals cases moved
      all_goals
        rw [seen_stays current (by simp [toStage, fail])]
        rfl
  | insideHealthy bytes =>
      dsimp only at moved
      repeat' split at moved
      all_goals cases moved
      · rw [seen_stays current (by simp [toStage])]
        rfl
      · rw [seen_stays current (by simp [toStage])]
        rfl
      · simp [seen, current, accept]
  | rejecting locked =>
      cases moved
      simp [seen, current, reject]

/-- The history grows by what an action is seen to do. -/
theorem next_history {action : RecordingAction sink} (moved : recording.next action = some next) :
    next.history = seen recording action next ++ recording.history := by
  cases action with
  | submit record =>
      change recording.submit record = some next at moved
      unfold submit at moved
      split at moved <;> cases moved
      rfl
  | advance stream => exact advance_seen moved
  | work =>
      change recording.work = some next at moved
      unfold work at moved
      repeat' split at moved
      all_goals cases moved
      all_goals rfl
  | write env =>
      change recording.write env = some next at moved
      unfold write at moved
      split at moved <;> cases moved
      rename_i holding
      rw [seen, holding]
      rfl
  | finish env =>
      change recording.finish env = some next at moved
      unfold finish at moved
      dsimp only at moved
      repeat' split at moved
      all_goals cases moved
      all_goals rfl
  | close =>
      change recording.close = some next at moved
      unfold close at moved
      split at moved <;> cases moved
      rfl
  | timeout =>
      change recording.timeout = some next at moved
      unfold timeout at moved
      split at moved <;> cases moved
      rfl
  | proceed =>
      change recording.proceed = some next at moved
      unfold proceed at moved
      repeat' split at moved
      all_goals cases moved
      all_goals simp [seen, closed, Recording.record, *]

/-- The history of a recording is what its run was seen to do. -/
theorem run_history {actions : List (RecordingAction sink)} (ran : recording.run actions = some last) :
    last.history = PartialRun.log Recording.next seen recording actions ++ recording.history :=
  PartialRun.history_log (·.history) (fun _ _ _ moved => next_history moved) ran

/-- An action does one thing at most. -/
theorem seen_single (action : RecordingAction sink) :
    seen recording action next = [] ∨ ∃ event, seen recording action next = [event] := by
  cases action with
  | submit record | close | timeout => exact .inr ⟨_, rfl⟩
  | work | finish env => exact .inl rfl
  | advance stream =>
      unfold seen
      dsimp only
      repeat' split
      all_goals first
        | exact .inl rfl
        | exact .inr ⟨_, rfl⟩
  | write env | proceed =>
      unfold seen
      dsimp only
      split
      all_goals first
        | exact .inl rfl
        | exact .inr ⟨_, rfl⟩

/-- The calls among what an action is seen to do are the call that it makes. -/
theorem seen_calls (action : RecordingAction sink) :
    (seen recording action next).filterMap RecordingEvent.call = action.call.toList := by
  cases action with
  | submit record | close | timeout | work | finish env => rfl
  | advance stream =>
      unfold seen
      dsimp only
      repeat' split
      all_goals rfl
  | write env | proceed =>
      unfold seen
      dsimp only
      split <;> rfl

/-- The calls on record are those that the actions of the run make, in their order. -/
theorem run_calls {actions : List (RecordingAction sink)} (ran : recording.run actions = some last) :
    heard RecordingEvent.call last.history =
      heard RecordingEvent.call recording.history ++ actions.filterMap RecordingAction.call := by
  refine PartialRun.traced (fun seen state => heard RecordingEvent.call state.history =
    heard RecordingEvent.call recording.history ++ seen.filterMap RecordingAction.call) ?_ ran (by simp)
  intro earlier before action after moved held
  rw [next_history moved, heard, List.filterMap_append, seen_calls, List.reverse_append, List.filterMap_append,
    ← List.append_assoc, ← held]
  cases called : action.call <;> simp [called, heard]

end Recording
end Vio
