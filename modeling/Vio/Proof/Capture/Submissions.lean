import Vio.Proof.Recording.Shutdown

namespace Vio
open History

namespace Recording
variable {sink : RecordingSink} {recording next : Recording sink}

/-- The record of the call on each stream. -/
def calls (recording : Recording sink) (stream : RecordingStream) : Option RecordingRecord :=
  (recording.submits stream).map Submit.record

/-- What a step does to the calls, the accepted records and the offered records. -/
inductive Traffic (recording next : Recording sink) : Prop
  | silent (accepted : acceptedRecords next.history = acceptedRecords recording.history)
      (offered : offeredRecords next.history = offeredRecords recording.history)
      (calls : next.calls = recording.calls)
  | began (record : RecordingRecord) (idle : recording.submits record.stream = none)
      (accepted : acceptedRecords next.history = acceptedRecords recording.history)
      (offered : offeredRecords next.history = offeredRecords recording.history ++ [record])
      (calls : next.calls = Function.update recording.calls record.stream (some record))
  | accepted (record : RecordingRecord) (stage : SubmitStage)
      (current : recording.submits record.stream = some ⟨record, stage⟩) (admitted : stage.Admitted)
      (accepted : acceptedRecords next.history = acceptedRecords recording.history ++ [record])
      (offered : offeredRecords next.history = offeredRecords recording.history)
      (calls : next.calls = Function.update recording.calls record.stream none)
  | rejected (record : RecordingRecord) (locked : Bool)
      (current : recording.submits record.stream = some ⟨record, .rejecting locked⟩)
      (accepted : acceptedRecords next.history = acceptedRecords recording.history)
      (offered : offeredRecords next.history = offeredRecords recording.history)
      (calls : next.calls = Function.update recording.calls record.stream none)

/-- The records of the open calls change with the call of one stream. -/
theorem calls_update {submits : RecordingStream → Option Submit} {stream : RecordingStream}
    {submit : Option Submit} :
    (fun other => (Function.update submits stream submit other).map Submit.record) =
      Function.update (fun other => (submits other).map Submit.record) stream
        (submit.map Submit.record) := by
  funext other
  by_cases same : other = stream
  · subst same
    rw [Function.update_self, Function.update_self]
  · rw [Function.update_of_ne same, Function.update_of_ne same]

/-- A call that moves on keeps its record. -/
theorem calls_toStage {record : RecordingRecord} {before : SubmitStage} (after : SubmitStage)
    (current : recording.submits record.stream = some ⟨record, before⟩) :
    (recording.toStage record after).calls = recording.calls := by
  funext stream
  by_cases same : stream = record.stream
  · subst same
    simp [calls, toStage, current]
  · simp [calls, toStage, Function.update_of_ne same]

/-- Every step begins one call, ends one, or leaves the calls as they are. -/
theorem Step.traffic (step : recording.Step next) : recording.Traffic next := by
  cases step with
  | begin record idle =>
      exact .began record idle (heard_cons_none rfl) (heard_cons_some rfl) calls_update
  | check record before after current checked =>
      exact .silent rfl rfl (calls_toStage after current)
  | lock record bytes current => exact .silent rfl rfl (calls_toStage (.inside bytes) current)
  | overflow record locked current =>
      exact .silent rfl rfl (calls_toStage (.rejecting locked) current)
  | accept record bytes current =>
      exact .accepted record _ current trivial (heard_cons_some rfl) (heard_cons_none rfl)
        calls_update
  | reject record locked current =>
      exact .rejected record locked current (heard_cons_none rfl) (heard_cons_none rfl) calls_update
  | write | close | timeout | readRunning | decide =>
      exact .silent (heard_cons_none rfl) (heard_cons_none rfl) rfl
  | take | drain | count | giveUp | linger | finishAccess | finishFail | finishDone | finishThrow
  | abandon | clean | release | shut | detached | awake | join | readFinished =>
      exact .silent rfl rfl rfl

/-- Only `submit` offers a record. -/
theorem next_offered {action : RecordingAction sink} (moved : recording.next action = some next)
    (other : ∀ record, action ≠ .submit record) :
    offeredRecords next.history = offeredRecords recording.history := by
  cases action with
  | submit record => exact absurd rfl (other record)
  | advance stream =>
      change recording.advance stream = some next at moved
      unfold advance at moved
      repeat' split at moved
      all_goals cases moved
      all_goals rfl
  | work =>
      change recording.work = some next at moved
      unfold work at moved
      repeat' split at moved
      all_goals cases moved
      all_goals rfl
  | write env =>
      change recording.write env = some next at moved
      unfold write at moved
      split at moved <;> cases moved
      exact heard_cons_none rfl
  | finish env =>
      change recording.finish env = some next at moved
      unfold finish at moved
      split at moved
      · dsimp only at moved
        split at moved <;> cases moved <;> rfl
      · cases moved
  | close =>
      change recording.close = some next at moved
      unfold close at moved
      split at moved <;> cases moved
      exact heard_cons_none rfl
  | timeout =>
      change recording.timeout = some next at moved
      unfold timeout at moved
      split at moved <;> cases moved
      exact heard_cons_none rfl
  | proceed =>
      change recording.proceed = some next at moved
      unfold proceed at moved
      repeat' split at moved
      all_goals cases moved
      all_goals rfl

theorem submit_offered {record : RecordingRecord} (moved : recording.submit record = some next) :
    offeredRecords next.history = offeredRecords recording.history ++ [record] := by
  unfold submit at moved
  split at moved <;> cases moved
  exact heard_cons_some rfl

/-- A call that began in a bad situation is never admitted, because a bad situation leaves the
recording inactive. -/
structure Guarded (status : RecordingStatus) (submit : Option Submit) (bad : Prop) : Prop where
  entered : ∀ record, submit = some ⟨record, .entered⟩ → bad → status.Inactive
  healthy : ∀ record, submit = some ⟨record, .healthy⟩ → bad → status.finished = true
  admitted : ∀ record stage, submit = some ⟨record, stage⟩ → stage.Admitted → ¬ bad

theorem guarded_idle (status : RecordingStatus) (bad : Prop) : Guarded status none bad :=
  ⟨by simp, by simp, by simp⟩

theorem Guarded.weaken {status : RecordingStatus} {submit : Option Submit} {bad worse : Prop}
    (guarded : Guarded status submit bad) (weaker : worse → bad) : Guarded status submit worse :=
  ⟨fun record same wrong => guarded.entered record same (weaker wrong),
    fun record same wrong => guarded.healthy record same (weaker wrong),
    fun record stage same admitted wrong =>
      guarded.admitted record stage same admitted (weaker wrong)⟩

/-- A call is guarded at each stage by what the stage has checked. -/
theorem Guarded.busy {status : RecordingStatus} {record : RecordingRecord} {stage : SubmitStage}
    {bad : Prop} (entered : stage = .entered → bad → status.Inactive)
    (healthy : stage = .healthy → bad → status.finished = true)
    (admitted : stage.Admitted → ¬ bad) : Guarded status (some ⟨record, stage⟩) bad := by
  refine ⟨?_, ?_, ?_⟩
  · intro other same
    cases same
    exact entered rfl
  · intro other same
    cases same
    exact healthy rfl
  · intro other stage same lawful
    cases same
    exact admitted lawful

/-- A step with the same call on the stream. -/
theorem Guarded.keep {stream : RecordingStream} {bad : Prop} (step : recording.Step next)
    (same : next.submits stream = recording.submits stream)
    (guarded : Guarded recording.status (recording.submits stream) bad) :
    Guarded next.status (next.submits stream) bad := by
  rw [same]
  exact ⟨fun record entered wrong => step.inactive (guarded.entered record entered wrong),
    fun record healthy wrong => step.latched.2 (guarded.healthy record healthy wrong),
    guarded.admitted⟩

/-- A check that lets a call on keeps it guarded. -/
theorem Guarded.check {record : RecordingRecord} {before after : SubmitStage} {bad : Prop}
    (guarded : Guarded recording.status (some ⟨record, before⟩) bad)
    (checked : recording.Check record before after) :
    Guarded recording.status (some ⟨record, after⟩) bad := by
  cases checked with
  | failed | failedInside | ended | endedInside | large | full =>
      exact .busy (by simp) (by simp) (by simp [SubmitStage.Admitted])
  | healthy failure =>
      refine .busy (by simp) (fun _ wrong => ?_) (by simp [SubmitStage.Admitted])
      exact (guarded.entered record rfl wrong).resolve_left (not_not.mpr failure)
  | active finished =>
      refine .busy (by simp) (by simp) (fun _ wrong => ?_)
      have past := guarded.healthy record rfl wrong
      rw [finished] at past
      cases past
  | measured | healthyInside =>
      exact .busy (by simp) (by simp) (fun _ => guarded.admitted record _ rfl trivial)

/-- Every step keeps the guard, where a call only begins in a bad situation that is inactive. -/
theorem Step.guarded {stream : RecordingStream} {bad : Prop} (step : recording.Step next)
    (begins : recording.submits stream = none → bad → recording.status.Inactive)
    (guarded : Guarded recording.status (recording.submits stream) bad) :
    Guarded next.status (next.submits stream) bad := by
  have moved := step
  -- A step on another stream leaves this one.
  have elsewhere {record : RecordingRecord} {submit : Option Submit} (other : stream ≠ record.stream)
      (same : next.submits = Function.update recording.submits record.stream submit) :
      Guarded next.status (next.submits stream) bad := by
    refine guarded.keep moved ?_
    rw [same, Function.update_of_ne other]
  cases step with
  | begin record idle =>
      by_cases same : stream = record.stream
      · subst same
        change Guarded _ (Function.update recording.submits record.stream _ record.stream) _
        rw [Function.update_self]
        exact .busy (fun _ => begins idle) (by simp) (by simp [SubmitStage.Admitted])
      · exact elsewhere same rfl
  | check record before after current checked =>
      by_cases same : stream = record.stream
      · subst same
        change Guarded _ (Function.update recording.submits record.stream _ record.stream) _
        rw [Function.update_self]
        rw [current] at guarded
        exact guarded.check checked
      · exact elsewhere same rfl
  | lock record bytes current free =>
      by_cases same : stream = record.stream
      · subst same
        change Guarded _ (Function.update recording.submits record.stream _ record.stream) _
        rw [Function.update_self]
        rw [current] at guarded
        exact .busy (by simp) (by simp) (fun _ => guarded.admitted record _ rfl trivial)
      · exact elsewhere same rfl
  | overflow record locked current =>
      by_cases same : stream = record.stream
      · subst same
        change Guarded _ (Function.update recording.submits record.stream _ record.stream) _
        rw [Function.update_self]
        exact .busy (by simp) (by simp) (by simp [SubmitStage.Admitted])
      · exact elsewhere same rfl
  | accept record | reject record =>
      by_cases same : stream = record.stream
      · subst same
        change Guarded _ (Function.update recording.submits record.stream _ record.stream) _
        rw [Function.update_self]
        exact guarded_idle _ _
      · exact elsewhere same rfl
  | take | drain | count | giveUp | linger | write | finishAccess | finishFail | finishDone
  | finishThrow | abandon | clean | release | close | shut | detached | timeout | awake | join
  | readFinished | readRunning | decide => exact guarded.keep moved rfl

end Recording
end Vio
