import Vio.Proof.Recording.CompleteRecording
import Vio.Proof.Recording.RunHistory

namespace Vio
open History

/-- A call of `close` is separate from the calls of `submit`. -/
theorem Separated.cons {event : RecordingEvent} {history : List RecordingEvent}
    (separated : Separated history)
    (closes : event = .closeCalled → ∀ stream, ¬ Unreturned stream history)
    (begins : ∀ record, event = .began record → .closeCalled ∉ history) :
    Separated (event :: history) := by
  intro newer older split
  cases newer with
  | nil =>
      obtain ⟨same, rfl⟩ := List.cons.inj split
      exact ⟨closes same, fun record => List.not_mem_nil⟩
  | cons newest newer =>
      obtain ⟨rfl, rest⟩ := List.cons.inj split
      obtain ⟨returned, none⟩ := separated newer older rest
      refine ⟨returned, fun record member => ?_⟩
      rcases List.mem_cons.mp member with same | member
      · refine begins record same.symm ?_
        rw [rest]
        exact List.mem_append_right _ List.mem_cons_self
      · exact none record member

theorem separated_nil : Separated [] := by
  intro newer older split
  cases newer <;> cases split

namespace Recording
variable {sink : RecordingSink} {recording next : Recording sink}

/-- A call that has not returned is in progress. -/
def Served (recording : Recording sink) : Prop :=
  ∀ stream, recording.submits stream = none → ¬ Unreturned stream recording.history

/-- A call is in progress from its beginning to its return. -/
theorem Served.step (step : recording.Step next) (served : recording.Served) : next.Served := by
  have quiet {event : RecordingEvent} (silent : ∀ stream, ¬ event.Begins stream)
      (stream : RecordingStream) (idle : recording.submits stream = none) :
      ¬ Unreturned stream (event :: recording.history) := by
    intro unreturned
    rcases since_cons_iff.mp unreturned with begins | ⟨_, earlier⟩
    · exact silent stream begins
    · exact served stream idle earlier
  have kept {record : RecordingRecord} {stage : SubmitStage} (busy : recording.submits record.stream ≠ none)
      (stream : RecordingStream)
      (idle : Function.update recording.submits record.stream (some ⟨record, stage⟩) stream = none) :
      ¬ Unreturned stream recording.history := by
    by_cases same : stream = record.stream
    · rw [same, Function.update_self] at idle
      cases idle
    · rw [Function.update_of_ne same] at idle
      exact served stream idle
  have ended {record : RecordingRecord} {event : RecordingEvent}
      (returns : event = .accepted record ∨ event = .rejected record) (stream : RecordingStream)
      (idle : Function.update recording.submits record.stream none stream = none) :
      ¬ Unreturned stream (event :: recording.history) := by
    intro unreturned
    rcases since_cons_iff.mp unreturned with ⟨began, begins, _⟩ | ⟨open', earlier⟩
    · rcases returns with same | same <;> rw [same] at begins <;> cases begins
    · by_cases same : stream = record.stream
      · exact open' ⟨record, returns, same.symm⟩
      · rw [Function.update_of_ne same] at idle
        exact served stream idle earlier
  cases step with
  | begin record idle =>
      intro stream idle' unreturned
      change Function.update recording.submits record.stream _ stream = none at idle'
      by_cases same : stream = record.stream
      · rw [same, Function.update_self] at idle'
        cases idle'
      · rw [Function.update_of_ne same] at idle'
        rcases since_cons_iff.mp unreturned with ⟨began, begins, on⟩ | ⟨_, earlier⟩
        · cases begins
          exact same on.symm
        · exact served stream idle' earlier
  | check record before after current | overflow record locked current =>
      exact kept (by rw [current]; exact Option.some_ne_none _)
  | lock record bytes current => exact kept (by rw [current]; exact Option.some_ne_none _)
  | accept record => exact ended (.inl rfl)
  | reject record => exact ended (.inr rfl)
  | write | close | timeout | readRunning | decide =>
      exact quiet (by rintro _ ⟨_, same, _⟩; cases same)
  | take | drain | count | giveUp | linger | finishAccess | finishFail | finishDone | finishThrow
  | abandon | clean | release | shut | detached | awake | join | readFinished => exact served

/-- Neither a call of `submit` nor one of `close` begins. -/
def Quiet (before after : List RecordingEvent) : Prop :=
  after = before ∨ ∃ event, after = event :: before ∧ (∀ record, event ≠ .began record) ∧
    event ≠ .closeCalled

theorem Quiet.unclosed {before after : List RecordingEvent} (quiet : Quiet before after) :
    after ≠ .closeCalled :: before := by
  rcases quiet with same | ⟨event, same, _, other⟩ <;> rw [same]
  · exact fun equal => absurd (congrArg List.length equal) (Nat.ne_of_lt (Nat.lt_succ_self _))
  · exact fun equal => other (List.cons.inj equal).1

/-- An access that makes no call leaves the calls on record. -/
theorem quiet_next {action : RecordingAction sink} (uncalled : action.call = none)
    (moved : recording.next action = some next) : Quiet recording.history next.history := by
  have calls := @seen_calls sink recording next action
  have history := next_history moved
  rw [uncalled] at calls
  rcases @seen_single sink recording next action with none | ⟨event, only⟩
  · rw [none] at history
    exact .inl history
  · rw [only] at history calls
    refine .inr ⟨event, history, fun record same => ?_, fun same => ?_⟩ <;> rw [same] at calls <;> cases calls

theorem work_submits (moved : recording.work = some next) : next.submits = recording.submits := by
  unfold work at moved
  repeat' split at moved
  all_goals cases moved
  all_goals rfl

theorem proceed_submits (moved : recording.proceed = some next) : next.submits = recording.submits := by
  unfold proceed at moved
  repeat' split at moved
  all_goals cases moved
  all_goals rfl

theorem timeout_submits (moved : recording.timeout = some next) : next.submits = recording.submits := by
  unfold timeout at moved
  split at moved <;> cases moved
  rfl

/-- Where no call begins, none is in progress that was not before. -/
theorem Step.calls (step : recording.Step next) (quiet : Quiet recording.history next.history)
    {stream : RecordingStream} (busy : next.submits stream ≠ none) :
    recording.submits stream ≠ none := by
  have kept {record : RecordingRecord} {submit : Option Submit}
      (here : recording.submits record.stream ≠ none)
      (busy : Function.update recording.submits record.stream submit stream ≠ none) :
      recording.submits stream ≠ none := by
    by_cases same : stream = record.stream
    · rw [same]
      exact here
    · rw [Function.update_of_ne same] at busy
      exact busy
  cases step with
  | begin record =>
      rcases quiet with same | ⟨event, same, none, _⟩
      · exact absurd (congrArg List.length same) (Nat.ne_of_gt (Nat.lt_succ_self _))
      · exact absurd (List.cons.inj same).1.symm (none record)
  | check record before after current | overflow record locked current =>
      exact kept (by rw [current]; exact Option.some_ne_none _) busy
  | lock record bytes current | accept record bytes current | reject record locked current =>
      exact kept (by rw [current]; exact Option.some_ne_none _) busy
  | write | close | timeout | readRunning | decide | take | drain | count | giveUp | linger
  | finishAccess | finishFail | finishDone | finishThrow | abandon | clean | release | shut
  | detached | awake | join | readFinished => exact busy

/-- Only a call of `close` takes an idle owner on. -/
theorem Step.idle (step : recording.Step next) (owner : recording.owner = .idle)
    (other : next.history ≠ .closeCalled :: recording.history) : next.owner = .idle := by
  cases step with
  | close => exact absurd rfl other
  | shut waiting | detached waiting | timeout waiting | awake waiting | join waiting
  | readFinished waiting | readRunning waiting | decide waiting =>
      rw [owner] at waiting
      cases waiting
  | begin | check | lock | overflow | accept | reject | take | drain | count | giveUp | linger | write
  | finishAccess | finishFail | finishDone | finishThrow | abandon | clean | release => exact owner

/-- A call of `close` that returned leaves no writer to join. -/
structure Shut (recording : Recording sink) : Prop where
  reading : recording.owner = .reading ∨ recording.owner = .deciding → recording.joinable = false
  returned : .closeCalled ∈ recording.history → recording.owner = .idle → recording.joinable = false

/-- `close` joins the writer, or detaches from it, before it returns. -/
theorem Shut.step (step : recording.Step next) (shut : recording.Shut) : next.Shut := by
  cases step with
  | begin | accept | reject | write =>
      refine ⟨shut.reading, fun called => shut.returned ?_⟩
      rcases List.mem_cons.mp called with same | earlier
      · cases same
      · exact earlier
  | close owner =>
      refine ⟨fun reading => ?_, fun _ => nofun⟩
      rcases reading with reading | reading <;> cases reading
  | shut owner =>
      refine ⟨fun reading => ?_, fun _ => nofun⟩
      rcases reading with reading | reading <;> cases reading
  | detached owner joinable => exact ⟨fun _ => joinable, fun _ => nofun⟩
  | timeout owner => exact ⟨fun _ => rfl, fun _ _ => rfl⟩
  | awake owner =>
      refine ⟨fun reading => ?_, fun _ => nofun⟩
      rcases reading with reading | reading <;> cases reading
  | join owner => exact ⟨fun _ => rfl, fun _ _ => rfl⟩
  | readFinished owner => exact ⟨fun _ => shut.reading (.inl owner), fun _ => nofun⟩
  | readRunning owner =>
      have joined := shut.reading (.inl owner)
      exact ⟨fun _ => joined, fun _ _ => joined⟩
  | decide owner =>
      have joined := shut.reading (.inr owner)
      exact ⟨fun _ => joined, fun _ _ => joined⟩
  | check | lock | overflow | take | drain | count | giveUp | linger | finishAccess | finishFail
  | finishDone | finishThrow | abandon | clean | release => exact ⟨shut.reading, shut.returned⟩

/-- A call of `close` that returned on a recording without a failure returned true. -/
structure Told (recording : Recording sink) : Prop where
  ended : recording.worker = .releasing ∨ recording.worker = .ended →
    recording.status.finished = true
  alone : recording.joinable = false → recording.status.Inactive
  returned : .closeCalled ∈ recording.history → recording.owner = .idle →
    recording.status.failure ≠ .none ∨ .closed true ∈ recording.history

/-- `close` returns false only where a failure stands. -/
theorem Told.step (step : recording.Step next) (shut : recording.Shut) (told : recording.Told) :
    next.Told := by
  have latched := step.latched
  have inactive := step.inactive
  -- The worker stays out of its end, or it was there before.
  have keep (worker : next.worker = .releasing ∨ next.worker = .ended →
        recording.worker = .releasing ∨ recording.worker = .ended)
      (joinable : next.joinable = recording.joinable)
      (history : next.history = recording.history ∨
        ∃ event, next.history = event :: recording.history ∧ event ≠ .closeCalled)
      (owner : next.owner = .idle → recording.owner = .idle) : next.Told := by
    refine ⟨fun late => latched.2 (told.ended (worker late)), fun alone => ?_, fun called idle => ?_⟩
    · exact inactive (told.alone (joinable ▸ alone))
    · obtain ⟨before, grown⟩ : .closeCalled ∈ recording.history ∧
          ∀ event ∈ recording.history, event ∈ next.history := by
        rcases history with same | ⟨event, same, other⟩ <;> rw [same] at called ⊢
        · exact ⟨called, fun _ => id⟩
        · exact ⟨(List.mem_cons.mp called).resolve_left fun same => other same.symm,
            fun _ => List.mem_cons_of_mem _⟩
      refine (told.returned before (owner idle)).imp (fun failed => ?_) (grown _)
      rw [latched.1 failed]
      exact failed
  cases step with
  | begin | accept | reject => exact keep id rfl (.inr ⟨_, rfl, nofun⟩) id
  | write env record worker =>
      refine keep (fun late => ?_) rfl (.inr ⟨_, rfl, nofun⟩) id
      dsimp only at late
      split at late <;> simp at late
  | check | lock | overflow | finishAccess | finishFail => exact keep id rfl (.inl rfl) id
  | take | drain | count | giveUp | linger | finishDone | finishThrow | abandon =>
      exact keep (by simp) rfl (.inl rfl) id
  | clean =>
      exact ⟨fun _ => rfl, fun _ => .inr rfl, fun called idle => told.returned called idle⟩
  | release worker =>
      exact ⟨fun _ => told.ended (.inl worker), told.alone, told.returned⟩
  | close => exact ⟨told.ended, told.alone, fun _ => nofun⟩
  | shut | detached | awake | readFinished => exact ⟨told.ended, told.alone, fun _ => nofun⟩
  | timeout owner =>
      have failed := recording.status.fail_failure
        (show RecordingFailure.shutdownTimeout ≠ .none from nofun)
      exact ⟨fun late => latched.2 (told.ended late), fun _ => .inl failed, fun _ _ => .inl failed⟩
  | join owner ended => exact ⟨told.ended, fun _ => .inr (told.ended (.inr ended)), fun _ => nofun⟩
  | readRunning owner running =>
      have failed := (told.alone (shut.reading (.inl owner))).resolve_right fun finished => by
        rw [running] at finished
        cases finished
      exact ⟨told.ended, told.alone, fun _ _ => .inl failed⟩
  | decide owner =>
      refine ⟨told.ended, told.alone, fun _ _ => ?_⟩
      by_cases clean : recording.status.failure = .none
      · refine .inr (List.mem_cons.mpr (.inl ?_))
        rw [decide_eq_true clean]
      · exact .inl clean

/-- A new recording is finished or has a writer to join. -/
theorem create_told {sinkState : Option sink.State} {byteLimit recordLimit : Nat}
    {writerBusy threads slot : Bool}
    (created : create sinkState (some {}) byteLimit recordLimit writerBusy threads =
      (.ok recording, slot)) : recording.Told := by
  have new := (create_fresh created).1
  refine ⟨fun late => ?_, ?_, fun called => ?_⟩
  · rcases new.stage with ⟨waiting, _⟩ | ⟨absent, _⟩
    · simp [waiting] at late
    · simp [absent] at late
  · unfold create at created
    split at created
    · split at created
      · cases created
      split at created
      · cases created
        exact fun _ => .inr rfl
      split at created <;> cases created
      nofun
    · cases created
  · rw [new.history] at called
    cases called

/-- In every reached state a `close` that returned has told the truth. -/
theorem Reached.told {sinkState : sink.State} (reached : Reached sinkState recording) :
    recording.Shut ∧ recording.Told := by
  obtain ⟨byteLimit, recordLimit, writerBusy, threads, slot, fresh, actions, created, ran⟩ := reached
  have new := (create_fresh created).1
  have shut : fresh.Shut := by
    refine ⟨?_, fun called => ?_⟩
    · rintro (reading | reading) <;> rw [new.owner] at reading <;> cases reading
    · rw [new.history] at called
      cases called
  exact (run_induction (fun recording => recording.Shut ∧ recording.Told) new.sound
    ⟨shut, create_told created⟩
    (fun _ _ _ step held => ⟨held.1.step step, held.2.step step held.1⟩) ran).2

/-- A recording that is called complete has all its files. -/
theorem Reached.whole {files : List RecordingFile} {recording : Recording fileSink}
    (reached : Reached (recordingFiles files) recording) (separated : Separated recording.history)
    (complete : .closed true ∈ recording.history ∨
      saysDrained recording.sinkState.report = true) :
    Lossless recording.history ∧
      ∀ index : Nat, (recording.sinkState.outputs[index]?).map FileStream.content =
        (files[index]?).map fun file => file.header ++
          addressed index (chunksOf (acceptedRecords recording.history)) ++ file.footer := by
  obtain ⟨stored, closedWell⟩ := reached.stored
  have secured : recording.Secured :=
    complete.elim (fun closed => (closedWell closed).2) fun drained => (stored.reported drained).2
  have lossless := secured.lossless separated
  have whole := secured.complete
  rw [lossless.handed] at whole
  have length := whole.length
  rw [stored.files] at length
  refine ⟨lossless, fun index => ?_⟩
  by_cases inside : index < recording.sinkState.outputs.length
  · have found := List.getElem?_eq_getElem inside
    obtain ⟨file, here, content⟩ := whole.content index _ found
    rw [stored.files] at here
    rw [found, here]
    exact congrArg some content
  · have beyond := Nat.le_of_not_lt inside
    rw [List.getElem?_eq_none beyond, List.getElem?_eq_none (length ▸ beyond)]
    rfl

end Recording
end Vio
