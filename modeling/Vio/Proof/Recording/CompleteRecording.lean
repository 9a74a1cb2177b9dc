import Vio.Proof.Recording.Reports

namespace Vio
open History

namespace Recording

section Files
variable {recording next : Recording fileSink} {files : List RecordingFile}

/-- A new recording has written nothing. -/
theorem Fresh.stored (fresh : recording.Fresh)
    (sinkState : recording.sinkState = recordingFiles files) : recording.Stored files := by
  have handed : handedRecords recording.history = [] := by rw [fresh.history]; rfl
  have returned : returnedRecords recording.history = [] := by rw [fresh.history]; rfl
  have start : recording.sinkState.stage = .start := by rw [sinkState]; rfl
  have given : recording.sinkState.Given [] [] := by
    intro index output found
    simp [sinkState, recordingFiles] at found
  refine ⟨by rw [sinkState]; rfl, fun _ => returned, ?_, fun _ => ⟨start, by rw [returned, handed]⟩,
    fun _ _ _ => ?_, fun later => absurd start later, ?_, ?_, ?_, ?_, ?_, ?_⟩
  · rw [returned]
    exact ⟨[], List.prefix_rfl, List.nil_prefix, given⟩
  · rw [handed]
    exact ⟨start, .inr ⟨by rw [sinkState]; rfl, by rw [sinkState]; rfl, rfl⟩, given⟩
  · simp [start]
  · simp [start, FinishStage.Noted]
  · intro past
    rcases fresh.stage with ⟨waiting, _⟩ | ⟨absent, _⟩
    · simp [waiting, WorkerStage.Over] at past
    · simp [absent, WorkerStage.Over] at past
  · simp [start, FinishStage.answer]
  · intro drained
    rw [sinkState] at drained
    change saysDrained "" = true at drained
    exact absurd drained (by decide)
  · exact ⟨[], by rw [returned, handed, List.append_nil], by simp⟩

/-- The sink rests once the worker left it. -/
theorem Step.rests (step : recording.Step next) (past : recording.worker.Over) :
    next.sinkState = recording.sinkState := by
  cases step with
  | write env record worker | finishAccess env worker | finishFail env reason worker
  | finishDone env worker | finishThrow env worker => simp [worker, WorkerStage.Over] at past
  | begin | check | lock | overflow | accept | reject | take | drain | count | giveUp | linger
  | abandon | clean | release | close | shut | detached | timeout | awake | join | readFinished
  | readRunning | decide => rfl

/-- After a true result of `close`, everything is stored. -/
def ClosedWell (recording : Recording fileSink) : Prop :=
  .closed true ∈ recording.history → recording.worker.Over ∧ recording.Secured

/-- `close` returns true only after the sink is finished. -/
theorem ClosedWell.step (step : recording.Step next) (sound : recording.Sound)
    (stored : recording.Stored files) (closed : recording.ClosedWell) : next.ClosedWell := by
  have moved := step
  have later (before : recording.worker.Over ∧ recording.Secured) :
      next.worker.Over ∧ next.Secured := by
    have rests := moved.rests before.1
    exact ⟨moved.past before.1, before.2.step moved sound (by rw [rests]) (by rw [rests])⟩
  intro member
  cases step with
  | decide owner =>
      rcases List.mem_cons.mp member with same | member
      · have clean : recording.status.failure = .none := by simpa using same
        have finished := sound.answered.deciding owner
        have past : recording.worker.Over ∧ recording.worker.Closing ∧ recording.worker.Drained := by
          rcases sound.flow.ended (sound.winding.done finished) with absent | releasing | ended
          · exact absurd clean (sound.winding.absent absent)
          · rw [releasing]
            exact ⟨trivial, trivial, trivial⟩
          · rw [ended]
            exact ⟨trivial, trivial, trivial⟩
        refine later ⟨past.1, past.2.1, stored.noted (stored.past past.1 clean) clean, ?_⟩
        exact lossless_of_drained sound.ordered sound.winding sound.called sound.pending
          sound.latched past.2.2 clean
      · exact later (closed member)
  | begin | accept | reject | write | close | timeout | readRunning =>
      exact later (closed ((List.mem_cons.mp member).resolve_left (fun same => by cases same)))
  | check | lock | overflow | take | drain | count | giveUp | linger | finishAccess | finishFail
  | finishDone | finishThrow | abandon | clean | release | shut | detached | awake | join
  | readFinished => exact later (closed member)

end Files

/-- The recording is in a state that some interleaving reaches from its constructor. -/
def Reached {sink : RecordingSink} (sinkState : sink.State) (recording : Recording sink) : Prop :=
  ∃ (byteLimit recordLimit : Nat) (writerBusy threads slot : Bool) (fresh : Recording sink)
    (actions : List (RecordingAction sink)),
    create (some sinkState) (some {}) byteLimit recordLimit writerBusy threads = (.ok fresh, slot) ∧
      fresh.run actions = some recording

theorem Reached.sound {sink : RecordingSink} {sinkState : sink.State} {recording : Recording sink}
    (reached : Reached sinkState recording) : recording.Sound := by
  obtain ⟨_, _, _, _, _, fresh, actions, created, ran⟩ := reached
  exact (run_induction (fun _ => True) (create_fresh created).1.sound trivial
    (fun _ _ _ _ _ => trivial) ran).1

/-- In every reached state the files are what the stage of the worker says. -/
theorem Reached.stored {files : List RecordingFile} {recording : Recording fileSink}
    (reached : Reached (recordingFiles files) recording) :
    recording.Stored files ∧ recording.ClosedWell := by
  obtain ⟨_, _, _, _, _, fresh, actions, created, ran⟩ := reached
  obtain ⟨new, sinkState⟩ := create_fresh created
  have start : fresh.ClosedWell := by
    intro member
    simp [new.history] at member
  exact (run_induction (fun recording => recording.Stored files ∧ recording.ClosedWell) new.sound
    ⟨new.stored (Option.some.inj sinkState).symm, start⟩
    (fun before after sound step held => ⟨held.1.step step sound, held.2.step step sound held.1⟩)
    ran).2

/-- A recording is an exact prefix of what was submitted, and one that is called complete, by the
result of `close` or by the report, lost nothing. -/
theorem complete_recording_lossless :
    (∀ (sink : RecordingSink) (sinkState : sink.State) (recording : Recording sink),
      Reached sinkState recording →
        handedRecords recording.history <+: acceptedRecords recording.history ∧
        (∀ stream, onStream stream (acceptedRecords recording.history) <+:
          onStream stream (offeredRecords recording.history)) ∧
        Always AcceptedInTime recording.history ∧
        (Separated recording.history → .closed true ∈ recording.history →
          Lossless recording.history)) ∧
    ∀ (files : List RecordingFile) (recording : Recording fileSink),
      Reached (recordingFiles files) recording → Separated recording.history →
        .closed true ∈ recording.history ∨ saysDrained recording.sinkState.report = true →
          Lossless recording.history ∧
          ∀ index : Nat, (recording.sinkState.outputs[index]?).map FileStream.content =
            (files[index]?).map fun file => file.header ++
              addressed index (chunksOf (acceptedRecords recording.history)) ++ file.footer := by
  constructor
  · intro sink sinkState recording reached
    have sound := reached.sound
    exact ⟨sound.flow.started, fun stream => (sound.ordered stream).started, sound.inTime,
      fun separated closed => (sound.answered.closed closed).2 separated⟩
  · intro files recording reached separated complete
    obtain ⟨stored, closedWell⟩ := reached.stored
    have secured : recording.Secured := by
      rcases complete with closed | drained
      · exact (closedWell closed).2
      · exact (stored.reported drained).2
    have lossless := secured.lossless separated
    refine ⟨lossless, fun index => ?_⟩
    have whole := secured.complete
    rw [lossless.handed] at whole
    have length := whole.length
    rw [stored.files] at length
    cases found : recording.sinkState.outputs[index]? with
    | none =>
        have beyond : files.length ≤ index := by
          rw [← length]
          exact List.getElem?_eq_none_iff.mp found
        rw [List.getElem?_eq_none beyond]
        rfl
    | some output =>
        obtain ⟨file, here, content⟩ := whole.content index output found
        rw [stored.files] at here
        rw [here]
        exact congrArg some content

namespace SampleRecording

def files : List RecordingFile := [⟨"stamps", ascii "[\n", ascii "\n]\n"⟩]

def first : RecordingRecord := ⟨.camera, [recordingText 0 (ascii "1")]⟩

def second : RecordingRecord := ⟨.camera, [recordingText 0 (ascii ",\n2")]⟩

def accepting (record : RecordingRecord) : List (RecordingAction fileSink) :=
  .submit record :: List.replicate 6 (.advance record.stream)

def writing : List (RecordingAction fileSink) := [.work, .write {}, .work]

def closing : List (RecordingAction fileSink) :=
  [.close, .proceed, .work, .work] ++ List.replicate 20 (.finish {}) ++
    [.work, .work, .proceed, .proceed, .proceed, .proceed]

/-- The worker writes the first record before the second one is submitted. -/
def actions : List (RecordingAction fileSink) :=
  accepting first ++ writing ++ accepting second ++ writing ++ closing

def fresh : Recording fileSink :=
  { sinkState := recordingFiles files
    status := {}
    byteLimit := 64
    recordLimit := 4
    worker := .waiting
    joinable := true }

def events : List RecordingEvent :=
  [.closed true, .closeCalled, .written second true, .accepted second, .began second,
    .written first true, .accepted first, .began first]

theorem ran : (fresh.run actions).map Recording.history = some events := by decide +kernel

theorem returned (stream : RecordingStream) : ¬ Unreturned stream (events.drop 2) := by
  simp only [Unreturned, events, List.drop, since_cons_iff, RecordingEvent.Begins,
    RecordingEvent.Returns, not_since_nil]
  cases stream <;> simp [first, second]

/-- In the sample the calls returned before `close`. -/
theorem separated : Separated events := by
  intro newer older split
  cases newer with
  | nil => cases split
  | cons newest newer =>
      cases newer with
      | nil =>
          cases split
          exact ⟨returned, by simp⟩
      | cons next newer =>
          have member : .closeCalled ∈ events.drop 2 := by
            have rest : events.drop 2 = newer ++ .closeCalled :: older := by rw [split]; rfl
            rw [rest]
            simp
          exact absurd member (by decide)

end SampleRecording

/-- Two frames end up in their files, between header and footer. -/
theorem complete_recording_lossless_two_frames :
    ∃ recording : Recording fileSink,
      Reached (recordingFiles SampleRecording.files) recording ∧
      handedRecords recording.history <+: acceptedRecords recording.history ∧
      Lossless recording.history ∧
      (recording.sinkState.outputs[0]?).map FileStream.content = some (ascii "[\n1,\n2\n]\n") := by
  obtain ⟨recording, ran, history⟩ := Option.map_eq_some_iff.mp SampleRecording.ran
  have reached : Reached (recordingFiles SampleRecording.files) recording :=
    ⟨64, 4, false, true, true, SampleRecording.fresh, SampleRecording.actions, rfl, ran⟩
  have closed : .closed true ∈ recording.history := by rw [history]; decide
  have whole := complete_recording_lossless.2 SampleRecording.files recording reached
    (by rw [history]; exact SampleRecording.separated) (.inl closed)
  refine ⟨recording, reached, (complete_recording_lossless.1 _ _ recording reached).1, whole.1, ?_⟩
  rw [whole.2 0, history]
  decide

end Recording
end Vio
