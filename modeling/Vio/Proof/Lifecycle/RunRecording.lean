import Vio.Proof.Lifecycle.Unwinding

namespace Vio

/-- A call of `close` may have been made. -/
def RunStage.Closed : RunStage → Prop
  | .closing called => called = true
  | .concluding | .destroying | .rejoining | .discarding _ | .releasing _ | .left => True
  | _ => False

/-- What the stage tells about the calls of `close`. -/
def RunStage.Asked (stage : RunStage) (recording : Recording fileSink) : Prop :=
  match stage with
  | .closing true | .discarding true => .closeCalled ∈ recording.history
  | .releasing _ | .left => .closeCalled ∈ recording.history ∧ recording.owner = .idle
  | _ => True

/-- The answer of the stage stays where the history grows and the owner stays idle. -/
theorem RunStage.Asked.onward {stage : RunStage} {recording after : Recording fileSink}
    (asked : stage.Asked recording)
    (called : .closeCalled ∈ recording.history → .closeCalled ∈ after.history)
    (idle : recording.owner = .idle → after.owner = .idle) : stage.Asked after := by
  unfold RunStage.Asked at asked ⊢
  split at asked
  · exact called asked
  · exact called asked
  · exact ⟨called asked.1, idle asked.2⟩
  · exact ⟨called asked.1, idle asked.2⟩
  · trivial

namespace CaptureRun

theorem openRecording_created {files : List RecordingFile} {writerBusy slots : Bool}
    {recording : Recording fileSink}
    (opened : openRecording files writerBusy slots = .ok recording) :
    ∃ slot, @Recording.create fileSink (some (recordingFiles files)) (some {}) byteLimit recordLimit
      writerBusy slots = (.ok recording, slot) := ⟨_, Prod.ext opened rfl⟩

/-- A state that a recording of the files reaches. -/
def Opened (files : List RecordingFile) (recording : Recording fileSink) : Prop :=
  ∃ (writerBusy slots : Bool) (fresh : Recording fileSink) (actions : List (RecordingAction fileSink)),
    openRecording files writerBusy slots = .ok fresh ∧ fresh.run actions = some recording

namespace Opened
variable {files : List RecordingFile} {recording after : Recording fileSink}

theorem reached (opened : Opened files recording) :
    Recording.Reached (recordingFiles files) recording := by
  obtain ⟨writerBusy, slots, fresh, actions, created, ran⟩ := opened
  obtain ⟨slot, made⟩ := openRecording_created created
  exact ⟨_, _, writerBusy, slots, slot, fresh, actions, made, ran⟩

/-- One more action leads to such a state. -/
theorem onward (opened : Opened files recording) {action : RecordingAction fileSink}
    (moved : recording.next action = some after) : Opened files after := by
  obtain ⟨writerBusy, slots, fresh, actions, created, ran⟩ := opened
  refine ⟨writerBusy, slots, fresh, actions ++ [action], created, ?_⟩
  refine PartialRun.run_append ran ?_
  rw [List.foldlM_cons, moved]
  rfl

end Opened

/-- What holds of the recording between the transitions. -/
structure Calls (run : CaptureRun) (recording : Recording fileSink) : Prop where
  opened : ∃ files, run.outputs = some files ∧ Opened files recording
  served : recording.Served
  shut : recording.Shut
  owned : ∀ stream, recording.submits stream ≠ none → run.submits stream
  separated : Separated recording.history
  called : .closeCalled ∈ recording.history → run.stage.Closed ∧ run.joinable = []
  asked : run.stage.Asked recording

def Recorded (run : CaptureRun) : Prop :=
  ∀ recording, run.recording = some recording → run.Calls recording

variable {run next : CaptureRun} {recording : Recording fileSink}

/-- No step of `run` goes back before the call of `close`. -/
theorem Goes.keepsClosed {stage : RunStage} (goes : run.Goes stage) (closed : run.stage.Closed) :
    stage.Closed := by
  cases goes with
  | joined here | opened here | unrecorded here | ready here | launched here | started start here
  | stops start here | sleeps start here | finished start here | looks start here | early start here
  | late start here | seen start here | fresh start here =>
      rw [here] at closed
      exact closed.elim
  | closed called here | rejoined here | discarded called here | left here => trivial

/-- A step that leaves the recording and the threads. -/
theorem Calls.keep (calls : run.Calls recording) (outputs : next.outputs = run.outputs)
    (threads : next.threads = run.threads) (joinable : next.joinable = run.joinable)
    (closed : run.stage.Closed → next.stage.Closed)
    (asked : next.stage.Asked recording) : next.Calls recording := by
  refine ⟨?_, calls.served, calls.shut, ?_, calls.separated, fun called => ?_, asked⟩
  · rw [outputs]
    exact calls.opened
  · intro stream busy
    unfold submits
    rw [threads]
    exact calls.owned stream busy
  · obtain ⟨before, all⟩ := calls.called called
    exact ⟨closed before, by rw [joinable]; exact all⟩

/-- The call of `close` comes when the threads are joined. -/
theorem Calls.close (calls : run.Calls recording) (threads : run.Threads) (joined : run.joinable = [])
    {closing : Recording fileSink} (closes : recording.close = some closing) {stage : RunStage}
    (closed : stage.Closed) (asked : .closeCalled ∈ closing.history → stage.Asked closing) :
    ({ run with recording := some closing, stage } : CaptureRun).Calls closing := by
  have ended := threads.ended joined
  have idle (stream : RecordingStream) : recording.submits stream = none := by
    by_contra busy
    obtain ⟨thread, member, running, _⟩ := calls.owned stream busy
    rw [ended thread member] at running
    cases running
  obtain ⟨files, outputs, opened⟩ := calls.opened
  have keyed := opened.reached.sound.keyed
  have moved : recording.next .close = some closing := closes
  have step := Recording.next_step keyed moved
  unfold Recording.close at closes
  split at closes <;> cases closes
  refine ⟨⟨files, outputs, opened.onward moved⟩, calls.served.step step, calls.shut.step step, ?_, ?_,
    fun _ => ⟨closed, joined⟩, asked List.mem_cons_self⟩
  · intro stream busy
    exact absurd (idle stream) busy
  · exact calls.separated.cons (fun _ stream => calls.served stream (idle stream)) nofun

/-- A new recording has no calls. -/
theorem records_calls {files : List RecordingFile} {writerBusy slots : Bool}
    (outputs : run.outputs = some files)
    (created : openRecording files writerBusy slots = .ok recording) {stage : RunStage}
    (asked : stage.Asked recording) :
    ({ run with recording := some recording, stage } : CaptureRun).Calls recording := by
  obtain ⟨_, made⟩ := openRecording_created created
  obtain ⟨fresh, _⟩ := Recording.create_fresh made
  have empty : .closeCalled ∉ recording.history := by
    rw [fresh.history]
    exact List.not_mem_nil
  refine ⟨⟨files, outputs, _, _, recording, [], created, rfl⟩, ?_, ?_, ?_, ?_, ?_, asked⟩
  · intro stream _
    rw [fresh.history]
    exact History.not_since_nil
  · refine ⟨?_, fun called => absurd called empty⟩
    rintro (reading | reading) <;> rw [fresh.owner] at reading <;> cases reading
  · intro stream busy
    rw [fresh.submits] at busy
    exact absurd rfl busy
  · rw [fresh.history]
    exact separated_nil
  · exact fun called => absurd called empty

/-- The steps of `run` call `close` only after the threads are joined. -/
theorem Recorded.main (recorded : run.Recorded) (threads : run.Threads) (step : run.MainStep next) :
    next.Recorded := by
  intro recording found
  cases step with
  | goes stage goes =>
      have calls := recorded recording found
      refine calls.keep rfl rfl rfl goes.keepsClosed ?_
      have asked := calls.asked
      cases goes with
      | discarded called here answered =>
          obtain ⟨rfl, owner⟩ := answered recording found
          rw [here] at asked
          exact ⟨asked, owner⟩
      | left here =>
          rw [here] at asked
          exact asked
      | joined | opened | unrecorded | ready | launched | started | stops | sleeps | finished | looks
      | early | late | seen | fresh | closed | rejoined => trivial
  | opens fd path paths here | opensFifo fd path paths here =>
      refine (recorded recording found).keep rfl rfl rfl (fun closed => ?_) trivial
      rw [here] at closed
      exact closed.elim
  | abandons thrown leaves =>
      have calls := recorded recording found
      refine calls.keep rfl rfl rfl (fun closed => ?_) ?_
      · cases leaves with
        | opening path paths here | recording here | fifos path paths here =>
            rw [here] at closed
            exact closed.elim
      · have some : run.recording.isSome = true := by
          rw [show run.recording = Option.some recording from found]
          rfl
        unfold abandon
        dsimp only
        rw [if_pos some]
        trivial
  | records files writerBusy slots other here outputs created =>
      cases found
      exact records_calls outputs created trivial
  | launches body left here =>
      have calls := recorded recording found
      refine ⟨calls.opened, calls.served, calls.shut, fun stream busy => ?_, calls.separated,
        fun called => ?_, trivial⟩
      · obtain ⟨thread, member, running⟩ := calls.owned stream busy
        exact ⟨thread, List.mem_append_left _ member, running⟩
      · have closed := (calls.called called).1
        rw [here] at closed
        exact closed.elim
  | misses body left here | destroys here | concludes here =>
      exact (recorded recording found).keep rfl rfl rfl (fun _ => trivial) trivial
  | stalls start here =>
      refine (recorded recording found).keep rfl rfl rfl (fun closed => ?_) trivial
      rcases here with here | here <;> rw [here] at closed <;> exact closed.elim
  | halts here =>
      refine (recorded recording found).keep rfl rfl rfl (fun closed => ?_) trivial
      rw [here] at closed
      exact closed.elim
  | releases fd fds here =>
      have calls := recorded recording found
      have asked := calls.asked
      rw [here] at asked
      exact calls.keep rfl rfl rfl (fun _ => trivial) asked
  | joins body left here queue ended =>
      have calls := recorded recording found
      refine ⟨calls.opened, calls.served, calls.shut, calls.owned, calls.separated,
        fun called => ?_, calls.asked⟩
      have all := (calls.called called).2
      rw [queue] at all
      cases all
  | closes before closing here found' closes =>
      cases found
      exact (recorded before found').close threads (threads.after (by rw [here]; trivial)) closes rfl
        id
  | discards before closing here found' closes =>
      cases found
      exact (recorded before found').close threads (threads.after (by rw [here]; trivial)) closes
        trivial id

/-- An action of the recording that is not a call of `close`. -/
theorem Recorded.recorder (recorded : run.Recorded) (threads : run.Threads)
    (found : run.recording = some recording) {action : RecordingAction fileSink}
    (allowed : run.allows action) {after : Recording fileSink}
    (moved : recording.next action = some after) :
    ({ run with recording := some after } : CaptureRun).Recorded := by
  rintro _ ⟨⟩
  have calls := recorded recording found
  obtain ⟨files, outputs, opened⟩ := calls.opened
  have step := Recording.next_step opened.reached.sound.keyed moved
  have served := calls.served.step step
  have shut := calls.shut.step step
  -- An access that begins no call keeps the owners and the order of the calls.
  have quiet (quiet : Recording.Quiet recording.history after.history) :
      ({ run with recording := some after } : CaptureRun).Calls after := by
    refine ⟨⟨files, outputs, opened.onward moved⟩, served, shut,
      fun stream busy => calls.owned stream (step.calls quiet busy), ?_, fun called => ?_, ?_⟩
    · rcases quiet with same | ⟨event, same, none, other⟩
      · rw [same]
        exact calls.separated
      · rw [same]
        exact calls.separated.cons (fun closes => absurd closes other)
          fun record begins => absurd begins (none record)
    · rcases quiet with same | ⟨event, same, _, other⟩
      · exact calls.called (same ▸ called)
      · rw [same] at called
        exact calls.called ((List.mem_cons.mp called).resolve_left other.symm)
    · refine calls.asked.onward (fun called => ?_) fun owner => step.idle owner quiet.unclosed
      rcases quiet with same | ⟨event, same, _⟩ <;> rw [same]
      · exact called
      · exact List.mem_cons_of_mem _ called
  cases action with
  | submit record =>
      have open' : .closeCalled ∉ recording.history := by
        intro called
        obtain ⟨thread, member, running, _⟩ := allowed
        rw [threads.ended (calls.called called).2 thread member] at running
        cases running
      change recording.submit record = some after at moved
      unfold Recording.submit at moved
      split at moved <;> cases moved
      refine ⟨⟨files, outputs, ?_⟩, served, shut, fun stream busy => ?_, ?_, fun called => ?_,
        calls.asked.onward (fun called => absurd called open') id⟩
      · rename_i idle
        refine opened.onward (show recording.next (.submit record) = _ from ?_)
        change recording.submit record = _
        rw [Recording.submit, if_neg idle]
      · change Function.update recording.submits record.stream _ stream ≠ none at busy
        by_cases same : stream = record.stream
        · rw [same]
          exact allowed
        · rw [Function.update_of_ne same] at busy
          exact calls.owned stream busy
      · exact calls.separated.cons nofun fun _ _ => open'
      · rcases List.mem_cons.mp called with same | called
        · cases same
        · exact absurd called open'
  | close => exact allowed.elim
  | advance | work | write | finish | timeout | proceed =>
      exact quiet (Recording.quiet_next rfl moved)

/-- A thread that is inside no call moves. -/
theorem Recorded.move (recorded : run.Recorded) {body : CaptureThread} {stage : ThreadStage}
    (free : ⟨body, .running⟩ ∈ run.threads → run.idle body) : (run.move body stage).Recorded := by
  intro recording found
  have calls := recorded recording found
  refine ⟨calls.opened, calls.served, calls.shut, fun stream busy => ?_, calls.separated,
    calls.called, calls.asked⟩
  obtain ⟨thread, member, running, owns⟩ := calls.owned stream busy
  by_cases same : thread.body = body
  · have here : (⟨body, .running⟩ : WorkerThread) ∈ run.threads := by
      rw [← same, ← running]
      exact member
    rw [same] at owns
    exact absurd (free here recording found stream owns) busy
  · exact ⟨thread, move_other member same, running, owns⟩

/-- The recording does not depend on the other fields. -/
theorem Recorded.transfer (recorded : run.Recorded) (same : next.recording = run.recording)
    (outputs : next.outputs = run.outputs) (threads : next.threads = run.threads)
    (joinable : next.joinable = run.joinable) (stage : next.stage = run.stage) : next.Recorded := by
  intro recording found
  have calls := recorded recording (same ▸ found)
  refine calls.keep outputs threads joinable (by rw [stage]; exact id) ?_
  rw [stage]
  exact calls.asked

/-- A body has one thread. -/
theorem Threads.unique (threads : run.Threads) {body : CaptureThread} {first second : ThreadStage}
    (here : run.stands body first) (there : run.stands body second) : first = second := by
  have same := List.inj_on_of_nodup_map threads.nodup here there rfl
  exact (WorkerThread.mk.inj same).2

/-- A thread submits only while it runs, so nothing is submitted after `close` was called. -/
theorem Recorded.step (recorded : run.Recorded) (threads : run.Threads) {action : RunAction}
    (moved : run.step action = some next) : next.Recorded := by
  cases action with
  | openFile result => exact recorded.main threads (openFile_main moved)
  | record writerBusy slots => exact recorded.main threads (record_main moved)
  | launch started => exact recorded.main threads (launch_main moved)
  | clock now => exact recorded.main threads (clock_main moved)
  | proceed => exact recorded.main threads (proceed_main moved)
  | recorder action =>
      simp only [CaptureRun.step] at moved
      split at moved
      · cases moved
      · rename_i recording found
        split at moved
        · rename_i allowed
          obtain ⟨after, moves, rfl⟩ := Option.map_eq_some_iff.mp moved
          exact recorded.recorder threads found allowed moves
        · cases moved
  | fedImu time | framesDone =>
      obtain ⟨_, ⟨⟩⟩ := Option.ite_none_right_eq_some.mp moved
      exact recorded.transfer rfl rfl rfl rfl rfl
  | returns body =>
      obtain ⟨⟨_, idle⟩, ⟨⟩⟩ := Option.ite_none_right_eq_some.mp moved
      exact recorded.move fun _ => idle
  | throws body thrown =>
      obtain ⟨⟨_, idle⟩, ⟨⟩⟩ := Option.ite_none_right_eq_some.mp moved
      exact recorded.move fun _ => idle
  | store body =>
      simp only [CaptureRun.step] at moved
      split at moved
      · rename_i name thrown found
        cases moved
        have same := List.find?_some found
        obtain rfl : name = body := of_decide_eq_true same
        have here : run.stands name (.catching thrown) := List.mem_of_find?_eq_some found
        refine (recorded.move fun running => ?_).transfer rfl rfl rfl rfl rfl
        cases threads.unique here running
      · cases moved
  | raise body =>
      obtain ⟨here, ⟨⟩⟩ := Option.ite_none_right_eq_some.mp moved
      refine (recorded.move fun running => ?_).transfer rfl rfl rfl rfl rfl
      cases threads.unique here running
  | requestStop =>
      cases moved
      exact recorded.transfer rfl rfl rfl rfl rfl

/-- What became of the descriptors. -/
def Released (run : CaptureRun) : Prop :=
  match run.stage with
  | .releasing left => run.released ++ left = run.descriptors
  | .left => run.released = run.descriptors
  | _ => run.released = []

/-- The steps of `run` release the descriptors in order. -/
theorem Released.main (released : run.Released) (step : run.MainStep next) : next.Released := by
  unfold Released at released
  cases step with
  | goes stage goes =>
      cases goes with
      | discarded called here =>
          rw [here] at released
          have none : run.released = [] := released
          change run.released ++ run.descriptors = run.descriptors
          rw [none, List.nil_append]
      | left here =>
          rw [here] at released
          have all : run.released ++ [] = run.descriptors := released
          rw [List.append_nil] at all
          exact all
      | joined here | closed called here | rejoined here | opened here | unrecorded here | ready here
      | launched here | started start here | stops start here | sleeps start here
      | finished start here | looks start here | early start here | late start here | seen start here
      | fresh start here =>
          rw [here] at released
          exact released
  | opens fd path paths here | opensFifo fd path paths here | records files writerBusy slots other here
  | launches body left here | misses body left here | halts here | destroys here | concludes here
  | closes before closing here | discards before closing here =>
      rw [here] at released
      exact released
  | stalls start here | joins body left here =>
      rcases here with here | here <;> rw [here] at released <;> first
        | exact released
        | (unfold Released; rw [here]; exact released)
  | abandons thrown leaves =>
      have none : run.released = [] := by
        cases leaves with
        | opening path paths here | recording here | fifos path paths here =>
            rw [here] at released
            exact released
      unfold Released abandon
      dsimp only
      by_cases recorded : run.recording.isSome
      · rw [if_pos recorded]
        exact none
      · rw [if_neg recorded, none]
        rfl
  | releases fd fds here =>
      rw [here] at released
      change run.released ++ [fd] ++ fds = run.descriptors
      rw [List.append_assoc]
      exact released

end CaptureRun
end Vio
