import Vio.Library.PartialRun
import Vio.Proof.Recording.Delivery

namespace Vio
open History

/-- A call of `submit` on the stream returned. -/
def RecordingEvent.Returns (stream : RecordingStream) (event : RecordingEvent) : Prop :=
  ∃ record, (event = .accepted record ∨ event = .rejected record) ∧ record.stream = stream

/-- A call of `submit` on the stream has not returned. -/
def Unreturned (stream : RecordingStream) (history : List RecordingEvent) : Prop :=
  Since (fun event => ¬ event.Returns stream) (fun event _ => event.Begins stream) history

/-- Every call of `submit` returned before `close` was called. -/
def Separated (history : List RecordingEvent) : Prop :=
  ∀ newer older, history = newer ++ .closeCalled :: older →
    (∀ stream, ¬ Unreturned stream older) ∧ ∀ record, .began record ∉ newer

theorem Separated.tail {event : RecordingEvent} {history : List RecordingEvent}
    (separated : Separated (event :: history)) : Separated history := by
  intro newer older split
  obtain ⟨returned, none⟩ := separated (event :: newer) older (by rw [split]; rfl)
  exact ⟨returned, fun record member => none record (List.mem_cons_of_mem _ member)⟩

/-- A call of `submit` begins before `close` is called. -/
theorem Separated.began {record : RecordingRecord} {history : List RecordingEvent}
    (separated : Separated (.began record :: history)) : .closeCalled ∉ history := by
  intro called
  obtain ⟨newer, older, split⟩ := List.append_of_mem called
  have none := (separated (.began record :: newer) older (by rw [split]; rfl)).2 record
  exact none List.mem_cons_self

/-- Everything offered was accepted, handed to the sink in order, and written. -/
structure Lossless (history : List RecordingEvent) : Prop where
  accepted : ∀ stream, onStream stream (acceptedRecords history) =
    onStream stream (offeredRecords history)
  handed : handedRecords history = acceptedRecords history
  written : ∀ record returned, .written record returned ∈ history → returned = true

/-- The worker left its loop. -/
def WorkerStage.Drained : WorkerStage → Prop
  | .lingering | .finishing | .failingFinish | .cleaning | .releasing | .ended => True
  | _ => False

/-- The worker knows that the recording is closing. -/
def WorkerStage.Closing : WorkerStage → Prop
  | .finishing | .failingFinish | .cleaning | .releasing | .ended => True
  | _ => False

namespace Recording
variable {sink : RecordingSink} {recording next : Recording sink}

/-- A step puts one event on record at most. -/
theorem Step.history (step : recording.Step next) :
    next.history = recording.history ∨ ∃ event, next.history = event :: recording.history := by
  cases step with
  | begin | accept | reject | write | close | timeout | readRunning | decide => exact .inr ⟨_, rfl⟩
  | check | lock | overflow | take | drain | count | giveUp | linger | finishAccess | finishFail
  | finishDone | finishThrow | abandon | clean | release | shut | detached | awake | join
  | readFinished => exact .inl rfl

theorem Step.separated (step : recording.Step next) (separated : Separated next.history) :
    Separated recording.history := by
  rcases step.history with same | ⟨event, same⟩ <;> rw [same] at separated
  · exact separated
  · exact separated.tail

/-- Only `close` sets the closing flag and returns. -/
def Called (recording : Recording sink) : Prop :=
  (recording.closing = true ∨ recording.owner ≠ .idle ∨ ∃ result, .closed result ∈ recording.history) →
    .closeCalled ∈ recording.history

/-- The closing flag is set inside `close` only. -/
theorem Called.step (step : recording.Step next) (called : recording.Called) : next.Called := by
  -- A return of `close` is recorded after its call.
  have closes (owner : recording.owner ≠ .idle) (result : Bool) :
      .closeCalled ∈ RecordingEvent.closed result :: recording.history :=
    List.mem_cons_of_mem _ (called (.inr (.inl owner)))
  cases step with
  | close => exact fun _ => List.mem_cons_self
  | shut owner => exact fun _ => called (.inr (.inl (by simp [owner])))
  | detached owner | awake owner | join owner | readFinished owner =>
      exact fun _ => called (.inr (.inl (by simp [owner])))
  | timeout owner | readRunning owner | decide owner => exact fun _ => closes (by simp [owner]) _
  | begin | accept | reject | write =>
      intro cause
      refine List.mem_cons_of_mem _ (called ?_)
      rcases cause with closing | owner | ⟨result, member⟩
      · exact .inl closing
      · exact .inr (.inl owner)
      · exact .inr (.inr ⟨result, (List.mem_cons.mp member).resolve_left (fun same => by cases same)⟩)
  | check | lock | overflow | take | drain | count | giveUp | linger | finishAccess | finishFail
  | finishDone | finishThrow | abandon | clean | release => exact called

/-- A call in progress has not returned. -/
def Pending (recording : Recording sink) : Prop :=
  ∀ stream, recording.submits stream ≠ none → Unreturned stream recording.history

/-- A call on record is in progress until it returns. -/
theorem Pending.step (step : recording.Step next) (pending : recording.Pending) : next.Pending := by
  -- An event that ends no call leaves the calls in progress.
  have quiet {event : RecordingEvent} (silent : ∀ stream, ¬ event.Returns stream) (stream : RecordingStream)
      (busy : recording.submits stream ≠ none) : Unreturned stream (event :: recording.history) :=
    (pending stream busy).cons (silent stream)
  cases step with
  | begin record idle =>
      intro stream busy
      by_cases same : stream = record.stream
      · exact Since.now ⟨record, rfl, same.symm⟩
      · change Function.update recording.submits record.stream _ stream ≠ none at busy
        rw [Function.update_of_ne same] at busy
        refine quiet ?_ stream busy
        rintro _ ⟨_, same | same, _⟩ <;> cases same
  | check record before after current | overflow record locked current =>
      have busy : recording.submits record.stream ≠ none := by simp [current]
      exact forall_update (fun stream submit => submit ≠ none →
        Unreturned stream recording.history) pending fun _ => pending _ busy
  | lock record bytes current =>
      have busy : recording.submits record.stream ≠ none := by simp [current]
      exact forall_update (fun stream submit => submit ≠ none →
        Unreturned stream recording.history) pending fun _ => pending _ busy
  | accept record | reject record =>
      intro stream busy
      by_cases same : stream = record.stream
      · subst same
        change Function.update recording.submits record.stream none record.stream ≠ none at busy
        simp at busy
      · change Function.update recording.submits record.stream none stream ≠ none at busy
        rw [Function.update_of_ne same] at busy
        refine (pending stream busy).cons ?_
        rintro ⟨other, ended, on⟩
        rcases ended with ended | ended <;> cases ended
        exact same on.symm
  | write | close | timeout | readRunning | decide =>
      intro stream busy
      refine quiet ?_ stream busy
      rintro _ ⟨_, same | same, _⟩ <;> cases same
  | take | drain | count | giveUp | linger | finishAccess | finishFail | finishDone | finishThrow
  | abandon | clean | release | shut | detached | awake | join | readFinished => exact pending

/-- The stages of the worker after its loop, and the end. -/
structure Winding (recording : Recording sink) : Prop where
  done : recording.status.finished = true → recording.done = true
  absent : recording.worker = .absent → recording.status.failure ≠ .none
  closing : recording.worker.Closing → recording.closing = true
  threw : ∀ record, .written record false ∈ recording.history →
    recording.status.failure ≠ .none ∨ recording.worker = .failing
  drained : recording.worker.Drained → recording.status.failure = .none →
    recording.closing = true ∧
      handedRecords recording.history = acceptedRecords recording.history ∧
      ∀ record returned, .written record returned ∈ recording.history → returned = true

/-- A call of `submit` or of `close` moves on, and the worker stands. -/
theorem Winding.keep (winding : recording.Winding) (step : recording.Step next)
    (done : next.done = recording.done) (finished : next.status.finished = recording.status.finished)
    (worker : next.worker = recording.worker)
    (closing : recording.closing = true → next.closing = true)
    (history : next.history = recording.history ∨ ∃ event, event.acceptedRecord = none ∧
      event.handedRecord = none ∧ next.history = event :: recording.history) : next.Winding := by
  have failed (clean : next.status.failure = .none) : recording.status.failure = .none := by
    by_contra failure
    rw [step.latched.1 failure] at clean
    exact failure clean
  have records : handedRecords next.history = handedRecords recording.history ∧
      acceptedRecords next.history = acceptedRecords recording.history ∧
      ∀ record returned, .written record returned ∈ next.history →
        .written record returned ∈ recording.history := by
    rcases history with same | ⟨event, noAccept, noWrite, same⟩ <;> rw [same]
    · exact ⟨rfl, rfl, fun _ _ => id⟩
    · refine ⟨heard_cons_none noWrite, heard_cons_none noAccept, fun record returned member => ?_⟩
      refine (List.mem_cons.mp member).resolve_left (fun written => ?_)
      rw [← written] at noWrite
      cases noWrite
  refine ⟨?_, ?_, ?_, ?_, ?_⟩
  · rw [done, finished]
    exact winding.done
  · intro absent
    have failure := winding.absent (worker.symm.trans absent)
    rwa [step.latched.1 failure]
  · rw [worker]
    exact fun stage => closing (winding.closing stage)
  · intro record member
    rcases winding.threw record (records.2.2 record false member) with failure | failing
    · exact .inl (by rwa [step.latched.1 failure])
    · exact .inr (worker.trans failing)
  · intro stage clean
    rw [worker] at stage
    obtain ⟨shut, handed, written⟩ := winding.drained stage (failed clean)
    refine ⟨closing shut, ?_, fun record returned member =>
      written record returned (records.2.2 record returned member)⟩
    rw [records.1, records.2.1, handed]

/-- The worker moves between stages on the same side of its loop. -/
theorem Winding.advance (winding : recording.Winding) (step : recording.Step next)
    (done : next.status.finished = true → next.done = true)
    (closing : next.closing = recording.closing) (history : next.history = recording.history)
    (absent : next.worker ≠ .absent) (failing : recording.worker ≠ .failing ∨
      next.status.failure ≠ .none)
    (shut : next.worker.Closing → recording.closing = true)
    (drained : next.worker.Drained → recording.worker.Drained) : next.Winding := by
  have failed (clean : next.status.failure = .none) : recording.status.failure = .none := by
    by_contra failure
    rw [step.latched.1 failure] at clean
    exact failure clean
  refine ⟨done, fun same => absurd same absent, ?_, ?_, ?_⟩
  · rw [closing]
    exact shut
  · intro record member
    rw [history] at member
    rcases winding.threw record member with failure | same
    · exact .inl (by rwa [step.latched.1 failure])
    · exact .inl (failing.resolve_left (not_not.mpr same))
  · intro stage clean
    rw [closing, history]
    exact winding.drained (drained stage) (failed clean)

/-- A worker that leaves its loop has handed over everything, or a failure stands. -/
theorem Winding.step (step : recording.Step next) (flow : recording.Flow)
    (winding : recording.Winding) : next.Winding := by
  have moved := step
  cases step with
  | begin | reject =>
      exact winding.keep moved rfl rfl rfl id (.inr ⟨_, rfl, rfl, rfl⟩)
  | check | lock | detached | awake | join | readFinished =>
      exact winding.keep moved rfl rfl rfl id (.inl rfl)
  | shut => exact winding.keep moved rfl rfl rfl (fun _ => rfl) (.inl rfl)
  | overflow =>
      exact winding.keep moved rfl (RecordingStatus.fail_finished _ _) rfl id (.inl rfl)
  | close | readRunning | decide =>
      exact winding.keep moved rfl rfl rfl id (.inr ⟨_, rfl, rfl, rfl⟩)
  | timeout =>
      exact winding.keep moved rfl (RecordingStatus.fail_finished _ _) rfl id
        (.inr ⟨_, rfl, rfl, rfl⟩)
  | accept record bytes current active unshut room fits =>
      have unclean : recording.worker.Drained → recording.status.failure = .none → False := by
        intro stage clean
        have shut := (winding.drained stage clean).1
        rw [unshut] at shut
        cases shut
      refine ⟨winding.done, winding.absent, winding.closing, fun other member => ?_,
        fun stage clean => (unclean stage clean).elim⟩
      exact winding.threw other
        ((List.mem_cons.mp member).resolve_left (fun same => by cases same))
  | take record rest worker free queue =>
      exact winding.advance moved winding.done rfl rfl (by simp) (.inl (by simp [worker]))
        (by simp [WorkerStage.Closing]) (by simp [WorkerStage.Drained])
  | drain worker free queue closing =>
      have running : recording.done = false := by
        by_contra done
        rcases flow.ended (eq_true_of_ne_false done) with same | same | same <;>
          · rw [worker] at same
            cases same
      have whole := flow.whole running
      rw [worker, queue] at whole
      refine ⟨winding.done, by simp, by simp [WorkerStage.Closing], ?_, fun _ clean => ?_⟩
      · intro record member
        exact .inl ((winding.threw record member).resolve_right (by simp [worker]))
      · refine ⟨closing, ?_, fun record returned member => ?_⟩
        · rw [whole]
          exact (List.append_nil _).symm
        · by_contra threw
          rw [eq_false_of_ne_true threw] at member
          rcases winding.threw record member with failure | failing
          · exact failure clean
          · rw [worker] at failing
            cases failing
  | count record worker =>
      exact winding.advance moved winding.done rfl rfl (by simp) (.inl (by simp [worker]))
        (by simp [WorkerStage.Closing]) (by simp [WorkerStage.Drained])
  | giveUp worker =>
      have failure : (recording.status.fail .storage).failure ≠ .none :=
        recording.status.fail_failure (by simp)
      refine ⟨fun finished => winding.done ?_, ?_, ?_, ?_, ?_⟩
      · rwa [← recording.status.fail_finished .storage]
      · intro absent
        cases absent
      · intro closing
        exact closing.elim
      · intro _ _
        exact .inl failure
      · intro _ clean
        exact absurd clean failure
  | linger worker free closing =>
      exact winding.advance moved winding.done rfl rfl (by simp) (.inl (by simp [worker]))
        (fun _ => closing) (by simp [worker, WorkerStage.Drained])
  | write env record worker =>
      have clean (stage : WorkerStage) (same : stage = .wrote record ∨ stage = .failing) :
          ¬ stage.Drained ∧ ¬ stage.Closing ∧ stage ≠ .absent := by
        rcases same with rfl | rfl <;> simp [WorkerStage.Drained, WorkerStage.Closing]
      have stage : (if (sink.write env recording.sinkState record).2 then WorkerStage.wrote record
          else .failing) = .wrote record ∨ (if (sink.write env recording.sinkState record).2
          then WorkerStage.wrote record else .failing) = .failing := by
        split
        · exact .inl rfl
        · exact .inr rfl
      obtain ⟨notDrained, notClosing, notAbsent⟩ := clean _ stage
      refine ⟨winding.done, fun same => absurd same notAbsent, fun same => absurd same notClosing,
        ?_, fun same => absurd same notDrained⟩
      intro other member
      rcases List.mem_cons.mp member with same | member
      · cases returned : (sink.write env recording.sinkState record).2 with
        | true =>
            rw [returned] at same
            cases same
        | false => exact .inr (by simp)
      · exact .inl ((winding.threw other member).resolve_right (by simp [worker]))
  | finishAccess env worker same =>
      exact winding.advance moved winding.done rfl rfl (by simp [worker]) (.inl (by simp [worker]))
        winding.closing id
  | finishFail env reason worker same =>
      exact winding.advance moved
        (fun finished => winding.done (by rwa [← recording.status.fail_finished reason])) rfl rfl
        (by simp [fail, worker]) (.inl (by simp [worker])) winding.closing id
  | finishDone env worker same =>
      exact winding.advance moved winding.done rfl rfl (by simp) (.inl (by simp [worker]))
        (fun _ => winding.closing (by simp [worker, WorkerStage.Closing]))
        (by simp [worker, WorkerStage.Drained])
  | finishThrow env worker same =>
      exact winding.advance moved winding.done rfl rfl (by simp) (.inl (by simp [worker]))
        (fun _ => winding.closing (by simp [worker, WorkerStage.Closing]))
        (by simp [worker, WorkerStage.Drained])
  | abandon worker =>
      exact winding.advance moved
        (fun finished => winding.done (by rwa [← recording.status.fail_finished .storage])) rfl rfl
        (by simp) (.inl (by simp [worker]))
        (fun _ => winding.closing (by simp [worker, WorkerStage.Closing]))
        (by simp [worker, WorkerStage.Drained])
  | clean worker free =>
      exact winding.advance moved (fun _ => rfl) rfl rfl (by simp) (.inl (by simp [worker]))
        (fun _ => winding.closing (by simp [worker, WorkerStage.Closing]))
        (by simp [worker, WorkerStage.Drained])
  | release worker =>
      exact winding.advance moved winding.done rfl rfl (by simp) (.inl (by simp [worker]))
        (fun _ => winding.closing (by simp [worker, WorkerStage.Closing]))
        (by simp [worker, WorkerStage.Drained])

section Separated

/-- Once `close` was called, no call of `submit` is in progress. -/
theorem Pending.quiet (pending : recording.Pending) (separated : Separated recording.history)
    (called : .closeCalled ∈ recording.history) (stream : RecordingStream) :
    recording.submits stream = none := by
  by_contra busy
  obtain ⟨recent, event, past, split, ⟨record, rfl, on⟩, unreturned⟩ := pending stream busy
  obtain ⟨newer, older, same⟩ := List.append_of_mem called
  obtain ⟨returned, late⟩ := separated newer older same
  -- The call began before `close`, so it returned before `close`.
  rw [split] at same
  rcases List.append_eq_append_iff.mp same with ⟨middle, rfl, rest⟩ | ⟨middle, rfl, rest⟩
  · cases middle with
    | nil => cases rest
    | cons first middle =>
        cases rest
        exact late record (by simp)
  · cases middle with
    | nil => cases rest
    | cons first middle =>
        cases rest
        refine returned stream ⟨middle, _, past, rfl, ⟨record, rfl, on⟩, fun later member => ?_⟩
        exact unreturned later (by simp [member])

/-- Before `close` only a failure makes a recording inactive. -/
theorem failed_of_inactive (flow : recording.Flow) (winding : recording.Winding)
    (called : recording.Called) (pending : recording.Pending)
    (separated : Separated recording.history) {stream : RecordingStream}
    (busy : recording.submits stream ≠ none) (inactive : recording.status.Inactive) :
    recording.status.failure ≠ .none := by
  rcases inactive with failed | finished
  · exact failed
  have open' (closing : recording.worker.Closing) : False := by
    have shut := winding.closing closing
    exact busy (pending.quiet separated (called (.inl shut)) stream)
  rcases flow.ended (winding.done finished) with absent | releasing | ended
  · exact winding.absent absent
  · exact (open' (by simp [releasing, WorkerStage.Closing])).elim
  · exact (open' (by simp [ended, WorkerStage.Closing])).elim

/-- A loss before `close` leaves a failure. -/
def Latched (recording : Recording sink) : Prop :=
  Separated recording.history → (∃ loss ∈ recording.history, loss.Loss) →
    recording.status.failure ≠ .none

/-- A loss leaves a failure, unless `close` was called before. -/
theorem Latched.step (step : recording.Step next) (flow : recording.Flow)
    (judged : recording.Judged) (winding : recording.Winding) (called : recording.Called)
    (pending : recording.Pending) (latched : recording.Latched) : next.Latched := by
  have moved := step
  intro separated lost
  have before := moved.separated separated
  have kept (failed : recording.status.failure ≠ .none) : next.status.failure ≠ .none := by
    rwa [moved.latched.1 failed]
  cases step with
  | reject record locked current =>
      have busy : recording.submits record.stream ≠ none := by simp [current]
      have failed := failed_of_inactive flow winding called pending before busy
        ((judged.on record.stream).rejecting record locked current)
      exact failed
  | begin | accept | write | close | timeout | readRunning | decide =>
      obtain ⟨loss, member, record, same⟩ := lost
      refine kept (latched before ⟨loss, ?_, record, same⟩)
      subst same
      exact (List.mem_cons.mp member).resolve_left (fun same => by cases same)
  | check | lock | overflow | take | drain | count | giveUp | linger | finishAccess | finishFail
  | finishDone | finishThrow | abandon | clean | release | shut | detached | awake | join
  | readFinished => exact kept (latched before lost)

/-- A drained worker without a failure has written everything that was offered. -/
theorem lossless_of_drained (judged : recording.Ordered) (winding : recording.Winding)
    (called : recording.Called) (pending : recording.Pending) (latched : recording.Latched)
    (drained : recording.worker.Drained) (clean : recording.status.failure = .none)
    (separated : Separated recording.history) : Lossless recording.history := by
  obtain ⟨closing, handed, written⟩ := winding.drained drained clean
  refine ⟨fun stream => ?_, handed, written⟩
  have idle := pending.quiet separated (called (.inl closing)) stream
  have whole := (judged stream).whole ?_
  · rw [whole, idle]
    exact (List.append_nil _).symm
  · rintro ⟨loss, member, record, rfl, _⟩
    exact latched separated ⟨_, member, record, rfl⟩ clean

/-- A worker that is closing stays so. -/
theorem Step.closing (step : recording.Step next) (closing : recording.worker.Closing) :
    next.worker.Closing := by
  cases step with
  | take record rest worker | drain worker | count record worker | giveUp worker
  | write env record worker => simp [worker, WorkerStage.Closing] at closing
  | linger worker => simp [worker, WorkerStage.Closing] at closing
  | finishDone | finishThrow | abandon | clean | release => trivial
  | begin | check | lock | overflow | accept | reject | finishAccess | finishFail | close | shut
  | detached | timeout | awake | join | readFinished | readRunning | decide => exact closing

/-- Once the worker is closing, a recording without losses stays so. -/
theorem Step.lossless (step : recording.Step next) (winding : recording.Winding)
    (called : recording.Called) (pending : recording.Pending)
    (closing : recording.worker.Closing) (separated : Separated next.history)
    (lossless : Lossless recording.history) : Lossless next.history := by
  have before := step.separated separated
  have shut : .closeCalled ∈ recording.history := called (.inl (winding.closing closing))
  have idle := pending.quiet before shut
  cases step with
  | begin record => exact absurd shut separated.began
  | accept record bytes current | reject record locked current =>
      rw [idle record.stream] at current
      cases current
  | write env record worker => simp [worker, WorkerStage.Closing] at closing
  | close | timeout | readRunning | decide =>
      refine ⟨lossless.accepted, lossless.handed, fun record returned member => ?_⟩
      exact lossless.written record returned
        ((List.mem_cons.mp member).resolve_left (fun same => by cases same))
  | check | lock | overflow | take | drain | count | giveUp | linger | finishAccess | finishFail
  | finishDone | finishThrow | abandon | clean | release | shut | detached | awake | join
  | readFinished => exact lossless

/-- What a true result of `close` says. -/
structure Answered (recording : Recording sink) : Prop where
  deciding : recording.owner = .deciding → recording.status.finished = true
  closed : .closed true ∈ recording.history → recording.worker.Closing ∧
    (Separated recording.history → Lossless recording.history)

/-- `close` answers true only if the worker drained and no failure stands. -/
theorem Answered.step (step : recording.Step next) (flow : recording.Flow)
    (ordered : recording.Ordered) (winding : recording.Winding) (called : recording.Called)
    (pending : recording.Pending) (latched : recording.Latched) (answered : recording.Answered) :
    next.Answered := by
  have moved := step
  have later (member : .closed true ∈ recording.history) : next.worker.Closing ∧
      (Separated next.history → Lossless next.history) := by
    obtain ⟨closing, lossless⟩ := answered.closed member
    refine ⟨moved.closing closing, fun separated => ?_⟩
    exact moved.lossless winding called pending closing separated
      (lossless (moved.separated separated))
  cases step with
  | readFinished owner finished => exact ⟨fun _ => finished, later⟩
  | decide owner =>
      refine ⟨(fun same => by cases same), fun member => ?_⟩
      rcases List.mem_cons.mp member with same | member
      · have clean : recording.status.failure = .none := by simpa using same
        have past := flow.ended (winding.done (answered.deciding owner))
        have closing : recording.worker.Closing ∧ recording.worker.Drained := by
          rcases past with absent | releasing | ended
          · exact absurd clean (winding.absent absent)
          · simp [releasing, WorkerStage.Closing, WorkerStage.Drained]
          · simp [ended, WorkerStage.Closing, WorkerStage.Drained]
        refine ⟨closing.1, fun separated => ?_⟩
        have before := moved.separated separated
        have lossless := lossless_of_drained ordered winding called pending latched closing.2 clean
          before
        exact moved.lossless winding called pending closing.1 separated lossless
      · exact later member
  | begin | accept | reject | write =>
      refine ⟨answered.deciding, fun member => later ?_⟩
      exact (List.mem_cons.mp member).resolve_left (fun same => by cases same)
  | close | timeout | readRunning =>
      refine ⟨(fun same => by cases same), fun member => later ?_⟩
      exact (List.mem_cons.mp member).resolve_left (fun same => by cases same)
  | shut | detached | awake | join => exact ⟨(fun same => by cases same), later⟩
  | overflow | giveUp | finishFail | abandon =>
      exact ⟨fun same => (RecordingStatus.fail_finished _ _).trans (answered.deciding same), later⟩
  | clean => exact ⟨fun _ => rfl, later⟩
  | check | lock | take | drain | count | linger | finishAccess | finishDone | finishThrow
  | release => exact ⟨answered.deciding, later⟩

end Separated

section Runs

/-- What holds in every state of a recording. -/
structure Sound (recording : Recording sink) : Prop where
  keyed : recording.Keyed
  flow : recording.Flow
  judged : recording.Judged
  ordered : recording.Ordered
  inTime : Always AcceptedInTime recording.history
  called : recording.Called
  pending : recording.Pending
  winding : recording.Winding
  latched : recording.Latched
  answered : recording.Answered

/-- Each step keeps all parts of the invariant. -/
theorem Sound.step (step : recording.Step next) (sound : recording.Sound) : next.Sound where
  keyed := sound.keyed.step step
  flow := sound.flow.step step
  judged := sound.judged.step step
  ordered := sound.ordered.step step sound.judged
  inTime := acceptedInTime_step step sound.judged sound.inTime
  called := sound.called.step step
  pending := sound.pending.step step
  winding := sound.winding.step step sound.flow
  latched := sound.latched.step step sound.flow sound.judged sound.winding sound.called sound.pending
  answered := sound.answered.step step sound.flow sound.ordered sound.winding sound.called
    sound.pending sound.latched

theorem Sound.advance (sound : recording.Sound) {action : RecordingAction sink}
    (moved : recording.next action = some next) : recording.Step next ∧ next.Sound :=
  have step := next_step sound.keyed moved
  ⟨step, sound.step step⟩

/-- A recording that nobody has used: it waits for records, or its slot was taken. -/
structure Fresh (recording : Recording sink) : Prop where
  history : recording.history = []
  queue : recording.queue = []
  submits : recording.submits = fun _ => none
  closing : recording.closing = false
  owner : recording.owner = .idle
  stage : recording.worker = .waiting ∧ recording.done = false ∧
      recording.status.finished = false ∨
    recording.worker = .absent ∧ recording.done = true ∧ recording.status.failure ≠ .none

/-- The constructor makes a fresh recording around its sink. -/
theorem create_fresh {sinkState : Option sink.State} {byteLimit recordLimit : Nat}
    {writerBusy threads slot : Bool}
    (created : create sinkState (some {}) byteLimit recordLimit writerBusy threads =
      (.ok recording, slot)) :
    recording.Fresh ∧ sinkState = some recording.sinkState := by
  cases sinkState with
  | none => simp [create] at created
  | some state =>
      simp only [create] at created
      split at created
      · cases created
      split at created
      · cases created
        exact ⟨⟨rfl, rfl, rfl, rfl, rfl, .inr ⟨rfl, rfl, by simp [RecordingStatus.fail]⟩⟩, rfl⟩
      split at created
      · cases created
        exact ⟨⟨rfl, rfl, rfl, rfl, rfl, .inl ⟨rfl, rfl, rfl⟩⟩, rfl⟩
      · cases created

/-- A fresh recording is sound. -/
theorem Fresh.sound (fresh : recording.Fresh) : recording.Sound := by
  obtain ⟨history, queue, submits, closing, owner, stage⟩ := fresh
  have idle (stream : RecordingStream) : recording.submits stream = none := by rw [submits]
  constructor
  · intro stream submit current
    rw [idle] at current
    cases current
  · refine ⟨fun done => ?_, fun running => ?_, ?_⟩
    · rcases stage with ⟨_, running, _⟩ | ⟨absent, _⟩
      · rw [running] at done
        cases done
      · exact .inl absent
    · rcases stage with ⟨waiting, _⟩ | ⟨_, done, _⟩
      · simp [history, queue, waiting, WorkerStage.inHand]
      · rw [done] at running
        cases running
    · simp [history]
  · refine ⟨by simp [history], fun stream => ?_⟩
    rw [idle]
    exact .idle _ _ _
  · intro stream
    rw [idle, history]
    exact ⟨fun _ => rfl, List.prefix_rfl⟩
  · rw [history]
    exact always_nil
  · simp [Called, closing, owner, history]
  · intro stream busy
    exact absurd (idle stream) busy
  · rcases stage with ⟨waiting, done, running⟩ | ⟨absent, done, failed⟩
    · exact ⟨by simp [running], by simp [waiting], by simp [waiting, WorkerStage.Closing],
        by simp [history], by simp [waiting, WorkerStage.Drained]⟩
    · exact ⟨fun _ => done, fun _ => failed, by simp [absent, WorkerStage.Closing],
        by simp [history], by simp [absent, WorkerStage.Drained]⟩
  · intro _ lost
    simp [history] at lost
  · exact ⟨by simp [owner], by simp [history]⟩

/-- What every step preserves of a sound recording holds after every run. -/
theorem run_induction (holds : Recording sink → Prop) (sound : recording.Sound)
    (start : holds recording)
    (kept : ∀ before after : Recording sink, before.Sound → before.Step after → holds before →
      holds after)
    {actions : List (RecordingAction sink)} (ran : recording.run actions = some next) :
    next.Sound ∧ holds next := by
  refine PartialRun.invariant (fun reached => reached.Sound ∧ holds reached) ?_ ran ⟨sound, start⟩
  rintro before action after moved ⟨sound, held⟩
  obtain ⟨step, sound'⟩ := sound.advance moved
  exact ⟨sound', kept before after sound step held⟩

end Runs

end Recording
end Vio
