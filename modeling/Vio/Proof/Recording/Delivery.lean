import Vio.Library.History
import Vio.Proof.Recording.Steps

namespace Vio
open History

namespace RecordingEvent

def acceptedRecord : RecordingEvent → Option RecordingRecord
  | .accepted record => some record
  | _ => none

def offeredRecord : RecordingEvent → Option RecordingRecord
  | .began record => some record
  | _ => none

def handedRecord : RecordingEvent → Option RecordingRecord
  | .written record _ => some record
  | _ => none

/-- A call of `submit` on the stream begins. -/
def Begins (stream : RecordingStream) (event : RecordingEvent) : Prop :=
  ∃ record, event = .began record ∧ record.stream = stream

/-- A call of `submit` returned false. -/
def Loss (event : RecordingEvent) : Prop := ∃ record, event = .rejected record

/-- A call of `submit` on the stream returned false. -/
def LossOn (stream : RecordingStream) (event : RecordingEvent) : Prop :=
  ∃ record, event = .rejected record ∧ record.stream = stream

end RecordingEvent

/-- The submissions that were accepted, in the order of the queue. -/
abbrev acceptedRecords (history : List RecordingEvent) : List RecordingRecord :=
  heard RecordingEvent.acceptedRecord history

/-- The submissions in the order of the calls. -/
abbrev offeredRecords (history : List RecordingEvent) : List RecordingRecord :=
  heard RecordingEvent.offeredRecord history

/-- The records that the sink was handed, in order. -/
abbrev handedRecords (history : List RecordingEvent) : List RecordingRecord :=
  heard RecordingEvent.handedRecord history

def onStream (stream : RecordingStream) (records : List RecordingRecord) : List RecordingRecord :=
  records.filter fun record => record.stream = stream

theorem onStream_append_same {stream : RecordingStream} {record : RecordingRecord}
    (records : List RecordingRecord) (same : record.stream = stream) :
    onStream stream (records ++ [record]) = onStream stream records ++ [record] := by
  simp [onStream, List.filter_append, same]

theorem onStream_append_other {stream : RecordingStream} {record : RecordingRecord}
    (records : List RecordingRecord) (other : record.stream ≠ stream) :
    onStream stream (records ++ [record]) = onStream stream records := by
  simp [onStream, List.filter_append, other]

/-- A loss precedes the newest call on the stream. -/
def Late (stream : RecordingStream) (history : List RecordingEvent) : Prop :=
  Since (fun event => ¬ event.Begins stream)
    (fun event past => event.Begins stream ∧ ∃ loss ∈ past, loss.Loss) history

/-- The recording no longer accepts records. -/
def RecordingStatus.Inactive (status : RecordingStatus) : Prop :=
  status.failure ≠ .none ∨ status.finished = true

/-- After a failure one stands, whether it is this one or an earlier one. -/
theorem RecordingStatus.fail_failure (status : RecordingStatus) {reason : RecordingFailure}
    (real : reason ≠ .none) : (status.fail reason).failure ≠ .none := by
  unfold fail
  split
  · exact real
  · assumption

theorem RecordingStatus.fail_kept (status : RecordingStatus) (reason : RecordingFailure)
    (failed : status.failure ≠ .none) : status.fail reason = status := by
  simp [fail, failed]

theorem RecordingStatus.fail_finished (status : RecordingStatus) (reason : RecordingFailure) :
    (status.fail reason).finished = status.finished := by
  unfold fail
  split <;> rfl

/-- The records that the worker took and has not handed to the sink. -/
def WorkerStage.inHand : WorkerStage → List RecordingRecord
  | .holding record => [record]
  | _ => []

/-- The stages of `submit` from which the record may still be accepted without a further check of
what stood at its beginning. -/
def SubmitStage.Admitted : SubmitStage → Prop
  | .measuring | .locking _ | .inside _ | .insideHealthy _ => True
  | _ => False

namespace Recording
variable {sink : RecordingSink} {recording next : Recording sink}

/-- A failure and the end are final. -/
theorem Step.latched (step : recording.Step next) :
    (recording.status.failure ≠ .none → next.status.failure = recording.status.failure) ∧
      (recording.status.finished = true → next.status.finished = true) := by
  have kept (reason : RecordingFailure) :
      (recording.status.failure ≠ .none →
        (recording.status.fail reason).failure = recording.status.failure) ∧
      (recording.status.finished = true → (recording.status.fail reason).finished = true) :=
    ⟨fun failed => by rw [RecordingStatus.fail_kept _ _ failed],
      fun finished => by rwa [RecordingStatus.fail_finished]⟩
  cases step with
  | overflow | giveUp | finishFail | abandon | timeout => exact kept _
  | clean => exact ⟨fun _ => rfl, fun _ => rfl⟩
  | begin | check | lock | accept | reject | take | drain | count | linger | write | finishAccess
  | finishDone | finishThrow | release | close | shut | detached | awake | join | readFinished
  | readRunning | decide => exact ⟨fun _ => rfl, id⟩

theorem Step.inactive (step : recording.Step next) (inactive : recording.status.Inactive) :
    next.status.Inactive := by
  rcases inactive with failed | finished
  · exact .inl (by rw [step.latched.1 failed]; exact failed)
  · exact .inr (step.latched.2 finished)

section Flow

/-- What was accepted is what was handed over, then what the worker holds, then the queue. -/
structure Flow (recording : Recording sink) : Prop where
  ended : recording.done = true → recording.worker = .absent ∨ recording.worker = .releasing ∨
    recording.worker = .ended
  whole : recording.done = false → acceptedRecords recording.history =
    handedRecords recording.history ++ (recording.worker.inHand ++ recording.queue)
  started : handedRecords recording.history <+: acceptedRecords recording.history

theorem Flow.keep (flow : recording.Flow) (done : next.done = recording.done)
    (worker : next.worker = recording.worker) (queue : next.queue = recording.queue)
    (accepted : acceptedRecords next.history = acceptedRecords recording.history)
    (handed : handedRecords next.history = handedRecords recording.history) : next.Flow where
  ended := by rw [done, worker]; exact flow.ended
  whole := by rw [done, accepted, handed, worker, queue]; exact flow.whole
  started := by rw [accepted, handed]; exact flow.started

/-- The worker moves on with nothing in hand. -/
theorem Flow.worker (flow : recording.Flow) (running : next.done = false → recording.done = false)
    (ended : next.done = true → next.worker = .absent ∨ next.worker = .releasing ∨
      next.worker = .ended)
    (inHand : next.worker.inHand = recording.worker.inHand)
    (queue : next.done = false → next.queue = recording.queue)
    (history : next.history = recording.history) : next.Flow where
  ended := ended
  whole := fun unclean => by
    rw [history, inHand, queue unclean]
    exact flow.whole (running unclean)
  started := by rw [history]; exact flow.started

/-- An accepted record goes from the queue over the worker to the sink. -/
theorem Flow.step (step : recording.Step next) (flow : recording.Flow) : next.Flow := by
  -- A worker at a stage of its loop has not cleaned up.
  have busy {stage : WorkerStage} (worker : recording.worker = stage)
      (absent : stage ≠ .absent) (releasing : stage ≠ .releasing) (ended : stage ≠ .ended) :
      recording.done = false := by
    by_contra done
    rcases flow.ended (eq_true_of_ne_false done) with same | same | same
    · exact absent (worker.symm.trans same)
    · exact releasing (worker.symm.trans same)
    · exact ended (worker.symm.trans same)
  cases step with
  | begin record idle | reject record locked current =>
      exact flow.keep rfl rfl rfl (heard_cons_none rfl)
        (heard_cons_none rfl)
  | check | lock | overflow | finishAccess | shut | detached | awake | join | readFinished =>
      exact flow.keep rfl rfl rfl rfl rfl
  | finishFail env reason worker same => exact flow.keep rfl rfl rfl rfl rfl
  | accept record bytes current active unshut room fits =>
      have accepted : acceptedRecords (recording.accept record bytes).history =
          acceptedRecords recording.history ++ [record] := heard_cons_some rfl
      have handed : handedRecords (recording.accept record bytes).history =
          handedRecords recording.history := heard_cons_none rfl
      refine ⟨flow.ended, fun running => ?_, ?_⟩
      · rw [accepted, handed, flow.whole running]
        simp only [accept, List.append_assoc]
      · rw [accepted, handed]
        exact flow.started.trans (List.prefix_append _ _)
  | take record rest worker free queue =>
      have running := busy worker (by simp) (by simp) (by simp)
      refine ⟨fun done => ?_, fun _ => ?_, flow.started⟩
      · change recording.done = true at done
        rw [running] at done
        cases done
      · have whole := flow.whole running
        rw [worker, queue] at whole
        exact whole
  | write env record worker =>
      have running := busy worker (by simp) (by simp) (by simp)
      have whole := flow.whole running
      rw [worker, WorkerStage.inHand] at whole
      have inHand : (if (sink.write env recording.sinkState record).2 then WorkerStage.wrote record
          else .failing).inHand = [] := by split <;> rfl
      have accepted (returned : Bool) : acceptedRecords (.written record returned :: recording.history) =
          acceptedRecords recording.history := heard_cons_none rfl
      have handed (returned : Bool) : handedRecords (.written record returned :: recording.history) =
          handedRecords recording.history ++ [record] := heard_cons_some rfl
      refine ⟨fun done => ?_, fun _ => ?_, ?_⟩
      · change recording.done = true at done
        rw [running] at done
        cases done
      · simp only [accepted, handed, inHand, List.nil_append]
        rw [whole, List.append_assoc]
      · simp only [accepted, handed]
        rw [whole, ← List.append_assoc]
        exact List.prefix_append _ _
  | drain worker free queue closing =>
      exact flow.worker id (fun done => absurd done (by simp [busy worker]))
        (by simp [worker, WorkerStage.inHand]) (fun _ => rfl) rfl
  | count record worker | giveUp worker | linger worker | finishDone env worker
  | finishThrow env worker | abandon worker =>
      exact flow.worker id (fun done => absurd done (by simp [fail, busy worker]))
        (by simp [worker, WorkerStage.inHand]) (fun _ => rfl) rfl
  | clean worker free =>
      exact flow.worker (fun unclean => by cases unclean) (fun _ => .inr (.inl rfl))
        (by simp [worker, WorkerStage.inHand]) (fun unclean => by cases unclean) rfl
  | release worker =>
      exact flow.worker id (fun _ => .inr (.inr rfl)) (by simp [worker, WorkerStage.inHand])
        (fun _ => rfl) rfl
  | close | timeout | readRunning | decide =>
      exact flow.keep rfl rfl rfl (heard_cons_none rfl)
        (heard_cons_none rfl)

end Flow

section Verdict

/-- An event that begins no call leaves what was lost before the newest one. -/
theorem late_cons {stream : RecordingStream} {event : RecordingEvent} {history : List RecordingEvent}
    (other : ¬ event.Begins stream) : Late stream (event :: history) ↔ Late stream history := by
  unfold Late
  rw [since_cons_iff]
  constructor
  · rintro (⟨begins, _⟩ | ⟨_, late⟩)
    · exact absurd begins other
    · exact late
  · intro late
    exact .inr ⟨other, late⟩

theorem late_loss {stream : RecordingStream} {history : List RecordingEvent}
    (late : Late stream history) : ∃ loss ∈ history, loss.Loss := by
  obtain ⟨recent, event, past, rfl, ⟨_, loss, member, lost⟩, _⟩ := late
  exact ⟨loss, List.mem_append_right _ (List.mem_cons_of_mem _ member), lost⟩

/-- What the call on one stream owes to the status and the history. -/
structure JudgedOn (status : RecordingStatus) (history : List RecordingEvent)
    (stream : RecordingStream) (submit : Option Submit) : Prop where
  rejecting : ∀ record locked, submit = some ⟨record, .rejecting locked⟩ → status.Inactive
  healthy : ∀ record, submit = some ⟨record, .healthy⟩ → Late stream history →
    status.finished = true
  admitted : ∀ record stage, submit = some ⟨record, stage⟩ → stage.Admitted → ¬ Late stream history
  own : submit ≠ none → (∃ loss ∈ history, loss.LossOn stream) → Late stream history

/-- A loss leaves the recording inactive, and a later call is never admitted. -/
structure Judged (recording : Recording sink) : Prop where
  lost : (∃ loss ∈ recording.history, loss.Loss) → recording.status.Inactive
  on : ∀ stream, JudgedOn recording.status recording.history stream (recording.submits stream)

theorem JudgedOn.idle (status : RecordingStatus) (history : List RecordingEvent)
    (stream : RecordingStream) : JudgedOn status history stream none :=
  ⟨by simp, by simp, by simp, by simp⟩

/-- A call is judged at each stage by what the stage has checked. -/
theorem JudgedOn.busy {status : RecordingStatus} {history : List RecordingEvent}
    {stream : RecordingStream} {record : RecordingRecord} {stage : SubmitStage}
    (rejecting : (∃ locked, stage = .rejecting locked) → status.Inactive)
    (healthy : stage = .healthy → Late stream history → status.finished = true)
    (admitted : stage.Admitted → ¬ Late stream history)
    (own : (∃ loss ∈ history, loss.LossOn stream) → Late stream history) :
    JudgedOn status history stream (some ⟨record, stage⟩) where
  rejecting := by
    intro other locked same
    cases same
    exact rejecting ⟨locked, rfl⟩
  healthy := by
    intro other same late
    cases same
    exact healthy rfl late
  admitted := by
    intro other stage same lawful
    cases same
    exact admitted lawful
  own := fun _ => own

/-- A judgement stays where the recording stays inactive and the history adds no loss before the call. -/
theorem JudgedOn.mono {status status' : RecordingStatus} {history history' : List RecordingEvent}
    {stream : RecordingStream} {submit : Option Submit}
    (judged : JudgedOn status history stream submit)
    (inactive : status.Inactive → status'.Inactive)
    (finished : status.finished = true → status'.finished = true)
    (late : Late stream history' ↔ Late stream history)
    (loss : (∃ loss ∈ history', loss.LossOn stream) → ∃ loss ∈ history, loss.LossOn stream) :
    JudgedOn status' history' stream submit where
  rejecting := fun record locked same => inactive (judged.rejecting record locked same)
  healthy := fun record same beyond => finished (judged.healthy record same (late.mp beyond))
  admitted := fun record stage same admitted beyond =>
    judged.admitted record stage same admitted (late.mp beyond)
  own := fun busy lost => late.mpr (judged.own busy (loss lost))

/-- A law about every stream stays where the call of one stream changes lawfully. -/
theorem forall_update (holds : RecordingStream → Option Submit → Prop)
    {submits : RecordingStream → Option Submit} (held : ∀ stream, holds stream (submits stream))
    {stream : RecordingStream} {submit : Option Submit} (here : holds stream submit) :
    ∀ other, holds other (Function.update submits stream submit other) := by
  intro other
  by_cases same : other = stream
  · subst same
    rwa [Function.update_self]
  · rw [Function.update_of_ne same]
    exact held other

/-- An event that begins no call and loses no record changes no verdict. -/
theorem Judged.keep (judged : recording.Judged) (step : recording.Step next)
    (submits : next.submits = recording.submits)
    (history : next.history = recording.history ∨ ∃ event,
      next.history = event :: recording.history ∧ (∀ stream, ¬ event.Begins stream) ∧
        ¬ event.Loss) : next.Judged := by
  have facts : ((∃ loss ∈ next.history, loss.Loss) → ∃ loss ∈ recording.history, loss.Loss) ∧
      ∀ stream, (Late stream next.history ↔ Late stream recording.history) ∧
        ((∃ loss ∈ next.history, loss.LossOn stream) →
          ∃ loss ∈ recording.history, loss.LossOn stream) := by
    rcases history with same | ⟨event, same, silent, kept⟩ <;> rw [same]
    · exact ⟨id, fun stream => ⟨Iff.rfl, id⟩⟩
    · refine ⟨?_, fun stream => ⟨late_cons (silent stream), ?_⟩⟩
      · rintro ⟨loss, member, lost⟩
        rcases List.mem_cons.mp member with rfl | member
        · exact absurd lost kept
        · exact ⟨loss, member, lost⟩
      · rintro ⟨loss, member, record, rfl, on⟩
        rcases List.mem_cons.mp member with rfl | member
        · exact absurd ⟨record, rfl⟩ kept
        · exact ⟨_, member, record, rfl, on⟩
  refine ⟨fun lost => step.inactive (judged.lost (facts.1 lost)), fun stream => ?_⟩
  rw [submits]
  exact (judged.on stream).mono step.inactive step.latched.2 (facts.2 stream).1 (facts.2 stream).2

/-- A check that lets a call on found the recording active. -/
theorem Judged.check (judged : recording.Judged) {record : RecordingRecord}
    {before after : SubmitStage}
    (current : recording.submits record.stream = some ⟨record, before⟩)
    (checked : recording.Check record before after) : (recording.toStage record after).Judged := by
  refine ⟨judged.lost, forall_update (JudgedOn _ _) judged.on ?_⟩
  have here := judged.on record.stream
  rw [current] at here
  have own := here.own (by simp)
  cases checked with
  | failed failure | failedInside _ failure =>
      exact .busy (fun _ => .inl failure) (by simp) (by simp [SubmitStage.Admitted]) own
  | ended finished | endedInside _ finished =>
      exact .busy (fun _ => .inr finished) (by simp) (by simp [SubmitStage.Admitted]) own
  | healthy failure =>
      refine .busy (by simp) (fun _ late => ?_) (by simp [SubmitStage.Admitted]) own
      exact (judged.lost (late_loss late)).resolve_left (not_not.mpr failure)
  | active finished =>
      refine .busy (by simp) (by simp) (fun _ late => ?_) own
      have past := here.healthy record rfl late
      rw [finished] at past
      cases past
  | large | full => exact .busy (by simp) (by simp) (by simp [SubmitStage.Admitted]) own
  | measured | healthyInside =>
      exact .busy (by simp) (by simp) (fun _ => here.admitted record _ rfl trivial) own

/-- A loss leaves the recording inactive, one case for each step. -/
theorem Judged.step (step : recording.Step next) (judged : recording.Judged) : next.Judged := by
  have moved := step
  cases step with
  | begin record idle =>
      refine ⟨fun ⟨loss, member, lost⟩ => judged.lost ?_, ?_⟩
      · rcases List.mem_cons.mp member with rfl | member
        · obtain ⟨_, same⟩ := lost
          cases same
        · exact ⟨loss, member, lost⟩
      have past {stream : RecordingStream}
          (lost : ∃ loss ∈ RecordingEvent.began record :: recording.history, loss.LossOn stream) :
          ∃ loss ∈ recording.history, loss.LossOn stream := by
        obtain ⟨loss, member, other, rfl, on⟩ := lost
        exact ⟨_, (List.mem_cons.mp member).resolve_left (fun same => by cases same), other, rfl, on⟩
      intro stream
      by_cases same : stream = record.stream
      · subst same
        change JudgedOn _ _ _ (Function.update recording.submits record.stream _ record.stream)
        rw [Function.update_self]
        refine .busy (by simp) (by simp) (by simp [SubmitStage.Admitted]) fun lost => ?_
        obtain ⟨loss, member, other, same, _⟩ := past lost
        exact Since.now ⟨⟨record, rfl, rfl⟩, loss, member, other, same⟩
      · change JudgedOn _ _ _ (Function.update recording.submits record.stream _ stream)
        rw [Function.update_of_ne same]
        refine (judged.on stream).mono id id (late_cons ?_) past
        rintro ⟨other, begun, on⟩
        cases begun
        exact same on.symm
  | check record before after current checked => exact judged.check current checked
  | lock record bytes current free =>
      refine ⟨judged.lost, forall_update (JudgedOn _ _) judged.on ?_⟩
      have here := judged.on record.stream
      rw [current] at here
      exact .busy (by simp) (by simp) (fun _ => here.admitted record _ rfl trivial)
        (here.own (by simp))
  | overflow record locked current =>
      have failed : (recording.status.fail .backlog).failure ≠ .none :=
        recording.status.fail_failure (by simp)
      refine ⟨fun _ => .inl failed, forall_update (JudgedOn _ _) (fun stream => ?_) ?_⟩
      · exact (judged.on stream).mono (fun _ => .inl failed) moved.latched.2 Iff.rfl id
      · have own := (judged.on record.stream).own (by rw [current]; simp)
        exact .busy (fun _ => .inl failed) (by simp) (by simp [SubmitStage.Admitted]) own
  | accept record bytes current active unshut room fits =>
      have kept (stream : RecordingStream) : ¬ (RecordingEvent.accepted record).Begins stream := by
        rintro ⟨_, same, _⟩
        cases same
      refine ⟨fun ⟨loss, member, lost⟩ => judged.lost ?_,
        forall_update (JudgedOn _ _) (fun stream => ?_) (.idle _ _ _)⟩
      · rcases List.mem_cons.mp member with rfl | member
        · obtain ⟨_, same⟩ := lost
          cases same
        · exact ⟨loss, member, lost⟩
      · refine (judged.on stream).mono id id (late_cons (kept stream)) ?_
        rintro ⟨loss, member, other, rfl, on⟩
        exact ⟨_, (List.mem_cons.mp member).resolve_left (fun same => by cases same), other, rfl, on⟩
  | reject record locked current =>
      have inactive := (judged.on record.stream).rejecting record locked current
      have kept (stream : RecordingStream) : ¬ (RecordingEvent.rejected record).Begins stream := by
        rintro ⟨_, same, _⟩
        cases same
      refine ⟨fun _ => inactive, fun stream => ?_⟩
      by_cases same : stream = record.stream
      · subst same
        change JudgedOn _ _ _ (Function.update recording.submits record.stream _ record.stream)
        rw [Function.update_self]
        exact .idle _ _ _
      · change JudgedOn _ _ _ (Function.update recording.submits record.stream _ stream)
        rw [Function.update_of_ne same]
        refine (judged.on stream).mono id id (late_cons (kept stream)) ?_
        rintro ⟨loss, member, other, rfl, on⟩
        refine ⟨_, (List.mem_cons.mp member).resolve_left (fun lost => ?_), other, rfl, on⟩
        cases lost
        exact same on.symm
  | write env record worker =>
      refine judged.keep moved rfl (.inr ⟨_, rfl, ?_, ?_⟩)
      · rintro stream ⟨_, same, _⟩
        cases same
      · rintro ⟨_, same⟩
        cases same
  | close | timeout | readRunning | decide =>
      refine judged.keep moved rfl (.inr ⟨_, rfl, ?_, ?_⟩)
      · rintro stream ⟨_, same, _⟩
        cases same
      · rintro ⟨_, same⟩
        cases same
  | take | drain | count | giveUp | linger | finishAccess | finishFail | finishDone | finishThrow
  | abandon | clean | release | shut | detached | awake | join | readFinished =>
      exact judged.keep moved rfl (.inl rfl)

end Verdict

section Order

/-- The call on one stream continues the accepted submissions of that stream. -/
structure OrderedOn (history : List RecordingEvent) (stream : RecordingStream)
    (submit : Option Submit) : Prop where
  whole : (¬ ∃ loss ∈ history, loss.LossOn stream) → onStream stream (offeredRecords history) =
    onStream stream (acceptedRecords history) ++ (submit.map Submit.record).toList
  started : onStream stream (acceptedRecords history) <+: onStream stream (offeredRecords history)

/-- On each stream the accepted submissions come first. -/
def Ordered (recording : Recording sink) : Prop :=
  ∀ stream, OrderedOn recording.history stream (recording.submits stream)

/-- An event of another stream leaves the order on this one. -/
theorem OrderedOn.keep {history : List RecordingEvent} {stream : RecordingStream}
    {submit : Option Submit} {event : RecordingEvent} (ordered : OrderedOn history stream submit)
    (offered : onStream stream (offeredRecords (event :: history)) =
      onStream stream (offeredRecords history))
    (accepted : onStream stream (acceptedRecords (event :: history)) =
      onStream stream (acceptedRecords history)) : OrderedOn (event :: history) stream submit where
  whole := fun lossless => by
    rw [offered, accepted]
    refine ordered.whole fun ⟨loss, member, lost⟩ => lossless ⟨loss, ?_, lost⟩
    exact List.mem_cons_of_mem _ member
  started := by rw [offered, accepted]; exact ordered.started

/-- A call is accepted only if all the earlier ones of its stream were. -/
theorem Ordered.step (step : recording.Step next) (judged : recording.Judged)
    (ordered : recording.Ordered) : next.Ordered := by
  cases step with
  | begin record idle =>
      have offered : offeredRecords (.began record :: recording.history) =
          offeredRecords recording.history ++ [record] := heard_cons_some rfl
      have accepted : acceptedRecords (.began record :: recording.history) =
          acceptedRecords recording.history := heard_cons_none rfl
      intro stream
      change OrderedOn (.began record :: recording.history) stream
        (Function.update recording.submits record.stream _ stream)
      by_cases same : stream = record.stream
      · subst same
        have here := ordered record.stream
        rw [idle] at here
        rw [Function.update_self]
        refine ⟨fun lossless => ?_, ?_⟩
        · rw [offered, accepted, onStream_append_same _ rfl, here.whole]
          · simp
          · rintro ⟨loss, member, lost⟩
            exact lossless ⟨loss, List.mem_cons_of_mem _ member, lost⟩
        · rw [offered, accepted, onStream_append_same _ rfl]
          exact here.started.trans (List.prefix_append _ _)
      · rw [Function.update_of_ne same]
        refine (ordered stream).keep ?_ (by rw [accepted])
        rw [offered, onStream_append_other _ (Ne.symm same)]
  | check record before after current checked =>
      refine forall_update (OrderedOn _) ordered ?_
      have here := ordered record.stream
      rw [current] at here
      exact ⟨here.whole, here.started⟩
  | lock record bytes current free =>
      refine forall_update (OrderedOn _) ordered ?_
      have here := ordered record.stream
      rw [current] at here
      exact ⟨here.whole, here.started⟩
  | overflow record locked current =>
      refine forall_update (OrderedOn _) ordered ?_
      have here := ordered record.stream
      rw [current] at here
      exact ⟨here.whole, here.started⟩
  | accept record bytes current active unshut room fits =>
      have offered : offeredRecords (.accepted record :: recording.history) =
          offeredRecords recording.history := heard_cons_none rfl
      have accepted : acceptedRecords (.accepted record :: recording.history) =
          acceptedRecords recording.history ++ [record] := heard_cons_some rfl
      intro stream
      change OrderedOn (.accepted record :: recording.history) stream
        (Function.update recording.submits record.stream none stream)
      by_cases same : stream = record.stream
      · subst same
        have here := ordered record.stream
        rw [current] at here
        -- An admitted call follows no loss, so nothing of the stream is missing.
        have lossless : ¬ ∃ loss ∈ recording.history, loss.LossOn record.stream := by
          intro lost
          have judgedHere := judged.on record.stream
          rw [current] at judgedHere
          exact judgedHere.admitted record _ rfl trivial (judgedHere.own (by simp) lost)
        have whole := here.whole lossless
        rw [Function.update_self]
        refine ⟨fun _ => ?_, ?_⟩
        · rw [offered, accepted, onStream_append_same _ rfl, whole]
          simp
        · rw [offered, accepted, onStream_append_same _ rfl, whole]
          exact List.prefix_rfl
      · rw [Function.update_of_ne same]
        refine (ordered stream).keep (by rw [offered]) ?_
        rw [accepted, onStream_append_other _ (Ne.symm same)]
  | reject record locked current =>
      have offered : offeredRecords (.rejected record :: recording.history) =
          offeredRecords recording.history := heard_cons_none rfl
      have accepted : acceptedRecords (.rejected record :: recording.history) =
          acceptedRecords recording.history := heard_cons_none rfl
      intro stream
      change OrderedOn (.rejected record :: recording.history) stream
        (Function.update recording.submits record.stream none stream)
      by_cases same : stream = record.stream
      · subst same
        rw [Function.update_self]
        refine ⟨fun lossless => ?_, ?_⟩
        · exact absurd ⟨_, List.mem_cons_self, record, rfl, rfl⟩ lossless
        · rw [offered, accepted]
          exact (ordered record.stream).started
      · rw [Function.update_of_ne same]
        exact (ordered stream).keep (by rw [offered]) (by rw [accepted])
  | write | close | timeout | readRunning | decide =>
      intro stream
      exact (ordered stream).keep (congrArg _ (heard_cons_none rfl)) (congrArg _ (heard_cons_none rfl))
  | take | drain | count | giveUp | linger | finishAccess | finishFail | finishDone | finishThrow
  | abandon | clean | release | shut | detached | awake | join | readFinished => exact ordered

/-- No call that began after a loss is accepted. -/
def AcceptedInTime (event : RecordingEvent) (past : List RecordingEvent) : Prop :=
  ∀ record, event = .accepted record → ¬ Late record.stream past

/-- A call that began after a loss is rejected, so only timely ones are accepted. -/
theorem acceptedInTime_step (step : recording.Step next) (judged : recording.Judged)
    (always : Always AcceptedInTime recording.history) : Always AcceptedInTime next.history := by
  cases step with
  | accept record bytes current active unshut room fits =>
      refine always.cons fun other same => ?_
      cases same
      have here := judged.on record.stream
      rw [current] at here
      exact here.admitted record _ rfl trivial
  | begin | reject | write | close | timeout | readRunning | decide =>
      exact always.cons fun other same => by cases same
  | check | lock | overflow | take | drain | count | giveUp | linger | finishAccess | finishFail
  | finishDone | finishThrow | abandon | clean | release | shut | detached | awake | join
  | readFinished => exact always

end Order

end Recording
end Vio
