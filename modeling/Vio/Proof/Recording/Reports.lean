import Vio.Proof.Recording.Files
import Vio.Proof.Recording.Shutdown

namespace Vio
open History

def RecordingEvent.returnedRecord : RecordingEvent → Option RecordingRecord
  | .written record true => some record
  | _ => none

/-- The records whose `write` returned, in order. -/
abbrev returnedRecords (history : List RecordingEvent) : List RecordingRecord :=
  heard RecordingEvent.returnedRecord history

/-- Where every `write` returned, the returned records are the ones handed over. -/
theorem returned_eq_handed {history : List RecordingEvent}
    (written : ∀ record returned, .written record returned ∈ history → returned = true) :
    returnedRecords history = handedRecords history := by
  induction history with
  | nil => rfl
  | cons event history inductionHypothesis =>
      have earlier := inductionHypothesis fun record returned member =>
        written record returned (List.mem_cons_of_mem _ member)
      cases event with
      | written record returned =>
          obtain rfl := written record returned List.mem_cons_self
          have more : returnedRecords (.written record true :: history) =
              returnedRecords history ++ [record] := heard_cons_some rfl
          have handed : handedRecords (.written record true :: history) =
              handedRecords history ++ [record] := heard_cons_some rfl
          rw [more, earlier, handed]
      | began | accepted | rejected | closeCalled | closed =>
          rw [returnedRecords, handedRecords, heard_cons_none rfl, heard_cons_none rfl]
          exact earlier

/-- The text of the report says that the writer drained the queue. -/
def saysDrained (report : String) : Bool :=
  "\x7b\"version\":1,\"writer_drained\":true".toList.isPrefixOf report.toList

/-- The answer stands at the beginning of the report. -/
theorem answer_begins (answer : Bool) (rest : List Char) :
    "\x7b\"version\":1,\"writer_drained\":true".toList.isPrefixOf
      ("\x7b\"version\":1,\"writer_drained\":".toList ++
        ((if answer = true then "true" else "false").toList ++ rest)) = answer := by
  cases answer <;> simp [List.isPrefixOf]

theorem saysDrained_reportText (answer : Bool) (reason : RecordingFailure) (counts : List Nat) :
    saysDrained (reportText answer reason counts) = answer := by
  unfold saysDrained reportText
  simp only [String.toList_append, List.append_assoc]
  apply answer_begins

/-- No beginning of the unfinished report says drained. -/
theorem not_saysDrained_take (kept : Nat) :
    saysDrained (String.ofList (unfinishedReport.toList.take kept)) = false := by
  have text : (String.ofList (unfinishedReport.toList.take kept)).toList =
      unfinishedReport.toList.take kept := String.toList_ofList
  rw [← Bool.not_eq_true, saysDrained, List.isPrefixOf_iff_prefix, text]
  intro begins
  have whole := begins.trans (List.take_prefix kept unfinishedReport.toList)
  rw [← List.isPrefixOf_iff_prefix] at whole
  revert whole
  decide

theorem not_saysDrained_unfinished : saysDrained unfinishedReport = false := by decide

/-- The outputs are closed, and the result is noted in the status. -/
def FinishStage.Noted : FinishStage → Prop
  | .noted | .drained _ | .counting _ _ _ => True
  | _ => False

/-- What the report is going to say. -/
def FinishStage.answer : FinishStage → Option Bool
  | .drained answer | .counting answer _ _ => some answer
  | _ => none

/-- The worker takes records from the queue. -/
def WorkerStage.Looping : WorkerStage → Prop
  | .waiting | .holding _ | .wrote _ => True
  | _ => False

/-- The worker has not left the sink. -/
def WorkerStage.Using : WorkerStage → Prop
  | .waiting | .holding _ | .wrote _ | .failing | .lingering | .finishing => True
  | _ => False

/-- The worker left the sink for good. -/
def WorkerStage.Over : WorkerStage → Prop
  | .cleaning | .releasing | .ended => True
  | _ => False

namespace FileSink
variable {sink : FileSink} {records : List RecordingRecord} {chunks : List RecordingChunk}

/-- Opening the files writes no report that says drained. -/
theorem openFiles_report (storage : Storage) (sink : FileSink) :
    (openFiles storage sink).1.report = sink.report ∨
      saysDrained (openFiles storage sink).1.report = false := by
  unfold openFiles
  split
  · exact .inl rfl
  split
  · exact .inr (not_saysDrained_take _)
  · exact .inr not_saysDrained_unfinished

/-- A sink that is unopened after a write was so before. -/
theorem write_opened (storage : Storage) (sink : FileSink) (record : RecordingRecord)
    (unopened : (write storage sink record).1.opened = false) : sink.opened = false := by
  by_contra opened
  have same : openFiles storage sink = (sink, true) := by
    rw [openFiles, if_pos (eq_true_of_ne_false opened)]
  rw [write, same] at unopened
  exact opened unopened

/-- A write leaves the report, or leaves one that does not say drained. -/
theorem write_report (storage : Storage) (sink : FileSink) (record : RecordingRecord) :
    (write storage sink record).1.report = sink.report ∨
      saysDrained (write storage sink record).1.report = false := by
  have opens := openFiles_report storage sink
  unfold write
  cases same : openFiles storage sink with
  | mk after returned =>
      rw [same] at opens
      cases returned <;> exact opens

/-- The sink that `finish` closes. -/
def reopen (storage : Storage) (sink : FileSink) : FileSink × Bool :=
  if sink.outputs = [] then openFiles storage sink else (sink, true)

/-- Opening the files leaves what was given, or nothing where an opening failed. -/
theorem reopen_spec (storage : Storage) (start : sink.stage = .start)
    (given : sink.Given chunks records) (unopened : sink.opened = false → records = []) :
    (reopen storage sink).1.files = sink.files ∧ (reopen storage sink).1.stage = .start ∧
      (∃ chunks', (chunks' = chunks ∨ chunks' = [] ∧ records = []) ∧
        (reopen storage sink).1.Given chunks' records) ∧
      ((reopen storage sink).1.opened = false → records = []) ∧
      ((reopen storage sink).1.report = sink.report ∨
        saysDrained (reopen storage sink).1.report = false) := by
  unfold reopen
  split
  · rename_i empty
    cases opened : sink.opened with
    | true =>
        rw [openFiles, if_pos opened]
        exact ⟨rfl, start, ⟨chunks, .inl rfl, given⟩, unopened, .inl rfl⟩
    | false =>
        obtain ⟨files, start, layout, _⟩ := openFiles_spec storage start opened empty
        obtain rfl := unopened opened
        exact ⟨files, start, ⟨[], .inr ⟨rfl, rfl⟩, layout⟩, fun _ => rfl, openFiles_report storage sink⟩
  · exact ⟨rfl, start, ⟨chunks, .inl rfl, given⟩, unopened, .inl rfl⟩

/-- A reopening that succeeds leaves a sink in use. -/
theorem Ready.reopen (ready : sink.Ready records) (storage : Storage)
    (returned : (reopen storage sink).2 = true) :
    (FileSink.reopen storage sink).1.outputs.length = sink.files.length ∧
      (FileSink.reopen storage sink).1.Given (chunksOf records) records := by
  unfold FileSink.reopen at returned ⊢
  split at returned
  · rename_i empty
    rw [if_pos empty]
    obtain ⟨_, _, given, opens⟩ := ready.opens storage
    exact ⟨(opens returned).2, given⟩
  · rename_i present
    rw [if_neg present]
    rcases ready.outputs with ⟨_, length⟩ | ⟨_, empty, _⟩
    · exact ⟨length, ready.given⟩
    · exact absurd empty present

/-- The first access of `finish` closes every output, or it throws. -/
theorem finish_start (storage : Storage) (status : RecordingStatus) (start : sink.stage = .start) :
    finish storage status sink =
      if (reopen storage sink).2 then
        ({ (reopen storage sink).1 with
            outputs := closeOutputs storage 0 (reopen storage sink).1.files
              (reopen storage sink).1.outputs
            stage := .closed ((closeOutputs storage 0 (reopen storage sink).1.files
              (reopen storage sink).1.outputs).all FileStream.good) }, .proceed)
      else ((reopen storage sink).1, .throw) := by
  unfold finish
  rw [start]
  dsimp only
  rcases same : reopen storage sink with ⟨next, returned⟩
  unfold reopen at same
  rw [same]
  cases returned <;> rfl

/-- The later accesses of `finish` leave the outputs. -/
theorem finish_later (storage : Storage) (status : RecordingStatus) (later : sink.stage ≠ .start) :
    (finish storage status sink).1.files = sink.files ∧
      (finish storage status sink).1.outputs = sink.outputs ∧
      (finish storage status sink).1.opened = sink.opened ∧
      (finish storage status sink).1.stage ≠ .start := by
  unfold finish
  split
  · exact absurd ‹_› later
  · exact ⟨rfl, rfl, rfl, by simp⟩
  · exact ⟨rfl, rfl, rfl, by simp⟩
  · exact ⟨rfl, rfl, rfl, by simp⟩
  · split
    · exact ⟨rfl, rfl, rfl, by simp⟩
    · split <;> exact ⟨rfl, rfl, rfl, later⟩

/-- What the later accesses of `finish` decide. -/
inductive Later (status : RecordingStatus) (sink next : FileSink) : FinishStep → Prop
  | noted (stage : sink.stage = .closed true) (stage' : next.stage = .noted)
      (report : next.report = sink.report) : Later status sink next .proceed
  | failed (stage' : next.stage = .noted) (report : next.report = sink.report) :
      Later status sink next (.fail .storage)
  | drained (stage : sink.stage = .noted)
      (stage' : next.stage = .drained (status.failure = .none))
      (report : next.report = sink.report) : Later status sink next .proceed
  | counted (answer : sink.stage.answer = next.stage.answer) (noted : sink.stage.Noted)
      (noted' : next.stage.Noted) (report : next.report = sink.report) :
      Later status sink next .proceed
  | reported (answer : Bool) (stage : sink.stage.answer = some answer) (same : next.stage = sink.stage)
      (noted : sink.stage.Noted) (report : saysDrained next.report = answer) :
      Later status sink next .done
  | threw (same : next = sink) : Later status sink next .throw

/-- The accesses of `finish` go on one by one to the last report. -/
theorem finish_cases (storage : Storage) (status : RecordingStatus) (later : sink.stage ≠ .start) :
    Later status sink (finish storage status sink).1 (finish storage status sink).2 := by
  unfold finish
  split
  · exact absurd ‹_› later
  · rename_i good stage
    cases good with
    | true => exact .noted stage rfl rfl
    | false => exact .failed rfl rfl
  · exact .drained ‹_› rfl rfl
  · rename_i stage
    exact .counted (by rw [stage]; rfl) (by rw [stage]; trivial) trivial rfl
  · rename_i answer reason counts stage
    split
    · exact .counted (by rw [stage]; rfl) (by rw [stage]; trivial) trivial rfl
    split
    · exact .threw rfl
    · refine .reported answer (by rw [stage]; rfl) rfl (by rw [stage]; trivial) ?_
      exact saysDrained_reportText answer reason counts

end FileSink

namespace Recording
variable {recording next : Recording fileSink}

/-- Everything is stored, and the worker is on its way out. -/
structure Secured (recording : Recording fileSink) : Prop where
  closing : recording.worker.Closing
  complete : recording.sinkState.Complete (handedRecords recording.history)
  lossless : Separated recording.history → Lossless recording.history

/-- A worker that is closing hands over nothing more. -/
theorem Step.handed (step : recording.Step next) (closing : recording.worker.Closing) :
    handedRecords next.history = handedRecords recording.history := by
  cases step with
  | write env record worker => simp [worker, WorkerStage.Closing] at closing
  | begin | accept | reject | close | timeout | readRunning | decide => exact heard_cons_none rfl
  | check | lock | overflow | take | drain | count | giveUp | linger | finishAccess | finishFail
  | finishDone | finishThrow | abandon | clean | release | shut | detached | awake | join
  | readFinished => rfl

/-- A worker that left the sink does not come back to it. -/
theorem Step.past (step : recording.Step next) (past : recording.worker.Over) :
    next.worker.Over := by
  cases step with
  | take record rest worker | drain worker | count record worker | giveUp worker
  | write env record worker => simp [worker, WorkerStage.Over] at past
  | linger worker | finishAccess env worker | finishFail env reason worker
  | finishThrow env worker => simp [worker, WorkerStage.Over] at past
  | finishDone | abandon | clean | release => trivial
  | begin | check | lock | overflow | accept | reject | close | shut | detached | timeout | awake
  | join | readFinished | readRunning | decide => exact past

/-- What is stored stays stored where the files are left alone. -/
theorem Secured.step (step : recording.Step next) (sound : recording.Sound)
    (files : next.sinkState.files = recording.sinkState.files)
    (outputs : next.sinkState.outputs = recording.sinkState.outputs)
    (secured : recording.Secured) : next.Secured where
  closing := step.closing secured.closing
  complete := by
    rw [step.handed secured.closing]
    have complete := secured.complete
    refine ⟨?_, ?_⟩
    · rw [outputs, files]
      exact complete.length
    · rw [outputs, files]
      exact complete.content
  lossless := fun separated =>
    step.lossless sound.winding sound.called sound.pending secured.closing separated
      (secured.lossless (step.separated separated))

/-- What the stage of the worker and the text of the report say about the outputs. -/
structure Stored (files : List RecordingFile) (recording : Recording fileSink) : Prop where
  files : recording.sinkState.files = files
  unopened : recording.sinkState.opened = false → returnedRecords recording.history = []
  given : ∃ chunks, chunksOf (returnedRecords recording.history) <+: chunks ∧
    chunks <+: chunksOf (handedRecords recording.history) ∧
    recording.sinkState.Given chunks (returnedRecords recording.history)
  looping : recording.worker.Looping → recording.sinkState.stage = .start ∧
    returnedRecords recording.history = handedRecords recording.history
  ready : recording.worker.Using → recording.sinkState.stage = .start →
    returnedRecords recording.history = handedRecords recording.history →
    recording.sinkState.Ready (handedRecords recording.history)
  later : recording.sinkState.stage ≠ .start → recording.worker.Closing
  closed : recording.sinkState.stage = .closed true →
    returnedRecords recording.history = handedRecords recording.history →
    recording.sinkState.Complete (handedRecords recording.history)
  noted : recording.sinkState.stage.Noted → recording.status.failure = .none →
    recording.sinkState.Complete (handedRecords recording.history)
  past : recording.worker.Over → recording.status.failure = .none → recording.sinkState.stage.Noted
  answered : recording.sinkState.stage.answer = some true → recording.Secured
  reported : saysDrained recording.sinkState.report = true →
    recording.worker.Over ∧ recording.Secured
  last : ∃ rest, handedRecords recording.history = returnedRecords recording.history ++ rest ∧
    rest.length ≤ 1

/-- A step outside the sink. -/
theorem Stored.keep {files : List RecordingFile} (stored : recording.Stored files)
    (step : recording.Step next) (sound : recording.Sound)
    (sinkState : next.sinkState = recording.sinkState)
    (handed : handedRecords next.history = handedRecords recording.history)
    (returned : returnedRecords next.history = returnedRecords recording.history)
    (looping : next.worker.Looping → recording.worker.Looping)
    (using' : next.worker.Using → recording.worker.Using)
    (past : next.worker.Over → next.status.failure = .none → recording.worker.Over) :
    next.Stored files := by
  have failed (clean : next.status.failure = .none) : recording.status.failure = .none := by
    by_contra failure
    rw [step.latched.1 failure] at clean
    exact failure clean
  have secured (before : recording.Secured) : next.Secured :=
    before.step step sound (by rw [sinkState]) (by rw [sinkState])
  refine ⟨?_, ?_, ?_, ?_, ?_, ?_, ?_, ?_, ?_, ?_, ?_, ?_⟩ <;> try rw [sinkState]
  · exact stored.files
  · rw [returned]
    exact stored.unopened
  · rw [handed, returned]
    exact stored.given
  · rw [handed, returned]
    exact fun stage => stored.looping (looping stage)
  · rw [handed, returned]
    exact fun stage => stored.ready (using' stage)
  · exact fun stage => step.closing (stored.later stage)
  · rw [handed, returned]
    exact stored.closed
  · rw [handed]
    exact fun noted clean => stored.noted noted (failed clean)
  · exact fun stage clean => stored.past (past stage clean) (failed clean)
  · exact fun answer => secured (stored.answered answer)
  · exact fun drained => ⟨step.past (stored.reported drained).1, secured (stored.reported drained).2⟩
  · rw [handed, returned]
    exact stored.last

/-- A write that returns puts the chunks into their files. -/
theorem Stored.write {files : List RecordingFile} (stored : recording.Stored files)
    (env : Storage) (record : RecordingRecord) (worker : recording.worker = .holding record)
    (sinkState : next.sinkState = (FileSink.write env recording.sinkState record).1)
    (stage : next.worker = if (FileSink.write env recording.sinkState record).2 then .wrote record
      else .failing)
    (history : next.history =
      .written record (FileSink.write env recording.sinkState record).2 :: recording.history) :
    next.Stored files := by
  obtain ⟨start, returned⟩ := stored.looping (by simp [worker, WorkerStage.Looping])
  have ready := stored.ready (by simp [worker, WorkerStage.Using]) start returned
  have report := FileSink.write_report env recording.sinkState record
  have opened := FileSink.write_opened env recording.sinkState record
  obtain ⟨sameFiles, start', ⟨done, begins, given⟩, whole⟩ := FileSink.write_spec env record ready
  rw [← sinkState] at report opened sameFiles start' given whole
  have handed : handedRecords next.history = handedRecords recording.history ++ [record] := by
    rw [history]
    exact heard_cons_some rfl
  have silent : ¬ recording.Secured := fun secured => by
    have closing := secured.closing
    simp [worker, WorkerStage.Closing] at closing
  have unreported : saysDrained next.sinkState.report = true →
      next.worker.Over ∧ next.Secured := by
    intro drained
    rcases report with same | quiet
    · rw [same] at drained
      exact absurd (stored.reported drained).2 silent
    · rw [quiet] at drained
      cases drained
  cases same : (FileSink.write env recording.sinkState record).2 with
  | true =>
      rw [same] at stage history
      obtain ⟨open', ready'⟩ := whole same
      have returned' : returnedRecords next.history = handedRecords next.history := by
        rw [handed, ← returned, history]
        exact heard_cons_some rfl
      rw [← handed] at ready'
      refine ⟨sameFiles.trans stored.files, fun shut => ?_, ?_, fun _ => ⟨start', returned'⟩,
        fun _ _ _ => ready', fun later => absurd start' later, ?_, ?_, ?_, ?_, unreported, ?_⟩
      · rw [open'] at shut
        cases shut
      · rw [returned']
        exact ⟨_, List.prefix_rfl, List.prefix_rfl, ready'.given⟩
      · simp [start']
      · simp [start', FinishStage.Noted]
      · simp [stage, WorkerStage.Over]
      · simp [start', FinishStage.answer]
      · exact ⟨[], by rw [returned', List.append_nil], by simp⟩
  | false =>
      rw [same] at stage history
      have returned' : returnedRecords next.history = handedRecords recording.history := by
        rw [← returned, history]
        exact heard_cons_none rfl
      have threw : returnedRecords next.history ≠ handedRecords next.history := by
        rw [returned', handed]
        simp
      refine ⟨sameFiles.trans stored.files, fun shut => ?_, ?_, ?_, fun _ _ all => absurd all threw,
        fun later => absurd start' later, ?_, ?_, ?_, ?_, unreported, ?_⟩
      · rw [returned', ← returned]
        exact stored.unopened (opened shut)
      · rw [returned', handed, chunksOf_snoc]
        refine ⟨_, List.prefix_append _ _, ?_, given⟩
        exact (List.prefix_append_right_inj _).mpr begins
      · simp [stage, WorkerStage.Looping]
      · simp [start']
      · simp [start', FinishStage.Noted]
      · simp [stage, WorkerStage.Over]
      · simp [start', FinishStage.answer]
      · exact ⟨[record], by rw [returned', handed], by simp⟩

/-- The stage of the worker after an access of `finish`. -/
def afterFinish : FinishStep → WorkerStage
  | .proceed | .fail _ => .finishing
  | .done => .cleaning
  | .throw => .failingFinish

/-- The first access of `finish` closes the files with their footers. -/
theorem Stored.finishStart {files : List RecordingFile} (stored : recording.Stored files)
    (env : Storage) (worker : recording.worker = .finishing)
    (start : recording.sinkState.stage = .start)
    (sinkState : next.sinkState =
      (FileSink.finish env recording.status recording.sinkState).1)
    (stage : next.worker =
      afterFinish (FileSink.finish env recording.status recording.sinkState).2)
    (history : next.history = recording.history) : next.Stored files := by
  obtain ⟨chunks, begins, ends, given⟩ := stored.given
  obtain ⟨sameFiles, start', ⟨chunks', either, given'⟩, unopened, report⟩ :=
    FileSink.reopen_spec env start given stored.unopened
  have ends' : chunksOf (returnedRecords recording.history) <+: chunks' ∧
      chunks' <+: chunksOf (handedRecords recording.history) := by
    rcases either with rfl | ⟨rfl, none⟩
    · exact ⟨begins, ends⟩
    · rw [none]
      exact ⟨List.prefix_rfl, List.nil_prefix⟩
  have unreported (same : next.sinkState.report =
      (FileSink.reopen env recording.sinkState).1.report) :
      saysDrained next.sinkState.report = true → next.worker.Over ∧ next.Secured := by
    intro drained
    rw [same] at drained
    rcases report with same | quiet
    · rw [same] at drained
      have past := (stored.reported drained).1
      simp [worker, WorkerStage.Over] at past
    · rw [quiet] at drained
      cases drained
  rw [FileSink.finish_start env recording.status start] at sinkState stage
  cases returned : (FileSink.reopen env recording.sinkState).2 with
  | false =>
      rw [returned, if_neg Bool.false_ne_true] at sinkState stage
      replace stage : next.worker = .failingFinish := stage
      rw [← sinkState] at sameFiles start' given' unopened
      refine ⟨sameFiles.trans stored.files, ?_, ?_, ?_, ?_, fun later => absurd start' later,
        ?_, ?_, ?_, ?_, unreported (by rw [sinkState]), ?_⟩
      · rw [history]
        exact unopened
      · rw [history]
        exact ⟨chunks', ends'.1, ends'.2, given'⟩
      · simp [stage, WorkerStage.Looping]
      · simp [stage, WorkerStage.Using]
      · simp [start']
      · simp [start', FinishStage.Noted]
      · simp [stage, WorkerStage.Over]
      · simp [start', FinishStage.answer]
      · rw [history]
        exact stored.last
  | true =>
      rw [returned, if_pos rfl] at sinkState stage
      replace stage : next.worker = .finishing := stage
      rw [FileSink.given_iff start'] at given'
      have closes := (FileSink.closeOutputs_layout env given').1
      have isClosed : next.sinkState.stage = .closed ((FileSink.closeOutputs env 0
          (FileSink.reopen env recording.sinkState).1.files
          (FileSink.reopen env recording.sinkState).1.outputs).all FileStream.good) := by
        rw [sinkState]
      refine ⟨?_, ?_, ?_, ?_, ?_, ?_, ?_, ?_, ?_, ?_, unreported (by rw [sinkState]), ?_⟩
      · rw [sinkState]
        exact sameFiles.trans stored.files
      · rw [history, sinkState]
        exact unopened
      · rw [history]
        refine ⟨chunks', ends'.1, ends'.2, ?_⟩
        have ending (file : RecordingFile) : next.sinkState.ending file = file.footer := by
          rw [FileSink.ending, isClosed, if_neg (by simp)]
        rw [FileSink.Given]
        refine Layout.congr ?_ (fun index file => by rw [ending]) (fun _ _ => rfl)
        rw [sinkState]
        exact closes
      · simp [stage, WorkerStage.Looping]
      · intro _ start
        rw [isClosed] at start
        cases start
      · intro _
        rw [stage]
        trivial
      · intro good all
        rw [history] at all ⊢
        rw [isClosed] at good
        have ready := stored.ready (by simp [worker, WorkerStage.Using]) start all
        obtain ⟨length, given⟩ := ready.reopen env returned
        rw [FileSink.given_iff start'] at given
        have content := (FileSink.closeOutputs_layout env given).2 (by simpa using good)
        rw [sinkState]
        refine ⟨?_, content⟩
        dsimp only
        rw [FileSink.closeOutputs_length, length, sameFiles]
      · simp [isClosed, FinishStage.Noted]
      · simp [stage, WorkerStage.Over]
      · simp [isClosed, FinishStage.answer]
      · rw [history]
        exact stored.last

/-- The later accesses write the report only. -/
theorem Stored.finishLater {files : List RecordingFile} (stored : recording.Stored files)
    (step : recording.Step next) (sound : recording.Sound) (env : Storage)
    (worker : recording.worker = .finishing) (later : recording.sinkState.stage ≠ .start)
    (sinkState : next.sinkState =
      (FileSink.finish env recording.status recording.sinkState).1)
    (stage : next.worker =
      afterFinish (FileSink.finish env recording.status recording.sinkState).2)
    (failed : ∀ reason, (FileSink.finish env recording.status recording.sinkState).2 =
      .fail reason → reason ≠ .none → next.status.failure ≠ .none)
    (history : next.history = recording.history) : next.Stored files := by
  have clean (failure : next.status.failure = .none) : recording.status.failure = .none := by
    by_contra failed
    rw [step.latched.1 failed] at failure
    exact failed failure
  have whole (failure : recording.status.failure = .none) :
      returnedRecords recording.history = handedRecords recording.history := by
    have drained := sound.winding.drained (by simp [worker, WorkerStage.Drained]) failure
    exact returned_eq_handed drained.2.2
  obtain ⟨sameFiles, outputs, opened, later'⟩ :=
    FileSink.finish_later env recording.status later
  have cases' := FileSink.finish_cases env recording.status later
  rw [← sinkState] at sameFiles outputs opened later' cases'
  have complete (before : recording.sinkState.Complete (handedRecords recording.history)) :
      next.sinkState.Complete (handedRecords next.history) := by
    rw [history]
    refine ⟨?_, ?_⟩ <;> rw [outputs, sameFiles]
    · exact before.length
    · exact before.content
  have secured (before : recording.Secured) : next.Secured :=
    before.step step sound sameFiles outputs
  have unreported (same : next.sinkState.report = recording.sinkState.report) :
      saysDrained next.sinkState.report = true → next.worker.Over ∧ next.Secured := by
    intro drained
    rw [same] at drained
    have past := (stored.reported drained).1
    simp [worker, WorkerStage.Over] at past
  -- What does not depend on the decision of this access.
  have common (looping : ¬ next.worker.Looping) (closing : next.worker.Closing)
      (closed : next.sinkState.stage = .closed true → recording.sinkState.stage = .closed true)
      (noted : next.sinkState.stage.Noted → next.status.failure = .none →
        recording.sinkState.Complete (handedRecords recording.history))
      (past : next.worker.Over → next.sinkState.stage.Noted)
      (answered : next.sinkState.stage.answer = some true → recording.Secured)
      (reported : saysDrained next.sinkState.report = true → next.worker.Over ∧ next.Secured) :
      next.Stored files := by
    refine ⟨sameFiles.trans stored.files, ?_, ?_, fun same => absurd same looping,
      fun _ start => absurd start later', fun _ => closing, fun same all => ?_,
      fun same failure => complete (noted same failure), fun same _ => past same,
      fun same => secured (answered same), reported, ?_⟩
    · rw [opened, history]
      exact stored.unopened
    · obtain ⟨chunks, begins, ends, given⟩ := stored.given
      rw [history]
      refine ⟨chunks, begins, ends, ?_⟩
      rw [FileSink.Given, sameFiles, outputs]
      refine Layout.congr given (fun index file => ?_) (fun _ _ => rfl)
      rw [FileSink.ending, FileSink.ending, if_neg later, if_neg later']
    · rw [history] at all
      exact complete (stored.closed (closed same) all)
    · rw [history]
      exact stored.last
  cases result : (FileSink.finish env recording.status recording.sinkState).2 with
  | proceed =>
      rw [result] at cases' stage
      replace stage : next.worker = .finishing := stage
      have closing : next.worker.Closing := by rw [stage]; trivial
      have looping : ¬ next.worker.Looping := by simp [stage, WorkerStage.Looping]
      have past : ¬ next.worker.Over := by simp [stage, WorkerStage.Over]
      cases cases' with
      | noted before after report =>
          refine common looping closing (by simp [after])
            (fun _ failure => stored.closed before (whole (clean failure)))
            (fun same => absurd same past) (by simp [after, FinishStage.answer]) (unreported report)
      | drained before after report =>
          refine common looping closing (by simp [after]) (fun _ failure => ?_)
            (fun same => absurd same past) (fun same => ?_) (unreported report)
          · exact stored.noted (by rw [before]; trivial) (clean failure)
          · have failure : recording.status.failure = .none := by
              simpa [after, FinishStage.answer] using same
            refine ⟨by rw [worker]; trivial, stored.noted (by rw [before]; trivial) failure, ?_⟩
            exact lossless_of_drained sound.ordered sound.winding sound.called sound.pending
              sound.latched (by rw [worker]; trivial) failure
      | counted answer noted noted' report =>
          refine common looping closing (fun same => ?_)
            (fun _ failure => stored.noted noted (clean failure)) (fun same => absurd same past)
            (fun same => stored.answered (answer.trans same)) (unreported report)
          rw [same] at noted'
          exact noted'.elim
  | fail reason =>
      rw [result] at cases' stage
      replace stage : next.worker = .finishing := stage
      cases cases' with
      | failed after report =>
          have failure := failed .storage result (by simp)
          refine common (by simp [stage, WorkerStage.Looping]) (by rw [stage]; trivial)
            (by simp [after]) (fun _ clean => absurd clean failure)
            (fun same => ?_) (by simp [after, FinishStage.answer]) (unreported report)
          simp [stage, WorkerStage.Over] at same
  | done =>
      rw [result] at cases' stage
      replace stage : next.worker = .cleaning := stage
      cases cases' with
      | reported answer before same noted report =>
          refine common (by simp [stage, WorkerStage.Looping]) (by rw [stage]; trivial)
            (fun closed => by rwa [same] at closed)
            (fun _ failure => stored.noted noted (clean failure)) (fun _ => by rwa [same])
            (fun answered => stored.answered (by rwa [same] at answered)) (fun drained => ?_)
          rw [report] at drained
          rw [drained] at before
          exact ⟨by rw [stage]; trivial, secured (stored.answered before)⟩
  | throw =>
      rw [result] at cases' stage
      replace stage : next.worker = .failingFinish := stage
      cases cases' with
      | threw same =>
          refine common (by simp [stage, WorkerStage.Looping]) (by rw [stage]; trivial)
            (fun closed => by rwa [same] at closed)
            (fun noted failure => stored.noted (by rwa [same] at noted) (clean failure))
            (fun past => ?_) (fun answered => stored.answered (by rwa [same] at answered))
            (unreported (by rw [same]))
          simp [stage, WorkerStage.Over] at past

/-- An access of `finish` keeps the outputs accounted for. -/
theorem Stored.finish {files : List RecordingFile} (stored : recording.Stored files)
    (step : recording.Step next) (sound : recording.Sound) (env : Storage)
    (worker : recording.worker = .finishing)
    (sinkState : next.sinkState =
      (FileSink.finish env recording.status recording.sinkState).1)
    (stage : next.worker =
      afterFinish (FileSink.finish env recording.status recording.sinkState).2)
    (failed : ∀ reason, (FileSink.finish env recording.status recording.sinkState).2 =
      .fail reason → reason ≠ .none → next.status.failure ≠ .none)
    (history : next.history = recording.history) : next.Stored files := by
  by_cases start : recording.sinkState.stage = .start
  · exact stored.finishStart env worker start sinkState stage history
  · exact stored.finishLater step sound env worker start sinkState stage failed history

/-- Each step keeps the files and the report in agreement with the worker. -/
theorem Stored.step {files : List RecordingFile} (step : recording.Step next)
    (sound : recording.Sound) (stored : recording.Stored files) : next.Stored files := by
  have moved := step
  cases step with
  | begin | accept | reject | close | timeout | readRunning | decide =>
      exact stored.keep moved sound rfl (heard_cons_none rfl) (heard_cons_none rfl) id id
        (fun past _ => past)
  | check | lock | overflow | shut | detached | awake | join | readFinished =>
      exact stored.keep moved sound rfl rfl rfl id id (fun past _ => past)
  | take record rest worker | count record worker =>
      exact stored.keep moved sound rfl rfl rfl (by simp [worker, WorkerStage.Looping])
        (by simp [worker, WorkerStage.Using]) (by simp [WorkerStage.Over])
  | drain worker | giveUp worker | linger worker =>
      exact stored.keep moved sound rfl rfl rfl (by simp [WorkerStage.Looping])
        (by simp [worker, WorkerStage.Using]) (by simp [WorkerStage.Over])
  | abandon worker =>
      refine stored.keep moved sound rfl rfl rfl (by simp [WorkerStage.Looping])
        (by simp [WorkerStage.Using]) (fun _ clean => ?_)
      exact absurd clean (recording.status.fail_failure (by simp))
  | clean worker | release worker =>
      exact stored.keep moved sound rfl rfl rfl (by simp [WorkerStage.Looping])
        (by simp [WorkerStage.Using]) (by simp [worker, WorkerStage.Over])
  | write env record worker => exact stored.write env record worker rfl rfl rfl
  | finishAccess env worker same =>
      exact stored.finish moved sound env worker rfl (by rw [same]; exact worker)
        (fun _ failed => by cases same.symm.trans failed) rfl
  | finishDone env worker same | finishThrow env worker same =>
      exact stored.finish moved sound env worker rfl (by rw [same]; rfl)
        (fun _ failed => by cases same.symm.trans failed) rfl
  | finishFail env reason worker same =>
      refine stored.finish moved sound env worker rfl (by rw [same]; exact worker) ?_ rfl
      intro other failed real
      rw [same] at failed
      cases failed
      exact recording.status.fail_failure real

end Recording
end Vio
