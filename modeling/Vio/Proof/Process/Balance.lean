import Vio.Proof.Process.Counts

namespace Vio
open Tally

/-- The number of the records on a stream. -/
abbrev streamCount (stream : RecordingStream) (records : List RecordingRecord) : Nat :=
  total (fun record => if record.stream = stream then 1 else 0) records

/-- The number of the calls of `submit` in progress on a stream. -/
abbrev callCount (stream : RecordingStream) (submits : List Submit) : Nat :=
  total (fun submit => if submit.record.stream = stream then 1 else 0) submits

/-- The record that the worker took and has not counted. -/
def WriterStage.inHand : WriterStage → List RecordingRecord
  | .holding record | .writing record | .wrote record | .failing record => [record]
  | _ => []

/-- The worker is in its loop, or it was not started. -/
def WriterStage.Looping : WriterStage → Prop
  | .absent | .waiting | .holding _ | .writing _ | .wrote _ | .failing _ => True
  | _ => False

/-- A counter counts its own stream only. -/
theorem RecordingStatus.counted_apply (counter : RecordingStream → Nat)
    (changed stream : RecordingStream) :
    counted counter changed stream = counter stream + if changed = stream then 1 else 0 := by
  by_cases same : changed = stream
  · subst same
    simp [counted]
  · simp [counted, same, Function.update_of_ne (Ne.symm same)]

namespace RecordingState

/-- The record that the worker took and that is in flight or whose write failed. -/
def taken (state : RecordingState) : List RecordingRecord :=
  state.worker.inHand ++ state.lost.toList

/-- The submissions on a stream that are neither written nor rejected. -/
def load (state : RecordingState) (stream : RecordingStream) : Nat :=
  callCount stream state.submits + streamCount stream state.queue + streamCount stream state.taken +
    streamCount stream state.dropped

/-- A worker in its loop has lost nothing. -/
def Intact (state : RecordingState) : Prop := state.worker.Looping → state.lost = none

end RecordingState

namespace RecordingView
variable {view after : RecordingView}

theorem Turns.looping {before stage : WriterStage} (turns : view.Turns before stage)
    (looping : stage.Looping) : before.Looping := by
  cases turns with
  | returned | threw => exact trivial
  | drain | done | thrown | destroyed => exact looping.elim

theorem Turns.inHand {before stage : WriterStage} (turns : view.Turns before stage) :
    stage.inHand = before.inHand := by
  cases turns <;> rfl

/-- A worker that stays in its loop loses nothing. -/
theorem Step.intact (step : view.Step after) (young : view.state.Young)
    (intact : view.state.Intact) : after.state.Intact := by
  have kept {before : WriterStage} (worker : view.state.worker = before) (looping : before.Looping) :
      view.state.lost = none := intact (by rw [worker]; exact looping)
  intro looping
  cases step with
  | turn before after worker turns => exact kept worker (turns.looping looping)
  | started owner => exact kept (young (.inr owner)) trivial
  | take record rest worker | enterWrite record worker | count record worker =>
      exact kept worker trivial
  | enterFinish | giveUp | abandon | clean | release => exact looping.elim
  | exchange | refuse | mark | unstarted | begin | check | subtract | lock | accept | overflow | reject
  | access | blame | pass | destroy | shut | timeout | join | readRunning | decide =>
      exact intact looping

/-- A call that moves on stays on its stream. -/
theorem callCount_set {submits : List Submit} {call : Nat} {record : RecordingRecord}
    {before : SubmitStage} (current : submits[call]? = some ⟨record, before⟩) (stage : SubmitStage)
    (stream : RecordingStream) :
    callCount stream (submits.set call ⟨record, stage⟩) = callCount stream submits :=
  Nat.add_right_cancel (total_set current ⟨record, stage⟩)

/-- A call that returns leaves its stream. -/
theorem callCount_eraseIdx {submits : List Submit} {call : Nat} {record : RecordingRecord}
    {stage : SubmitStage} (current : submits[call]? = some ⟨record, stage⟩)
    (stream : RecordingStream) :
    callCount stream (submits.eraseIdx call) + (if record.stream = stream then 1 else 0) =
      callCount stream submits := total_eraseIdx current

/-- What a submission adds to the counts, the step moves between them. -/
def Balances (view after : RecordingView) (stream : RecordingStream) : Prop :=
  after.status.submitted stream +
      (view.status.written stream + view.status.rejected stream + view.state.load stream) =
    view.status.submitted stream +
      (after.status.written stream + after.status.rejected stream + after.state.load stream)

section Balances
variable {record : RecordingRecord} {stream : RecordingStream}

/-- A step that changes no count. -/
theorem balances_same (submitted : after.status.submitted = view.status.submitted)
    (written : after.status.written = view.status.written)
    (rejected : after.status.rejected = view.status.rejected)
    (load : after.state.load stream = view.state.load stream) : view.Balances after stream := by
  rw [Balances, submitted, written, rejected, load]

/-- A failure changes no count. -/
theorem balances_fail (reason : RecordingFailure) (status : after.status = view.status.fail reason)
    (load : after.state.load stream = view.state.load stream) : view.Balances after stream := by
  unfold RecordingStatus.fail at status
  split at status <;> exact balances_same (by rw [status]) (by rw [status]) (by rw [status]) load

theorem balances_submitted
    (submitted : after.status.submitted = RecordingStatus.counted view.status.submitted record.stream)
    (written : after.status.written = view.status.written)
    (rejected : after.status.rejected = view.status.rejected)
    (load : after.state.load stream =
      view.state.load stream + if record.stream = stream then 1 else 0) :
    view.Balances after stream := by
  rw [Balances, submitted, written, rejected, load, RecordingStatus.counted_apply]
  omega

theorem balances_written (submitted : after.status.submitted = view.status.submitted)
    (written : after.status.written = RecordingStatus.counted view.status.written record.stream)
    (rejected : after.status.rejected = view.status.rejected)
    (load : after.state.load stream + (if record.stream = stream then 1 else 0) =
      view.state.load stream) : view.Balances after stream := by
  rw [Balances, submitted, written, rejected, ← load, RecordingStatus.counted_apply]
  omega

theorem balances_rejected (submitted : after.status.submitted = view.status.submitted)
    (written : after.status.written = view.status.written)
    (rejected : after.status.rejected = RecordingStatus.counted view.status.rejected record.stream)
    (load : after.state.load stream + (if record.stream = stream then 1 else 0) =
      view.state.load stream) : view.Balances after stream := by
  rw [Balances, submitted, written, rejected, ← load, RecordingStatus.counted_apply]
  omega

end Balances

/-- A call that moves on keeps the load. -/
theorem load_toStage {call : Nat} {record : RecordingRecord} {before : SubmitStage}
    (current : view.state.submits[call]? = some ⟨record, before⟩) (stage : SubmitStage)
    (stream : RecordingStream) :
    (view.toStage call record stage).state.load stream = view.state.load stream := by
  have calls : callCount stream (view.toStage call record stage).state.submits =
      callCount stream view.state.submits := callCount_set current stage stream
  rw [RecordingState.load, calls]
  rfl

/-- The load of a state whose worker took the same record. -/
theorem load_taken {state other : RecordingState} (taken : other.taken = state.taken)
    (submits : other.submits = state.submits) (queue : other.queue = state.queue)
    (dropped : other.dropped = state.dropped) (stream : RecordingStream) :
    other.load stream = state.load stream := by
  rw [RecordingState.load, taken, submits, queue, dropped, RecordingState.load]

/-- Each step moves at most one submission from one count to the next. -/
theorem Step.balances (step : view.Step after) (young : view.state.Young)
    (bounded : view.state.Bounded) (intact : view.state.Intact) (stream : RecordingStream) :
    view.Balances after stream := by
  -- The worker keeps what it took from its loop.
  have held {before : WriterStage} (worker : view.state.worker = before) :
      view.state.taken = before.inHand ++ view.state.lost.toList := by
    rw [RecordingState.taken, worker]
  cases step with
  | begin record =>
      refine balances_submitted rfl rfl rfl ?_
      have calls : callCount stream (view.state.submits ++ [⟨record, .entered⟩]) =
          callCount stream view.state.submits + if record.stream = stream then 1 else 0 := by
        rw [callCount, total_append, total_cons, total_nil, Nat.add_zero]
      change callCount stream (view.state.submits ++ [⟨record, .entered⟩]) +
          streamCount stream view.state.queue + streamCount stream view.state.taken +
          streamCount stream view.state.dropped = _
      rw [calls, RecordingState.load]
      omega
  | check call record before after current =>
      exact balances_same rfl rfl rfl (load_toStage current after stream)
  | subtract call record before after made current =>
      exact balances_same rfl rfl rfl (load_toStage current after stream)
  | lock call record bytes current =>
      exact balances_same rfl rfl rfl (load_toStage current _ stream)
  | accept call record bytes current =>
      refine balances_same rfl rfl rfl ?_
      have calls := callCount_eraseIdx current stream
      have queue : streamCount stream (view.state.queue ++ [record]) =
          streamCount stream view.state.queue + if record.stream = stream then 1 else 0 := by
        rw [streamCount, total_append, total_cons, total_nil, Nat.add_zero]
      change callCount stream (view.state.submits.eraseIdx call) +
          streamCount stream (view.state.queue ++ [record]) + streamCount stream view.state.taken +
          streamCount stream view.state.dropped = _
      rw [queue, RecordingState.load, ← calls]
      omega
  | overflow call record locked current => exact balances_fail _ rfl (load_toStage current _ stream)
  | reject call record locked current =>
      refine balances_rejected rfl rfl rfl ?_
      have calls := callCount_eraseIdx current stream
      change callCount stream (view.state.submits.eraseIdx call) +
          streamCount stream view.state.queue + streamCount stream view.state.taken +
          streamCount stream view.state.dropped + _ = _
      rw [RecordingState.load, ← calls]
      omega
  | take record rest worker queue =>
      refine balances_same rfl rfl rfl ?_
      have counted : streamCount stream view.state.queue =
          (if record.stream = stream then 1 else 0) + streamCount stream rest := by
        rw [queue]
        exact total_cons record
      have taken : streamCount stream ([record] ++ view.state.lost.toList) =
          (if record.stream = stream then 1 else 0) + streamCount stream view.state.lost.toList :=
        total_cons record
      change callCount stream view.state.submits + streamCount stream rest +
          streamCount stream ([record] ++ view.state.lost.toList) +
          streamCount stream view.state.dropped = _
      have empty : WriterStage.waiting.inHand = [] := rfl
      rw [RecordingState.load, held worker, counted, taken, empty, List.nil_append]
      omega
  | turn before after worker turns =>
      refine balances_same rfl rfl rfl (load_taken ?_ (by rfl) (by rfl) (by rfl) stream)
      rw [held worker, ← turns.inHand]
      rfl
  | started owner =>
      refine balances_same rfl rfl rfl (load_taken ?_ (by rfl) (by rfl) (by rfl) stream)
      rw [held (young (.inr owner))]
      rfl
  | enterWrite record worker | enterFinish worker | release worker =>
      refine balances_same rfl rfl rfl (load_taken ?_ (by rfl) (by rfl) (by rfl) stream)
      rw [held worker]
      rfl
  | count record worker =>
      refine balances_written rfl rfl rfl ?_
      have taken : streamCount stream ([record] ++ view.state.lost.toList) =
          (if record.stream = stream then 1 else 0) + streamCount stream view.state.lost.toList :=
        total_cons record
      rw [RecordingState.load, RecordingState.load, held worker, WriterStage.inHand, taken]
      change callCount stream view.state.submits + streamCount stream view.state.queue +
          streamCount stream view.state.lost.toList + streamCount stream view.state.dropped + _ = _
      omega
  | giveUp record worker =>
      refine balances_fail _ rfl (load_taken ?_ (by rfl) (by rfl) (by rfl) stream)
      rw [held worker, intact (by rw [worker]; trivial)]
      rfl
  | abandon worker =>
      refine balances_fail _ rfl (load_taken ?_ (by rfl) (by rfl) (by rfl) stream)
      rw [held worker]
      rfl
  | clean worker =>
      refine balances_same rfl rfl rfl ?_
      have dropped := bounded.dropped (by rw [worker]; exact id)
      rw [RecordingState.load, RecordingState.load, held worker, dropped]
      change callCount stream view.state.submits + 0 + streamCount stream view.state.lost.toList +
          streamCount stream view.state.queue =
        callCount stream view.state.submits + streamCount stream view.state.queue +
          streamCount stream view.state.lost.toList + 0
      omega
  | refuse | blame | timeout => exact balances_fail _ rfl rfl
  | exchange | mark | unstarted | access | pass | destroy | shut | join | readRunning | decide =>
      exact balances_same rfl rfl rfl rfl

end RecordingView

namespace RecordingProcess
variable {process next : RecordingProcess}

/-- A process that some interleaving reaches from one without recordings. -/
def Reached (process : RecordingProcess) : Prop :=
  ∃ actions, ({} : RecordingProcess).run actions = some process

/-- What each recording keeps about its bytes and its worker. -/
structure Regular (state : RecordingState) : Prop where
  young : state.Young
  bounded : state.Bounded
  intact : state.Intact

theorem Regular.step {view after : RecordingView} (step : view.Step after)
    (regular : Regular view.state) : Regular after.state where
  young := step.young regular.young
  bounded := regular.bounded.step step regular.young
  intact := step.intact regular.young regular.intact

theorem Regular.fresh (status : Nat) (byteLimit recordLimit : UInt64) :
    Regular { status, byteLimit, recordLimit } where
  young _ := rfl
  bounded := ⟨rfl, Nat.zero_le _, Nat.zero_le _, nofun, nofun, fun _ => rfl, nofun⟩
  intact _ := rfl

/-- The load of the recordings that report to a status. -/
abbrev loadOf (place : Nat) (stream : RecordingStream) (recordings : List RecordingState) : Nat :=
  total (fun state => if state.status = place then state.load stream else 0) recordings

/-- Every submission that a status counts is settled or still with a recording. -/
def Balanced (process : RecordingProcess) : Prop :=
  ∀ place stream, (process.statuses place).submitted stream =
    (process.statuses place).written stream + (process.statuses place).rejected stream +
      loadOf place stream process.recordings

/-- Each transition of the process keeps the balance of every status. -/
theorem Balanced.step (step : process.Step next) (regular : ∀ state ∈ process.recordings, Regular state)
    (balanced : process.Balanced) : next.Balanced := by
  intro place stream
  cases step with
  | create status byteLimit recordLimit =>
      have fresh : RecordingState.load { status, byteLimit, recordLimit } stream = 0 := rfl
      rw [balanced place stream, loadOf, loadOf, total_append, total_cons, fresh]
      simp
  | move recording state after located step =>
      have known := regular state (List.mem_of_getElem? located)
      have balances := step.balances known.young known.bounded known.intact stream
      have own : after.state.status = state.status := step.owned.status
      have moved : loadOf place stream (process.recordings.set recording after.state) +
            (if state.status = place then state.load stream else 0) =
          loadOf place stream process.recordings +
            if after.state.status = place then after.state.load stream else 0 :=
        total_set located after.state
      have before := balanced place stream
      rw [own] at moved
      by_cases same : state.status = place
      · subst same
        rw [put_own step]
        rw [if_pos rfl, if_pos rfl] at moved
        change after.status.submitted stream +
            ((process.statuses state.status).written stream +
              (process.statuses state.status).rejected stream + state.load stream) =
          (process.statuses state.status).submitted stream + _ at balances
        change _ = _ + loadOf _ stream (process.recordings.set recording after.state)
        omega
      · rw [put_other step (Ne.symm same)]
        rw [if_neg same, if_neg same] at moved
        change _ = _ + loadOf _ stream (process.recordings.set recording after.state)
        omega

theorem Step.regular (step : process.Step next)
    (regular : ∀ state ∈ process.recordings, Regular state) :
    ∀ state ∈ next.recordings, Regular state :=
  Each.step (fun _ => Regular.fresh) (fun _ _ _ _ => id) (fun _ _ => Regular.step) step regular

/-- Every reached process is in balance. -/
theorem Reached.balanced (reached : process.Reached) :
    (∀ state ∈ process.recordings, Regular state) ∧ process.Balanced := by
  obtain ⟨actions, ran⟩ := reached
  refine run_invariant
    (fun process => (∀ state ∈ process.recordings, Regular state) ∧ process.Balanced)
    (fun before after step held => ⟨step.regular held.1, held.2.step step held.1⟩) ran ⟨?_, ?_⟩
  · exact fun state listed => absurd listed List.not_mem_nil
  · exact fun place stream => rfl

/-- The records on a stream that a recording has in its queue, and the one that its worker took. -/
def remaining (state : RecordingState) (stream : RecordingStream) : Nat :=
  streamCount stream state.queue + streamCount stream state.taken

/-- The recordings that report to a status have no call in progress and no finished cleanup. -/
def Quiet (process : RecordingProcess) (place : Nat) : Prop :=
  ∀ state ∈ process.recordings, state.status = place → state.submits = [] ∧ ¬ state.worker.Cleaned

/-- The load of a recording without calls is what remains in it. -/
theorem load_remaining {state : RecordingState} (regular : Regular state)
    (quiet : state.submits = [] ∧ ¬ state.worker.Cleaned) (stream : RecordingStream) :
    state.load stream = remaining state stream := by
  rw [RecordingState.load, quiet.1, regular.bounded.dropped quiet.2, remaining]
  simp

/-- Up to its last cleanup the bytes of a recording are those of its queue. The limits hold and no
subtraction wraps. Where no call is in progress, the submissions of a status are written, rejected,
queued or with the worker. -/
theorem recording_balanced (reached : process.Reached) :
    (∀ state ∈ process.recordings,
      (¬ state.worker.Cleaned → state.bytes = recordSizes state.queue) ∧
      state.bytes ≤ state.byteLimit.toNat ∧ state.queue.length ≤ state.recordLimit.toNat ∧
      ∀ pair ∈ state.subtractions, pair.2 ≤ pair.1) ∧
    (∀ place, process.Quiet place → ∀ stream, (process.statuses place).submitted stream =
      (process.statuses place).written stream + (process.statuses place).rejected stream +
        total (fun state => if state.status = place then remaining state stream else 0)
          process.recordings) ∧
    ∀ (recording : Nat) (state : RecordingState), process.recordings[recording]? = some state →
      process.Quiet state.status →
      (∀ (other : Nat) (reporter : RecordingState), process.recordings[other]? = some reporter →
        reporter.status = state.status → other = recording) →
      ∀ stream, (process.statuses state.status).submitted stream =
        (process.statuses state.status).written stream +
          (process.statuses state.status).rejected stream + remaining state stream := by
  obtain ⟨regular, balanced⟩ := reached.balanced
  have counts (place : Nat) (quiet : process.Quiet place) (stream : RecordingStream) :
      (process.statuses place).submitted stream =
        (process.statuses place).written stream + (process.statuses place).rejected stream +
          total (fun state => if state.status = place then remaining state stream else 0)
            process.recordings := by
    rw [balanced place stream]
    congr 1
    refine total_congr fun state listed => ?_
    by_cases own : state.status = place
    · rw [if_pos own, if_pos own, load_remaining (regular state listed) (quiet state listed own)]
    · rw [if_neg own, if_neg own]
  refine ⟨fun state listed => ?_, counts, fun recording state located quiet only stream => ?_⟩
  · have bounded := (regular state listed).bounded
    refine ⟨fun uncleaned => ?_, bounded.byteLimit, bounded.recordLimit, bounded.exact⟩
    rw [bounded.bytes, bounded.dropped uncleaned]
    rfl
  · rw [counts state.status quiet stream]
    congr 1
    refine (total_single located fun other reporter there different => ?_).trans (if_pos rfl)
    exact if_neg fun same => different (only other reporter there same)

/-- Eight bytes of the accelerometer. -/
def sampleRecord : RecordingRecord := ⟨.accel, [⟨0, ascii "01234567"⟩]⟩

/-- A call of `submit` on the first recording, with the number of its further accesses. -/
def submission (accesses : Nat) : List ProcessAction :=
  .move 0 (.submit sampleRecord) :: List.replicate accesses (.move 0 (.advance 0))

/-- The sink lasts in its first `write`, so the fourth record finds the queue full. -/
def slowStorage : List ProcessAction :=
  [.create true (some 0) 16 2, .move 0 .construct, .move 0 (.start true)] ++ submission 6 ++
    [.move 0 .work, .move 0 .work] ++ submission 6 ++ submission 6 ++ submission 8

/-- Four submissions are one rejection, two queued records and one in flight. -/
theorem recording_balanced_slow :
    ∃ process state, run {} slowStorage = some process ∧ process.recordings = [state] ∧
      state.bytes = recordSizes state.queue ∧
      (process.statuses 0).submitted .accel = (process.statuses 0).written .accel +
        (process.statuses 0).rejected .accel + remaining state .accel ∧
      remaining state .accel = 3 := by
  obtain ⟨process, ran⟩ : ∃ process, run {} slowStorage = some process :=
    Option.isSome_iff_exists.mp (by decide +kernel)
  have look : (run {} slowStorage).map (fun process => process.recordings.map fun state =>
      (state.status, state.worker, state.submits, remaining state .accel)) =
      some [(0, .writing sampleRecord, [], 3)] := by decide +kernel
  rw [ran] at look
  obtain ⟨state, single, seen⟩ := List.map_eq_singleton_iff.mp (Option.some.inj look)
  simp only [Prod.mk.injEq] at seen
  obtain ⟨place, worker, submits, left⟩ := seen
  obtain ⟨each, _, sole⟩ := recording_balanced ⟨slowStorage, ran⟩
  have uncleaned : ¬ state.worker.Cleaned := by rw [worker]; exact id
  have listed : state ∈ process.recordings := by rw [single]; exact List.mem_singleton_self state
  have quiet : process.Quiet state.status := by
    intro other there _
    rw [single, List.mem_singleton] at there
    exact there ▸ ⟨submits, uncleaned⟩
  have located : process.recordings[0]? = some state := by rw [single]; rfl
  have counts := sole 0 state located quiet (fun other reporter found _ => by
    rw [single] at found
    exact Nat.lt_one_iff.mp (List.getElem?_eq_some_iff.mp found).1) .accel
  rw [place] at counts
  exact ⟨process, state, ran, single, (each state listed).1 uncleaned, counts, left⟩

end RecordingProcess
end Vio
