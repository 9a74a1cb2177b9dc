import Vio.Library.KeyedList
import Vio.Proof.Process.Governed
import Vio.Proof.Recording.CompleteRecording

namespace Vio
open Tally

/-- The place of the worker in the process. -/
inductive WorkerStage.Corresponds : WorkerStage → WriterStage → Prop
  | absent : Corresponds .absent .absent
  | waiting : Corresponds .waiting .waiting
  | holding (record : RecordingRecord) : Corresponds (.holding record) (.holding record)
  | wrote (record : RecordingRecord) : Corresponds (.wrote record) (.wrote record)
  | failing (record : RecordingRecord) : Corresponds .failing (.failing record)
  | lingering : Corresponds .lingering .lingering
  | finishing : Corresponds .finishing .finishing
  | failingFinish : Corresponds .failingFinish .failingFinish
  | cleaning : Corresponds .cleaning .cleaning
  | releasing : Corresponds .releasing .releasing
  | ended : Corresponds .ended .ended

/-- The place of the owner in the process. -/
def CloseStage.owner : CloseStage → OwnerStage
  | .idle => .idle
  | .entered => .entered
  | .waiting => .waiting
  | .joining => .joining
  | .reading => .reading
  | .deciding => .deciding

/-- The calls in progress, one for each stream at most. -/
structure SameCalls (calls : RecordingStream → Option Submit) (submits : List Submit) : Prop where
  listed : ∀ stream submit, calls stream = some submit ↔
    submit ∈ submits ∧ submit.record.stream = stream
  single : (submits.map fun submit => submit.record.stream).Nodup

namespace SameCalls
variable {calls : RecordingStream → Option Submit} {submits : List Submit} {call : Nat}
  {record : RecordingRecord} {stage : SubmitStage}

theorem located (same : SameCalls calls submits) {stream : RecordingStream}
    (current : calls stream = some ⟨record, stage⟩) :
    record.stream = stream ∧ ∃ call : Nat, submits[call]? = some ⟨record, stage⟩ := by
  obtain ⟨listed, own⟩ := (same.listed stream _).mp current
  exact ⟨own, List.getElem?_of_mem listed⟩

/-- A call that begins is listed last. -/
theorem begin (same : SameCalls calls submits) (idle : calls record.stream = none)
    (stage : SubmitStage) :
    SameCalls (Function.update calls record.stream (some ⟨record, stage⟩))
      (submits ++ [⟨record, stage⟩]) where
  listed stream submit := by
    rw [List.mem_append, List.mem_singleton]
    by_cases own : stream = record.stream
    · subst own
      rw [Function.update_self, Option.some.injEq]
      constructor
      · rintro rfl
        exact ⟨.inr rfl, rfl⟩
      · rintro ⟨listed | rfl, other⟩
        · rw [(same.listed record.stream submit).mpr ⟨listed, other⟩] at idle
          cases idle
        · rfl
    · rw [Function.update_of_ne own, same.listed]
      constructor
      · rintro ⟨listed, other⟩
        exact ⟨.inl listed, other⟩
      · rintro ⟨listed | rfl, other⟩
        · exact ⟨listed, other⟩
        · exact absurd other.symm own
  single := by
    rw [List.map_append, List.nodup_append]
    refine ⟨same.single, by simp, ?_⟩
    intro first listed second new
    obtain ⟨submit, there, rfl⟩ := List.mem_map.mp listed
    rw [List.map_singleton, List.mem_singleton] at new
    subst new
    intro other
    rw [(same.listed record.stream submit).mpr ⟨there, other⟩] at idle
    cases idle

/-- A call that gets ahead keeps its place in the list. -/
theorem moves (same : SameCalls calls submits) (current : submits[call]? = some ⟨record, stage⟩)
    (later : SubmitStage) :
    SameCalls (Function.update calls record.stream (some ⟨record, later⟩))
      (submits.set call ⟨record, later⟩) where
  listed stream submit := by
    rw [KeyedList.mem_set_iff same.single current]
    by_cases own : stream = record.stream
    · subst own
      rw [Function.update_self, Option.some.injEq]
      constructor
      · rintro rfl
        exact ⟨.inl rfl, rfl⟩
      · rintro ⟨rfl | ⟨_, different⟩, other⟩
        · rfl
        · exact absurd other different
    · rw [Function.update_of_ne own, same.listed]
      constructor
      · rintro ⟨listed, rfl⟩
        exact ⟨.inr ⟨listed, own⟩, rfl⟩
      · rintro ⟨rfl | ⟨listed, _⟩, other⟩
        · exact absurd other.symm own
        · exact ⟨listed, other⟩
  single := KeyedList.nodup_set same.single current rfl

/-- A call that returns leaves the list. -/
theorem returns (same : SameCalls calls submits) (current : submits[call]? = some ⟨record, stage⟩) :
    SameCalls (Function.update calls record.stream none) (submits.eraseIdx call) where
  listed stream submit := by
    rw [KeyedList.mem_eraseIdx_iff same.single current]
    by_cases own : stream = record.stream
    · subst own
      rw [Function.update_self]
      constructor
      · exact nofun
      · rintro ⟨⟨_, different⟩, other⟩
        exact absurd other different
    · rw [Function.update_of_ne own, same.listed]
      constructor
      · rintro ⟨listed, rfl⟩
        exact ⟨⟨listed, own⟩, rfl⟩
      · rintro ⟨⟨listed, _⟩, other⟩
        exact ⟨listed, other⟩
  single := KeyedList.nodup_eraseIdx same.single

end SameCalls

/-- What the threads of a recording with its sink see is the view of one recording of a process. -/
structure Recording.Mirrored {sink : RecordingSink} (recording : Recording sink) (view : RecordingView) :
    Prop where
  status : view.status = recording.status
  byteLimit : view.state.byteLimit.toNat = recording.byteLimit
  recordLimit : view.state.recordLimit.toNat = recording.recordLimit
  queue : view.state.queue = recording.queue
  bytes : view.state.bytes = recording.bytes
  closing : view.state.closing = recording.closing
  done : view.state.done = recording.done
  locked : view.state.locked = recording.holder.isSome
  calls : SameCalls recording.submits view.state.submits
  worker : recording.worker.Corresponds view.state.worker
  joinable : view.state.joinable = recording.joinable
  owner : view.state.owner = recording.owner.owner
  living : view.state.dying = false

section Sizes

theorem chunkSizes_foldl (chunks : List RecordingChunk) (bytes : Nat) :
    chunks.foldl (fun size chunk => size + chunk.bytes.length) bytes = bytes + chunkSizes chunks := by
  induction chunks generalizing bytes with
  | nil => rfl
  | cons chunk rest inductionHypothesis =>
      rw [List.foldl_cons, inductionHypothesis, chunkSizes_cons, Nat.add_assoc]

theorem RecordingRecord.size_eq (record : RecordingRecord) : record.size = chunkSizes record.chunks := by
  rw [RecordingRecord.size, chunkSizes_foldl, Nat.zero_add]

/-- In the range of 64 bits both chunk loops of `submit` find the same size. -/
theorem RecordingView.measure_eq {limit : Nat} (inRange : limit < UInt64.size)
    (chunks : List RecordingChunk) {bytes : Nat} (within : bytes ≤ limit) (made : List (Nat × Nat)) :
    (RecordingView.measure limit chunks bytes made).1 = Recording.measure limit chunks bytes := by
  induction chunks generalizing bytes made with
  | nil => rfl
  | cons chunk rest inductionHypothesis =>
      rw [RecordingView.measure, Recording.measure, subtractSize_eq inRange within]
      split
      · rfl
      · rw [addSize_eq (by omega)]
        exact inductionHypothesis (by omega) _

end Sizes

namespace RecordingProcess

theorem moves_regular {view after : RecordingView} {moves : List RecordingMove}
    (ran : view.moves moves = some after) (regular : Regular view.state) : Regular after.state :=
  PartialRun.invariant (fun view => Regular view.state)
    (fun _ _ _ moved regular => regular.step (RecordingView.next_step moved)) ran regular

end RecordingProcess

namespace Recording
open RecordingView
variable {sink : RecordingSink} {recording next : Recording sink} {view after : RecordingView}

/-- The view has a run to one that shows the next state. -/
def Answers (view : RecordingView) (next : Recording sink) : Prop :=
  ∃ (moves : List RecordingMove) (after : RecordingView),
    moves.foldlM RecordingView.next view = some after ∧ next.Mirrored after

theorem Answers.one {move : RecordingMove} (moved : view.next move = some after)
    (mirrored : next.Mirrored after) : Answers view next :=
  ⟨[move], after, Option.bind_eq_some_iff.mpr ⟨after, moved, rfl⟩, mirrored⟩

theorem Answers.two {first second : RecordingMove} {middle : RecordingView}
    (moved : view.next first = some middle) (later : middle.next second = some after)
    (mirrored : next.Mirrored after) : Answers view next :=
  ⟨[first, second], after, Option.bind_eq_some_iff.mpr
    ⟨middle, moved, Option.bind_eq_some_iff.mpr ⟨after, later, rfl⟩⟩, mirrored⟩

namespace Mirrored

section Calls
variable {call : Nat} {record : RecordingRecord} {before : SubmitStage}

theorem toStage (mirrored : recording.Mirrored view)
    (current : view.state.submits[call]? = some ⟨record, before⟩) (stage : SubmitStage) :
    (recording.toStage record stage).Mirrored (view.toStage call record stage) :=
  { mirrored with calls := mirrored.calls.moves current stage }

theorem withSubtractions (mirrored : recording.Mirrored view) (made : List (Nat × Nat)) :
    recording.Mirrored (view.withSubtractions made) :=
  { mirrored with }

/-- The recording was constructed, and nobody destroys it. -/
theorem usable (mirrored : recording.Mirrored view) : view.usable = true := by
  rw [RecordingView.usable, mirrored.living, mirrored.owner]
  cases recording.owner <;> rfl

/-- The process can begin the same call. -/
theorem submit (mirrored : recording.Mirrored view) (moved : recording.submit record = some next) :
    Answers view next := by
  unfold Recording.submit at moved
  split at moved
  · cases moved
  · next free =>
      rw [not_or, not_not] at free
      cases moved
      have answer : view.next (.submit record) = view.submit record := rfl
      rw [RecordingView.submit, if_neg (by simp [free.1, mirrored.usable])] at answer
      refine .one answer { mirrored with status := ?_, calls := mirrored.calls.begin free.2 .entered }
      rw [mirrored.status]
      rfl

theorem fail (mirrored : recording.Mirrored view) (reason : RecordingFailure) :
    (recording.fail reason).Mirrored (view.fail reason) :=
  { mirrored with status := congrArg (RecordingStatus.fail · reason) mirrored.status }

/-- A check of one call leads to the same stage. -/
theorem check (mirrored : recording.Mirrored view)
    (current : view.state.submits[call]? = some ⟨record, before⟩) {condition : Prop}
    [Decidable condition] {yes no : SubmitStage}
    (answer : view.next (.advance call) =
      if condition then some (view.toStage call record yes) else some (view.toStage call record no))
    (moved : (if condition then some (recording.toStage record yes)
      else some (recording.toStage record no)) = some next) : Answers view next := by
  split at moved
  · next holds =>
      cases moved
      rw [if_pos holds] at answer
      exact .one answer (mirrored.toStage current yes)
  · next fails =>
      cases moved
      rw [if_neg fails] at answer
      exact .one answer (mirrored.toStage current no)

/-- Both chunk loops come to the same size or overflow. -/
theorem measures (mirrored : recording.Mirrored view)
    (current : view.state.submits[call]? = some ⟨record, .measuring⟩)
    (moved : (match measure recording.byteLimit record.chunks 0 with
      | none => some (recording.toStage record (.overflowing false))
      | some bytes => some (recording.toStage record (.locking bytes))) = some next) :
    Answers view next := by
  have measured := mirrored.withSubtractions
    (RecordingView.measure view.state.byteLimit.toNat record.chunks 0 view.state.subtractions).2
  have size := measure_eq (UInt64.toNat_lt_size view.state.byteLimit) record.chunks (Nat.zero_le _)
    view.state.subtractions
  have answer : view.next (.advance call) = some (view.toMeasured call record) := by
    change view.advance call = _
    rw [RecordingView.advance, current]
  unfold toMeasured at answer
  dsimp only at answer
  rw [← mirrored.byteLimit, ← size] at moved
  split at moved
  · next large =>
      cases moved
      rw [large] at answer
      exact .one answer (measured.toStage current _)
  · next bytes sized =>
      cases moved
      rw [sized] at answer
      exact .one answer (measured.toStage current _)

/-- The last check of a call, inside the mutex. -/
theorem limits (mirrored : recording.Mirrored view) (regular : RecordingProcess.Regular view.state)
    {bytes : Nat} (current : view.state.submits[call]? = some ⟨record, .insideHealthy bytes⟩)
    (running : ¬ recording.status.finished = true)
    (moved : (if recording.closing ∨ recording.queue.length ≥ recording.recordLimit ∨
        bytes > recording.byteLimit - recording.bytes then
      some (recording.toStage record (.overflowing true))
      else some (recording.accept record bytes)) = some next) : Answers view next := by
  have inRange := UInt64.toNat_lt_size view.state.byteLimit
  have limit := regular.bounded.byteLimit
  have counted := mirrored.withSubtractions
    ((view.state.byteLimit.toNat, view.state.bytes) :: view.state.subtractions)
  have answer : view.next (.advance call) = some (view.checkLimits call record bytes) := by
    change view.advance call = _
    rw [RecordingView.advance, current]
    dsimp only
    rw [mirrored.status, if_neg running]
  unfold checkLimits at answer
  dsimp only at answer
  rw [subtractSize_eq inRange limit] at answer
  rw [← mirrored.closing, ← mirrored.queue, ← mirrored.recordLimit, ← mirrored.byteLimit,
    ← mirrored.bytes] at moved
  split at moved
  · next full =>
      cases moved
      by_cases crowded : view.state.closing = true ∨ view.state.queue.length ≥ view.state.recordLimit.toNat
      · rw [if_pos crowded] at answer
        exact .one answer (mirrored.toStage current _)
      · rw [if_neg crowded, if_pos (by tauto)] at answer
        exact .one answer (counted.toStage current _)
  · next room =>
      cases moved
      rw [if_neg (by tauto), if_neg (by tauto)] at answer
      have sum : addSize view.state.bytes bytes = view.state.bytes + bytes := addSize_eq (by omega)
      refine .one answer { mirrored with
        queue := congrArg (· ++ [record]) mirrored.queue
        bytes := ?_
        locked := rfl
        calls := mirrored.calls.returns current }
      change addSize view.state.bytes bytes = recording.bytes + bytes
      rw [sum, mirrored.bytes]

/-- Each access of a call of `submit` has its counterpart. -/
theorem advance (mirrored : recording.Mirrored view) (regular : RecordingProcess.Regular view.state)
    {stream : RecordingStream} (moved : recording.advance stream = some next) : Answers view next := by
  unfold Recording.advance at moved
  split at moved
  · cases moved
  · next record stage current =>
      obtain ⟨rfl, call, located⟩ := mirrored.calls.located current
      have answer : view.next (.advance call) = view.advance call := rfl
      rw [RecordingView.advance, located] at answer
      cases stage with
      | entered =>
          dsimp only at answer
          rw [mirrored.status] at answer
          exact mirrored.check located answer moved
      | healthy =>
          dsimp only at answer
          rw [mirrored.status] at answer
          exact mirrored.check located answer moved
      | measuring => exact mirrored.measures located moved
      | locking bytes =>
          dsimp only at moved answer
          split at moved
          · next free =>
              cases moved
              have unlocked : view.state.locked = false := by
                rw [mirrored.locked, free]
                rfl
              rw [if_neg (by simp [unlocked])] at answer
              exact .one answer
                { mirrored with locked := rfl, calls := mirrored.calls.moves located _ }
          · cases moved
      | inside bytes =>
          dsimp only at answer
          rw [mirrored.status] at answer
          exact mirrored.check located answer moved
      | insideHealthy bytes =>
          dsimp only at moved answer
          rw [mirrored.status] at answer
          split at moved
          · next finished =>
              cases moved
              rw [if_pos finished] at answer
              exact .one answer (mirrored.toStage located _)
          · next running => exact mirrored.limits regular located running moved
      | overflowing locked =>
          cases moved
          exact .one answer ((mirrored.fail .backlog).toStage located _)
      | rejecting locked =>
          cases moved
          refine .one answer { mirrored with
            status := ?_
            locked := ?_
            calls := mirrored.calls.returns located }
          · rw [RecordingView.reject, Recording.reject, mirrored.status]
          · cases locked with
            | false => exact mirrored.locked
            | true => rfl

end Calls

section Worker

theorem unlocked (mirrored : recording.Mirrored view) (free : recording.holder = none) :
    view.state.locked = false := by
  rw [mirrored.locked, free]
  rfl

/-- The view is at the place of the worker. -/
theorem place (mirrored : recording.Mirrored view) {stage : WorkerStage}
    (worker : recording.worker = stage) :
    ∃ place, view.state.worker = place ∧ stage.Corresponds place := by
  rw [← worker]
  exact ⟨_, rfl, mirrored.worker⟩

/-- The process takes the same record and subtracts its size, which is in the count. -/
theorem takes (mirrored : recording.Mirrored view) (regular : RecordingProcess.Regular view.state)
    {record : RecordingRecord} {rest : List RecordingRecord} (worker : view.state.worker = .waiting)
    (free : recording.holder = none) (queue : recording.queue = record :: rest) :
    Answers view { recording with
      queue := rest
      bytes := recording.bytes - record.size
      worker := .holding record } := by
  have bounded := regular.bounded
  have listed : view.state.queue = record :: rest := mirrored.queue.trans queue
  have sizes : recordSizes view.state.queue = chunkSizes record.chunks + recordSizes rest := by
    rw [listed]
    exact Tally.total_cons record
  have inRange := lt_of_le_of_lt bounded.byteLimit (UInt64.toNat_lt_size _)
  have bytes := bounded.bytes
  have left := (discount_spec record.chunks inRange (by omega) bounded.exact).1
  have answer : view.next .work = some (view.take record rest) := by
    change view.work = _
    rw [RecordingView.work, worker]
    dsimp only
    rw [mirrored.unlocked free, listed]
    rfl
  refine .one answer { mirrored with queue := rfl, bytes := ?_, worker := .holding record }
  change (discount record.chunks view.state.bytes view.state.subtractions).1 =
    recording.bytes - record.size
  rw [left, RecordingRecord.size_eq, mirrored.bytes]

/-- Each access of the writer has its counterpart. -/
theorem work (mirrored : recording.Mirrored view) (regular : RecordingProcess.Regular view.state)
    (moved : recording.work = some next) : Answers view next := by
  have answer : view.next .work = view.work := rfl
  unfold Recording.work at moved
  split at moved
  · next worker =>
      obtain ⟨_, same, ⟨⟩⟩ := mirrored.place worker
      split at moved
      · next free =>
          split at moved
          · next empty =>
              split at moved
              · next closing =>
                  cases moved
                  rw [RecordingView.work, same] at answer
                  dsimp only at answer
                  rw [mirrored.unlocked free, mirrored.queue, empty, mirrored.closing, closing] at answer
                  exact .one answer { mirrored with worker := .lingering }
              · cases moved
          · next record rest queue =>
              cases moved
              exact mirrored.takes regular same free queue
      · cases moved
  · next record worker =>
      obtain ⟨_, same, ⟨⟩⟩ := mirrored.place worker
      cases moved
      rw [RecordingView.work, same] at answer
      refine .one answer { mirrored with status := ?_, worker := .waiting }
      rw [← mirrored.status]
  · next worker =>
      obtain ⟨_, same, ⟨⟩⟩ := mirrored.place worker
      cases moved
      rw [RecordingView.work, same] at answer
      exact .one answer { mirrored.fail .storage with worker := .lingering }
  · next worker =>
      obtain ⟨_, same, ⟨⟩⟩ := mirrored.place worker
      split at moved
      · next ready =>
          cases moved
          rw [RecordingView.work, same] at answer
          dsimp only at answer
          rw [if_pos ⟨mirrored.closing.trans ready.2, mirrored.unlocked ready.1⟩] at answer
          exact .one answer { mirrored with worker := .finishing }
      · cases moved
  · next worker =>
      obtain ⟨_, same, ⟨⟩⟩ := mirrored.place worker
      cases moved
      rw [RecordingView.work, same] at answer
      -- The process shows the end of the sink as one more access.
      have destroyed : ((view.fail .storage).toWorker .destroying).next .work =
          some (((view.fail .storage).toWorker .destroying).toWorker .cleaning) := rfl
      exact .two answer destroyed { mirrored.fail .storage with worker := .cleaning }
  · next worker =>
      obtain ⟨_, same, ⟨⟩⟩ := mirrored.place worker
      split at moved
      · next free =>
          cases moved
          rw [RecordingView.work, same] at answer
          dsimp only at answer
          rw [if_neg (by simp [mirrored.unlocked free])] at answer
          refine .one answer { mirrored with
            status := ?_
            queue := rfl
            done := rfl
            worker := .releasing }
          rw [← mirrored.status]
      · cases moved
  · next worker =>
      obtain ⟨_, same, ⟨⟩⟩ := mirrored.place worker
      cases moved
      rw [RecordingView.work, same] at answer
      exact .one answer { mirrored with worker := .ended }
  all_goals cases moved

/-- The process shows the call of the sink's `write` and its return. -/
theorem write (mirrored : recording.Mirrored view) {env : sink.Env}
    (moved : recording.write env = some next) : Answers view next := by
  unfold Recording.write at moved
  split at moved
  · next record worker =>
      obtain ⟨_, same, ⟨⟩⟩ := mirrored.place worker
      cases moved
      have entered : view.next .work = some (view.enterSink (.writing record)) := by
        change view.work = _
        rw [RecordingView.work, same]
      have returned (result : Bool) : (view.enterSink (.writing record)).next (.write result) =
          some ((view.enterSink (.writing record)).toWorker
            (if result then .wrote record else .failing record)) := rfl
      refine .two entered (returned (sink.write env recording.sinkState record).2)
        { mirrored with worker := ?_ }
      change WorkerStage.Corresponds
        (if (sink.write env recording.sinkState record).2 then .wrote record else .failing)
        (if (sink.write env recording.sinkState record).2 then .wrote record else .failing record)
      split
      · exact .wrote record
      · exact .failing record
  · cases moved

/-- Each access of the sink's `finish` has its counterpart. -/
theorem finish (mirrored : recording.Mirrored view) {env : sink.Env}
    (moved : recording.finish env = some next) : Answers view next := by
  unfold Recording.finish at moved
  split at moved
  · next worker =>
      obtain ⟨_, same, ⟨⟩⟩ := mirrored.place worker
      have answer (step : FinishStep) : view.next (.finish step) = view.finish step := rfl
      simp only [RecordingView.finish, if_pos same] at answer
      dsimp only at moved
      split at moved
      · cases moved
        exact .one (answer .proceed) { mirrored with }
      · next reason _ =>
          cases moved
          exact .one (answer (.fail reason)) { mirrored.fail reason with }
      · cases moved
        have destroyed : (view.toWorker .destroying).next .work =
            some ((view.toWorker .destroying).toWorker .cleaning) := rfl
        exact .two (answer .done) destroyed { mirrored with worker := .cleaning }
      · cases moved
        exact .one (answer .throw) { mirrored with worker := .failingFinish }
  · cases moved

end Worker

section Owner

/-- The view is at the place of the owner. -/
theorem stands (mirrored : recording.Mirrored view) {stage : CloseStage}
    (owner : recording.owner = stage) : view.state.owner = stage.owner := by
  rw [mirrored.owner, owner]

theorem closed (mirrored : recording.Mirrored view) (result : Bool) :
    (recording.closed result).Mirrored (view.closed result) :=
  { mirrored with owner := by simp [RecordingView.closed, mirrored.living]; rfl }

/-- A call of `close` has its counterpart. -/
theorem close (mirrored : recording.Mirrored view) (moved : recording.close = some next) :
    Answers view next := by
  unfold Recording.close at moved
  split at moved
  · next owner =>
      cases moved
      have answer : view.next .close = view.close := rfl
      have idle : view.state.owner = .idle := mirrored.stands owner
      rw [RecordingView.close, if_pos idle] at answer
      exact .one answer { mirrored with owner := rfl }
  · cases moved

/-- A `close` that runs out of time has its counterpart. -/
theorem timeout (mirrored : recording.Mirrored view) (moved : recording.timeout = some next) :
    Answers view next := by
  unfold Recording.timeout at moved
  split at moved
  · next ready =>
      obtain ⟨owner, free, running⟩ := ready
      cases moved
      have answer : view.next .timeout = view.timeout := rfl
      have waiting : view.state.owner = .waiting := mirrored.stands owner
      rw [RecordingView.timeout, if_pos ⟨waiting, mirrored.unlocked free,
        mirrored.done.trans running⟩] at answer
      have failed : ({ recording.fail .shutdownTimeout with joinable := false } : Recording sink).Mirrored
          { view.fail .shutdownTimeout with state := { view.state with joinable := false } } :=
        { mirrored.fail .shutdownTimeout with joinable := rfl }
      exact .one answer (failed.closed false)
  · cases moved

/-- Each access of `close` has its counterpart. -/
theorem proceed (mirrored : recording.Mirrored view) (moved : recording.proceed = some next) :
    Answers view next := by
  have answer : view.next .proceed = view.proceed := rfl
  unfold Recording.proceed at moved
  split at moved
  · cases moved
  · next owner =>
      rw [RecordingView.proceed, mirrored.stands owner] at answer
      dsimp only [CloseStage.owner] at answer
      split at moved
      · next joinable =>
          rw [if_pos (mirrored.joinable.trans joinable)] at answer
          split at moved
          · next free =>
              cases moved
              rw [if_neg (by simp [mirrored.unlocked free])] at answer
              exact .one answer { mirrored with closing := rfl, owner := rfl }
          · cases moved
      · next detached =>
          cases moved
          rw [if_neg (by rwa [mirrored.joinable])] at answer
          exact .one answer { mirrored with owner := rfl }
  · next owner =>
      rw [RecordingView.proceed, mirrored.stands owner] at answer
      dsimp only [CloseStage.owner] at answer
      split at moved
      · next ready =>
          cases moved
          rw [if_pos ⟨mirrored.unlocked ready.1, mirrored.done.trans ready.2⟩] at answer
          exact .one answer { mirrored with owner := rfl }
      · cases moved
  · next owner =>
      rw [RecordingView.proceed, mirrored.stands owner] at answer
      dsimp only [CloseStage.owner] at answer
      split at moved
      · next ended =>
          obtain ⟨_, same, ⟨⟩⟩ := mirrored.place ended
          cases moved
          rw [if_pos same] at answer
          exact .one answer { mirrored with joinable := rfl, owner := rfl }
      · cases moved
  · next owner =>
      rw [RecordingView.proceed, mirrored.stands owner] at answer
      dsimp only [CloseStage.owner] at answer
      rw [mirrored.status] at answer
      split at moved
      · next finished =>
          cases moved
          rw [if_pos finished] at answer
          exact .one answer { mirrored with owner := rfl }
      · next running =>
          cases moved
          rw [if_neg running] at answer
          exact .one answer (mirrored.closed false)
  · next owner =>
      cases moved
      rw [RecordingView.proceed, mirrored.stands owner] at answer
      dsimp only [CloseStage.owner] at answer
      rw [mirrored.status] at answer
      exact .one answer (mirrored.closed _)

end Owner

/-- Every transition of the recording has its moves in the process. -/
theorem answers (mirrored : recording.Mirrored view) (regular : RecordingProcess.Regular view.state)
    {action : RecordingAction sink} (moved : recording.next action = some next) : Answers view next := by
  cases action with
  | submit record => exact mirrored.submit moved
  | advance stream => exact mirrored.advance regular moved
  | work => exact mirrored.work regular moved
  | write env => exact mirrored.write moved
  | finish env => exact mirrored.finish moved
  | close => exact mirrored.close moved
  | timeout => exact mirrored.timeout moved
  | proceed => exact mirrored.proceed moved

end Mirrored

/-- A run of the recording has a run of the view. -/
theorem run_mirrored {actions : List (RecordingAction sink)} (mirrored : recording.Mirrored view)
    (regular : RecordingProcess.Regular view.state) (ran : recording.run actions = some next) :
    ∃ (moves : List RecordingMove) (after : RecordingView),
      view.moves moves = some after ∧ next.Mirrored after := by
  have kept (state : Recording sink) action later partner
      (moved : state.next action = some later)
      (related : state.Mirrored partner ∧ RecordingProcess.Regular partner.state) :
      ∃ (moves : List RecordingMove) (after : RecordingView),
        moves.foldlM RecordingView.next partner = some after ∧
          later.Mirrored after ∧ RecordingProcess.Regular after.state := by
    obtain ⟨moves, after, answered, same⟩ := related.1.answers related.2 moved
    exact ⟨moves, after, answered, same, RecordingProcess.moves_regular answered related.2⟩
  obtain ⟨moves, after, answered, same, _⟩ :=
    PartialRun.simulation (fun state partner =>
      state.Mirrored partner ∧ RecordingProcess.Regular partner.state) kept ran ⟨mirrored, regular⟩
  exact ⟨moves, after, answered, same⟩


/-- A recording after its constructor, in a process that may have another one's worker. -/
theorem create_mirrored {sinkState : sink.State} {byteLimit recordLimit : UInt64}
    {writerBusy threads slot : Bool}
    (created : create (some sinkState) (some {}) byteLimit.toNat recordLimit.toNat writerBusy threads =
      (.ok recording, slot)) :
    (byteLimit ≠ 0 ∧ recordLimit ≠ 0) ∧
      ∃ moves view, RecordingView.moves ⟨writerBusy, {}, { status := 0, byteLimit, recordLimit }⟩ moves =
        some view ∧ recording.Mirrored view := by
  have idle : SameCalls (fun _ => none) [] := ⟨by simp, List.nodup_nil⟩
  rw [create] at created
  split at created
  · cases created
  · next valid =>
      rw [not_or] at valid
      have limits : byteLimit ≠ 0 ∧ recordLimit ≠ 0 :=
        ⟨fun zero => valid.1 (by rw [zero]; rfl), fun zero => valid.2 (by rw [zero]; rfl)⟩
      cases writerBusy with
      | true =>
          cases created
          refine ⟨limits, [.construct, .construct, .construct], _, rfl, ?_⟩
          exact ⟨rfl, rfl, rfl, rfl, rfl, rfl, rfl, rfl, idle, .absent, rfl, rfl, rfl⟩
      | false =>
          cases threads with
          | true =>
              cases created
              refine ⟨limits, [.construct, .start true], _, rfl, ?_⟩
              exact ⟨rfl, rfl, rfl, rfl, rfl, rfl, rfl, rfl, idle, .waiting, rfl, rfl, rfl⟩
          | false => cases created

/-- A process whose slot is as the constructor finds it. -/
theorem slot_reached (writerBusy : Bool) : ∃ process : RecordingProcess,
    process.Reached ∧ process.writerBusy = writerBusy ∧ process.statuses 0 = {} := by
  cases writerBusy with
  | false => exact ⟨{}, ⟨[], rfl⟩, rfl, rfl⟩
  | true =>
      have ran := @RecordingProcess.run_construction {} 0 1 1 ⟨by decide, by decide⟩
        [.construct, .start true] _ rfl
      exact ⟨_, ⟨_, ran⟩, rfl, rfl⟩

/-- Every state that a recording reaches with its sink is that of one recording of a process. -/
theorem run_in_process {sinkState : sink.State} {byteLimit recordLimit : UInt64}
    {writerBusy threads slot : Bool} {actions : List (RecordingAction sink)}
    (created : create (some sinkState) (some {}) byteLimit.toNat recordLimit.toNat writerBusy threads =
      (.ok recording, slot))
    (ran : recording.run actions = some next) :
    ∃ (process : RecordingProcess) (index : Nat) (state : RecordingState), process.Reached ∧
      process.recordings[index]? = some state ∧ next.Mirrored (process.view state) := by
  obtain ⟨valid, begin, view, begun, mirrored⟩ := create_mirrored created
  obtain ⟨process, reached, rfl, unused⟩ := slot_reached writerBusy
  rw [← unused] at begun
  have regular := RecordingProcess.moves_regular begun (.fresh 0 byteLimit recordLimit)
  obtain ⟨moves, after, answered, same⟩ := run_mirrored mirrored regular ran
  have constructed := RecordingProcess.run_construction valid (PartialRun.run_append begun answered)
  refine ⟨_, _, after.state, reached.run constructed, RecordingProcess.constructed_located after, ?_⟩
  rw [RecordingProcess.view_put]
  exact same

/-- The limits are those of the constructor. -/
theorem create_limits {sinkState : Option sink.State} {status : Option RecordingStatus}
    {byteLimit recordLimit : Nat} {writerBusy threads slot : Bool}
    (created : create sinkState status byteLimit recordLimit writerBusy threads =
      (.ok recording, slot)) :
    recording.byteLimit = byteLimit ∧ recording.recordLimit = recordLimit := by
  unfold create at created
  repeat' split at created
  all_goals cases created
  all_goals exact ⟨rfl, rfl⟩

/-- A recording keeps the limits of its constructor. -/
theorem run_limits {sinkState : sink.State} {byteLimit recordLimit : Nat}
    {writerBusy threads slot : Bool} {actions : List (RecordingAction sink)}
    (created : create (some sinkState) (some {}) byteLimit recordLimit writerBusy threads =
      (.ok recording, slot))
    (ran : recording.run actions = some next) :
    next.byteLimit = byteLimit ∧ next.recordLimit = recordLimit := by
  refine (run_induction (fun next => next.byteLimit = byteLimit ∧ next.recordLimit = recordLimit)
    (create_fresh created).1.sound (create_limits created) ?_ ran).2
  intro before after _ step held
  rw [step.limits.1, step.limits.2]
  exact held

/-- The queue and its bytes stay within the limits, and the bytes are exact up to the cleanup. -/
structure Bounded (recording : Recording sink) (byteLimit recordLimit : Nat) : Prop where
  bytes : recording.bytes ≤ byteLimit
  records : recording.queue.length ≤ recordLimit
  counted : recording.worker ≠ .releasing → recording.worker ≠ .ended →
    recording.bytes = recordSizes recording.queue

/-- A recording stays within its limits, as each recording of a process does. -/
theorem run_bounded {sinkState : sink.State} {byteLimit recordLimit : UInt64}
    {writerBusy threads slot : Bool} {actions : List (RecordingAction sink)}
    (created : create (some sinkState) (some {}) byteLimit.toNat recordLimit.toNat writerBusy threads =
      (.ok recording, slot))
    (ran : recording.run actions = some next) :
    next.Bounded byteLimit.toNat recordLimit.toNat := by
  obtain ⟨process, index, state, reached, located, same⟩ := run_in_process created ran
  obtain ⟨byteLimit, recordLimit⟩ := run_limits created ran
  have bounded := (reached.balanced.1 state (List.mem_of_getElem? located)).bounded
  have bytes : state.bytes = next.bytes := same.bytes
  have queue : state.queue = next.queue := same.queue
  refine ⟨?_, ?_, fun releasing ended => ?_⟩
  · rw [← bytes, ← byteLimit, ← same.byteLimit]
    exact bounded.byteLimit
  · rw [← queue, ← recordLimit, ← same.recordLimit]
    exact bounded.recordLimit
  · have uncleaned : ¬ state.worker.Cleaned := by
      generalize worker : next.worker = stage at releasing ended
      obtain ⟨place, there, corresponds⟩ := same.place worker
      change state.worker = place at there
      rw [there]
      cases corresponds with
      | releasing => exact absurd rfl releasing
      | ended => exact absurd rfl ended
      | absent | waiting | holding | wrote | failing | lingering | finishing | failingFinish
      | cleaning => exact id
    have whole := bounded.bytes
    rw [bounded.dropped uncleaned] at whole
    rw [← bytes, ← queue]
    exact whole

end Recording
end Vio
