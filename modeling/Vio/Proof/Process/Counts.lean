import Mathlib.Tactic.Linarith
import Vio.Proof.Process.Runs

namespace Vio
open Tally

/-- The bytes of the chunks. -/
abbrev chunkSizes (chunks : List RecordingChunk) : Nat :=
  total (fun chunk => chunk.bytes.length) chunks

theorem chunkSizes_cons (chunk : RecordingChunk) (rest : List RecordingChunk) :
    chunkSizes (chunk :: rest) = chunk.bytes.length + chunkSizes rest := total_cons chunk

/-- The bytes of the records. -/
abbrev recordSizes (records : List RecordingRecord) : Nat :=
  total (fun record => chunkSizes record.chunks) records

/-- No subtraction went below zero. -/
def Unwrapped (made : List (Nat × Nat)) : Prop := ∀ pair ∈ made, pair.2 ≤ pair.1

namespace RecordingView

theorem addSize_eq {first second : Nat} (inRange : first + second < UInt64.size) :
    addSize first second = first + second := Nat.mod_eq_of_lt inRange

/-- A subtraction that does not wrap is the one of natural numbers. -/
theorem subtractSize_eq {minuend subtrahend : Nat} (inRange : minuend < UInt64.size)
    (exact : subtrahend ≤ minuend) : subtractSize minuend subtrahend = minuend - subtrahend := by
  have small : subtrahend % UInt64.size = subtrahend :=
    Nat.mod_eq_of_lt (lt_of_le_of_lt exact inRange)
  have sum : minuend + (UInt64.size - subtrahend) = minuend - subtrahend + UInt64.size := by omega
  rw [subtractSize, small, sum, Nat.add_mod_right]
  exact Nat.mod_eq_of_lt (lt_of_le_of_lt (Nat.sub_le _ _) inRange)

/-- The chunk loop of `submit` finds the size of the record, without a subtraction below zero. -/
theorem measure_spec {limit : Nat} (inRange : limit < UInt64.size) (chunks : List RecordingChunk)
    {bytes : Nat} (within : bytes ≤ limit) {made : List (Nat × Nat)} (exact : Unwrapped made) :
    (∀ size, (measure limit chunks bytes made).1 = some size →
      size = bytes + chunkSizes chunks ∧ size ≤ limit) ∧
    Unwrapped (measure limit chunks bytes made).2 := by
  induction chunks generalizing bytes made with
  | nil =>
      refine ⟨fun size found => ?_, exact⟩
      obtain rfl := Option.some.inj found
      exact ⟨rfl, within⟩
  | cons chunk rest inductionHypothesis =>
      have more : Unwrapped ((limit, bytes) :: made) := List.forall_mem_cons.mpr ⟨within, exact⟩
      rw [measure, subtractSize_eq inRange within]
      split
      · exact ⟨nofun, more⟩
      · rename_i fits
        rw [addSize_eq (by omega)]
        have within : bytes + chunk.bytes.length ≤ limit := by omega
        obtain ⟨sized, exactly⟩ := inductionHypothesis within more
        refine ⟨fun size found => ?_, exactly⟩
        obtain ⟨total, small⟩ := sized size found
        rw [chunkSizes_cons, ← Nat.add_assoc]
        exact ⟨total, small⟩

/-- The chunk loop of the worker takes the size of the record off the bytes. -/
theorem discount_spec (chunks : List RecordingChunk) {bytes : Nat} (inRange : bytes < UInt64.size)
    (counted : chunkSizes chunks ≤ bytes) {made : List (Nat × Nat)} (exact : Unwrapped made) :
    (discount chunks bytes made).1 = bytes - chunkSizes chunks ∧
    Unwrapped (discount chunks bytes made).2 := by
  induction chunks generalizing bytes made with
  | nil => exact ⟨rfl, exact⟩
  | cons chunk rest inductionHypothesis =>
      rw [chunkSizes_cons] at counted
      have enough : chunk.bytes.length ≤ bytes := by omega
      have more : Unwrapped ((bytes, chunk.bytes.length) :: made) :=
        List.forall_mem_cons.mpr ⟨enough, exact⟩
      rw [discount, subtractSize_eq inRange enough, chunkSizes_cons, ← Nat.sub_sub]
      exact inductionHypothesis (by omega) (by omega) more

end RecordingView

/-- The worker knows that the recording is closing. -/
def WriterStage.Closing : WriterStage → Prop
  | .finishing | .failingFinish | .destroying | .cleaning | .releasing | .ended => True
  | _ => False

/-- The size that a call found for its record. -/
def SubmitStage.found : SubmitStage → Option Nat
  | .locking bytes | .inside bytes | .insideHealthy bytes => some bytes
  | _ => none

/-- The calls know the sizes of their records. -/
def Found (limit : Nat) (submits : List Submit) : Prop :=
  ∀ submit ∈ submits, ∀ size, submit.stage.found = some size →
    size = chunkSizes submit.record.chunks ∧ size ≤ limit

namespace Found
variable {limit call : Nat} {submits : List Submit} {record : RecordingRecord}
  {before stage : SubmitStage}

theorem set (found : Found limit submits) (current : submits[call]? = some ⟨record, before⟩)
    (kept : ∀ size, stage.found = some size → before.found = some size) :
    Found limit (submits.set call ⟨record, stage⟩) :=
  forall_mem_set found fun size known =>
    found ⟨record, before⟩ (List.mem_of_getElem? current) size (kept size known)

theorem eraseIdx (found : Found limit submits) : Found limit (submits.eraseIdx call) :=
  fun submit listed => found submit (List.mem_of_mem_eraseIdx listed)

end Found

/-- The bytes are those of the queued records, and the limits hold. -/
structure RecordingState.Bounded (state : RecordingState) : Prop where
  bytes : state.bytes = recordSizes state.queue + recordSizes state.dropped
  byteLimit : state.bytes ≤ state.byteLimit.toNat
  recordLimit : state.queue.length ≤ state.recordLimit.toNat
  exact : Unwrapped state.subtractions
  found : Found state.byteLimit.toNat state.submits
  dropped : ¬ state.worker.Cleaned → state.dropped = []
  closing : state.worker.Closing → state.closing = true

namespace RecordingView
variable {view after : RecordingView}

theorem Checked.found {before stage : SubmitStage} (checked : view.Checked before stage) (size : Nat)
    (known : stage.found = some size) : before.found = some size := by
  cases checked with
  | healthyInside bytes => exact known
  | failed | healthy | ended | active | failedInside | endedInside | full => cases known

theorem Turns.closing {before stage : WriterStage} (turns : view.Turns before stage)
    (closing : stage.Closing) : before.Closing := by
  cases turns with
  | done | thrown | destroyed => trivial
  | drain | returned | threw => exact closing.elim

end RecordingView

namespace RecordingState.Bounded
variable {view : RecordingView} {call bytes : Nat} {record : RecordingRecord}

open RecordingView

/-- The subtraction before the last check. -/
theorem subtract (bounded : view.state.Bounded) :
    (view.withSubtractions
      ((view.state.byteLimit.toNat, view.state.bytes) :: view.state.subtractions)).state.Bounded :=
  { bounded with exact := List.forall_mem_cons.mpr ⟨bounded.byteLimit, bounded.exact⟩ }

/-- A call that measures subtracts no more than the limit has left. -/
theorem subtracted {before stage : SubmitStage} {made : List (Nat × Nat)}
    (bounded : view.state.Bounded)
    (current : view.state.submits[call]? = some ⟨record, before⟩)
    (subtracted : view.Subtracted record before stage made) :
    ((view.withSubtractions made).toStage call record stage).state.Bounded := by
  obtain ⟨sized, exact⟩ := measure_spec (UInt64.toNat_lt_size _) record.chunks (Nat.zero_le _) bounded.exact
  cases subtracted with
  | large => exact { bounded with exact, found := bounded.found.set current nofun }
  | sized bytes measured =>
      obtain ⟨same, within⟩ := sized bytes measured
      refine { bounded with exact, found := forall_mem_set bounded.found fun size known => ?_ }
      obtain rfl := Option.some.inj known
      exact ⟨by rw [same, Nat.zero_add], within⟩
  | tight bytes => exact { bounded.subtract with found := bounded.found.set current nofun }

/-- An accepted record fits, and its bytes are those that its call found. -/
theorem accept (bounded : view.state.Bounded)
    (current : view.state.submits[call]? = some ⟨record, .insideHealthy bytes⟩)
    (room : view.state.queue.length < view.state.recordLimit.toNat)
    (fits : bytes ≤ subtractSize view.state.byteLimit.toNat view.state.bytes) :
    (view.accept call record bytes).state.Bounded := by
  have inRange := UInt64.toNat_lt_size view.state.byteLimit
  have size : bytes = chunkSizes record.chunks :=
    (bounded.found ⟨record, _⟩ (List.mem_of_getElem? current) bytes rfl).1
  rw [subtractSize_eq inRange bounded.byteLimit] at fits
  have limit := bounded.byteLimit
  have sum : addSize view.state.bytes bytes = view.state.bytes + bytes := addSize_eq (by omega)
  refine { bounded with bytes := ?_, byteLimit := ?_, recordLimit := ?_, found := bounded.found.eraseIdx }
  · have more : recordSizes (view.state.queue ++ [record]) =
        recordSizes view.state.queue + chunkSizes record.chunks := by
      rw [recordSizes, total_append, total_cons, total_nil, Nat.add_zero]
    have whole := bounded.bytes
    change addSize _ _ = recordSizes (view.state.queue ++ [record]) + recordSizes view.state.dropped
    rw [sum, more]
    omega
  · change addSize _ _ ≤ view.state.byteLimit.toNat
    omega
  · change (view.state.queue ++ [record]).length ≤ _
    rw [List.length_append, List.length_singleton]
    exact room

/-- The bytes of a record that leaves the queue are there. -/
theorem take {rest : List RecordingRecord} (bounded : view.state.Bounded)
    (worker : view.state.worker = .waiting) (queue : view.state.queue = record :: rest) :
    (view.take record rest).state.Bounded := by
  have inRange := lt_of_le_of_lt bounded.byteLimit (UInt64.toNat_lt_size _)
  have sizes : recordSizes view.state.queue = chunkSizes record.chunks + recordSizes rest := by
    rw [queue]
    exact total_cons record
  have bytes := bounded.bytes
  obtain ⟨left, exact⟩ := discount_spec record.chunks inRange (by omega) bounded.exact
  have dropped := bounded.dropped (by rw [worker]; exact id)
  have limit := bounded.byteLimit
  have length := bounded.recordLimit
  rw [queue, List.length_cons] at length
  refine { found := bounded.found, exact, bytes := ?_, byteLimit := ?_, recordLimit := ?_,
           dropped := fun _ => dropped, closing := nofun }
  · change (discount _ _ _).1 = recordSizes rest + recordSizes view.state.dropped
    omega
  · change (discount _ _ _).1 ≤ view.state.byteLimit.toNat
    omega
  · exact Nat.le_of_succ_le length

/-- Each step keeps the bytes of the queue exact and within the limits. -/
theorem step {after : RecordingView} (step : view.Step after) (young : view.state.Young)
    (bounded : view.state.Bounded) : after.state.Bounded := by
  -- A worker before its last cleanup has dropped nothing.
  have kept {before : WriterStage} (worker : view.state.worker = before) (uncleaned : ¬ before.Cleaned) :
      view.state.dropped = [] := bounded.dropped (by rw [worker]; exact uncleaned)
  have shut {before : WriterStage} (worker : view.state.worker = before) (past : before.Closing) :
      view.state.closing = true := bounded.closing (by rw [worker]; exact past)
  cases step with
  | subtract call record before after made current subtracted =>
      exact bounded.subtracted current subtracted
  | accept call record bytes current unshut room fits =>
      exact bounded.subtract.accept current room fits
  | take record rest worker queue => exact bounded.take worker queue
  | begin record =>
      refine { bounded with found := fun submit listed => ?_ }
      rcases List.mem_append.mp listed with old | new
      · exact bounded.found submit old
      · obtain rfl := List.mem_singleton.mp new
        exact nofun
  | check call record before after current checked =>
      exact { bounded with found := bounded.found.set current checked.found }
  | lock call record bytes current =>
      exact { bounded with found := bounded.found.set current fun _ => id }
  | overflow call record locked current =>
      exact { bounded with found := bounded.found.set current nofun }
  | reject call record locked current => exact { bounded with found := bounded.found.eraseIdx }
  | turn before after worker turns =>
      exact { bounded with
        dropped := fun _ => kept worker turns.uncleaned.1
        closing := fun past => shut worker (turns.closing past) }
  | started owner =>
      exact { bounded with
        dropped := fun _ => kept (young (.inr owner)) id
        closing := nofun }
  | enterWrite record worker | count record worker | giveUp record worker =>
      exact { bounded with dropped := fun _ => kept worker id, closing := nofun }
  | enterFinish worker closing =>
      exact { bounded with dropped := fun _ => kept worker id, closing := fun _ => closing }
  | abandon worker =>
      exact { bounded with dropped := fun _ => kept worker id, closing := fun _ => shut worker trivial }
  | clean worker =>
      have bytes := bounded.bytes
      rw [kept worker id] at bytes
      exact { bounded with
        bytes := bytes.trans (Nat.add_comm _ _)
        recordLimit := Nat.zero_le _
        dropped := fun uncleaned => absurd trivial uncleaned
        closing := fun _ => shut worker trivial }
  | release worker =>
      exact { bounded with
        dropped := fun uncleaned => absurd trivial uncleaned
        closing := fun _ => shut worker trivial }
  | shut => exact { bounded with closing := fun _ => rfl }
  | exchange | refuse | mark | unstarted | access | blame | pass | destroy | timeout | join
  | readRunning | decide => exact { bounded with }

end RecordingState.Bounded
end Vio
