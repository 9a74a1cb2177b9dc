import Vio.Proof.Process.Verdict

namespace Vio
open Tally

/-- The call is inside the mutex. -/
def SubmitStage.isInside : SubmitStage → Bool
  | .inside _ | .insideHealthy _ | .overflowing true | .rejecting true => true
  | _ => false

/-- The number of the calls inside the mutex. -/
abbrev insideCount (submits : List Submit) : Nat :=
  total (fun submit => submit.stage.isInside.toNat) submits

/-- The mutex is locked where one call is inside. -/
def RecordingState.Guarded (state : RecordingState) : Prop :=
  insideCount state.submits = state.locked.toNat

/-- The constructor found the slot taken. -/
def RecordingState.Refused (state : RecordingState) : Prop :=
  state.worker = .absent ∧ state.owner ≠ .exchanging ∧ state.owner ≠ .starting

namespace RecordingView
variable {view after : RecordingView}

/-- A recording that was refused the slot never gets a worker. -/
theorem Step.refused (step : view.Step after) (refused : view.state.Refused) :
    after.state.Refused := by
  obtain ⟨absent, exchanged, unstarted⟩ := refused
  have moves {before : WriterStage} (worker : view.state.worker = before) : before = .absent :=
    worker.symm.trans absent
  cases step with
  | exchange owner => exact absurd owner exchanged
  | started owner | unstarted owner => exact absurd owner unstarted
  | take record rest worker | enterWrite record worker | enterFinish worker | count record worker
  | giveUp record worker | abandon worker | clean worker | release worker => cases moves worker
  | turn before after worker turns =>
      have active := turns.active.1
      rw [moves worker] at active
      cases active
  | pass before after owner passes =>
      exact ⟨absent, passes.constructed.2.2.1, passes.constructed.2.1⟩
  | refuse | mark | destroy | shut | join => exact ⟨absent, nofun, nofun⟩
  | timeout | readRunning | decide =>
      exact ⟨absent, closed_past _ _⟩
  | begin | check | subtract | lock | accept | overflow | reject | access | blame =>
      exact ⟨absent, exchanged, unstarted⟩

/-- A call that moves on without entering or leaving the mutex. -/
theorem insideCount_set {submits : List Submit} {call : Nat} {record : RecordingRecord}
    {before : SubmitStage} (current : submits[call]? = some ⟨record, before⟩) (stage : SubmitStage)
    (same : stage.isInside = before.isInside) :
    insideCount (submits.set call ⟨record, stage⟩) = insideCount submits := by
  have changed : insideCount (submits.set call ⟨record, stage⟩) + before.isInside.toNat =
      insideCount submits + stage.isInside.toNat := total_set current ⟨record, stage⟩
  rw [same] at changed
  exact Nat.add_right_cancel changed

/-- A call inside the mutex is the only one there, and the mutex is locked. -/
theorem guarded_alone (guarded : view.state.Guarded) {call : Nat} {record : RecordingRecord}
    {stage : SubmitStage} (current : view.state.submits[call]? = some ⟨record, stage⟩)
    (inside : stage.isInside = true) :
    view.state.locked = true ∧ insideCount (view.state.submits.eraseIdx call) = 0 := by
  have rest : insideCount (view.state.submits.eraseIdx call) + stage.isInside.toNat =
      insideCount view.state.submits := total_eraseIdx current
  rw [inside, guarded] at rest
  cases locked : view.state.locked with
  | true =>
      rw [locked] at rest
      exact ⟨rfl, Nat.succ.inj rest⟩
  | false =>
      rw [locked] at rest
      cases rest

theorem Checked.isInside {before stage : SubmitStage} (checked : view.Checked before stage) :
    stage.isInside = before.isInside := by
  cases checked <;> rfl

/-- A call enters the mutex only where it is free, and unlocks it when it leaves. -/
theorem Step.guarded (step : view.Step after) (guarded : view.state.Guarded) :
    after.state.Guarded := by
  cases step with
  | begin record =>
      change insideCount (view.state.submits ++ [⟨record, .entered⟩]) = _
      rw [insideCount, total_append]
      exact guarded
  | check call record before stage current checked =>
      exact (insideCount_set current _ checked.isInside).trans guarded
  | subtract call record before stage made current subtracted =>
      refine (insideCount_set current _ ?_).trans guarded
      cases subtracted <;> rfl
  | lock call record bytes current free =>
      have changed : insideCount (view.state.submits.set call ⟨record, .inside bytes⟩) +
          (SubmitStage.locking bytes).isInside.toNat =
          insideCount view.state.submits + (SubmitStage.inside bytes).isInside.toNat :=
        total_set current ⟨record, .inside bytes⟩
      rw [guarded, free] at changed
      exact changed
  | accept call record bytes current => exact (guarded_alone guarded current rfl).2
  | overflow call record locked current =>
      refine (insideCount_set current _ ?_).trans guarded
      cases locked <;> rfl
  | reject call record locked current =>
      cases locked with
      | true => exact (guarded_alone guarded current rfl).2
      | false => exact (total_eraseIdx current).trans guarded
  | exchange | refuse | mark | started | unstarted | take | turn | enterWrite | enterFinish | count
  | giveUp | abandon | clean | release | access | blame | pass | destroy | shut | timeout | join
  | readRunning | decide => exact guarded

/-- A part of an interleaving in which only one recording moves. -/
def moves (view : RecordingView) (moves : List RecordingMove) : Option RecordingView :=
  moves.foldlM next view

/-- The calls of `submit` can leave the mutex, and the worker stays where it is. -/
def Unlocks (view : RecordingView) : Prop :=
  ∃ moves after, (∀ move ∈ moves, ∃ call, move = .advance call) ∧ view.moves moves = some after ∧
    after.state.locked = false ∧ after.state.worker = view.state.worker

theorem Unlocks.now (free : view.state.locked = false) : view.Unlocks :=
  ⟨[], view, nofun, rfl, free, rfl⟩

/-- A call can leave the mutex if it can do so one access later. -/
theorem Unlocks.later {call : Nat} (unlocks : after.Unlocks) (moved : view.advance call = some after)
    (worker : after.state.worker = view.state.worker) : view.Unlocks := by
  obtain ⟨moves, last, calls, ran, free, same⟩ := unlocks
  refine ⟨.advance call :: moves, last, List.forall_mem_cons.mpr ⟨⟨call, rfl⟩, calls⟩, ?_, free,
    same.trans worker⟩
  rw [RecordingView.moves, List.foldlM_cons]
  exact Option.bind_eq_some_iff.mpr ⟨after, moved, ran⟩

section Unlocks
variable {call : Nat} {record : RecordingRecord} {stage : SubmitStage}

/-- The call that moved on is in its new stage. -/
theorem toStage_current (current : view.state.submits[call]? = some ⟨record, stage⟩)
    (later : SubmitStage) :
    (view.toStage call record later).state.submits[call]? = some ⟨record, later⟩ :=
  List.getElem?_set_self (List.getElem?_eq_some_iff.mp current).1

theorem unlocks_rejecting
    (current : view.state.submits[call]? = some ⟨record, .rejecting true⟩) : view.Unlocks := by
  have moved : view.advance call = some (view.reject call record true) := by
    rw [advance, current]
  exact (Unlocks.now rfl).later moved rfl

theorem unlocks_overflowing
    (current : view.state.submits[call]? = some ⟨record, .overflowing true⟩) : view.Unlocks := by
  have moved : view.advance call = some ((view.fail .backlog).toStage call record (.rejecting true)) := by
    rw [advance, current]
  have rejecting := @toStage_current (view.fail .backlog) call record _ current (.rejecting true)
  exact (unlocks_rejecting rejecting).later moved rfl

/-- The last check of a call leads it out of the mutex. -/
theorem unlocks_checkLimits {bytes : Nat}
    (current : view.state.submits[call]? = some ⟨record, .insideHealthy bytes⟩) :
    (view.checkLimits call record bytes).Unlocks ∧
      (view.checkLimits call record bytes).state.worker = view.state.worker := by
  unfold checkLimits
  split
  · exact ⟨unlocks_overflowing (toStage_current current _), rfl⟩
  · dsimp only
    split
    · exact ⟨unlocks_overflowing (toStage_current current _), rfl⟩
    · exact ⟨.now rfl, rfl⟩

/-- The last check of a call inside the mutex leads out of it. -/
theorem unlocks_healthy {bytes : Nat}
    (current : view.state.submits[call]? = some ⟨record, .insideHealthy bytes⟩) : view.Unlocks := by
  cases ended : view.status.finished with
  | true =>
      have moved : view.advance call = some (view.toStage call record (.rejecting true)) := by
        simp [advance, current, ended]
      exact (unlocks_rejecting (toStage_current current _)).later moved rfl
  | false =>
      have moved : view.advance call = some (view.checkLimits call record bytes) := by
        simp [advance, current, ended]
      obtain ⟨unlocks, worker⟩ := unlocks_checkLimits current
      exact unlocks.later moved worker

/-- From each place inside the mutex a call gets out by itself. -/
theorem unlocks_inside (current : view.state.submits[call]? = some ⟨record, stage⟩)
    (inside : stage.isInside = true) : view.Unlocks := by
  cases stage with
  | inside bytes =>
      by_cases healthy : view.status.failure = .none
      · have moved : view.advance call = some (view.toStage call record (.insideHealthy bytes)) := by
          simp [advance, current, healthy]
        exact (unlocks_healthy (toStage_current current _)).later moved rfl
      · have moved : view.advance call = some (view.toStage call record (.rejecting true)) := by
          simp [advance, current, healthy]
        exact (unlocks_rejecting (toStage_current current _)).later moved rfl
  | insideHealthy bytes => exact unlocks_healthy current
  | overflowing locked =>
      cases locked with
      | true => exact unlocks_overflowing current
      | false => cases inside
  | rejecting locked =>
      cases locked with
      | true => exact unlocks_rejecting current
      | false => cases inside
  | entered | healthy | measuring | locking => cases inside

end Unlocks

/-- A mutex that is locked can always be left. -/
theorem unlocks (guarded : view.state.Guarded) : view.Unlocks := by
  cases locked : view.state.locked with
  | false => exact .now locked
  | true =>
      have one : 0 < insideCount view.state.submits := by
        rw [guarded, locked]
        exact Nat.one_pos
      obtain ⟨call, ⟨record, stage⟩, current, weight⟩ := exists_of_total_pos one
      refine unlocks_inside current ?_
      by_contra outside
      rw [Bool.eq_false_of_not_eq_true outside] at weight
      exact Nat.lt_irrefl _ weight

/-- The worker gives up the slot with accesses of its own and of the calls inside the mutex. -/
def Frees (view : RecordingView) : Prop :=
  ∃ moves after, (∀ move ∈ moves, move = .work ∨ ∃ call, move = .advance call) ∧
    view.moves moves = some after ∧ after.writerBusy = false

theorem frees_releasing (worker : view.state.worker = .releasing) : view.Frees := by
  refine ⟨[.work], { view.toWorker .ended with writerBusy := false }, ?_, ?_, rfl⟩
  · exact List.forall_mem_singleton.mpr (.inl rfl)
  · simp [RecordingView.moves, next, work, worker]

/-- After its sink was destroyed the worker can always give up the slot. -/
theorem frees_cleaning (guarded : view.state.Guarded) (worker : view.state.worker = .cleaning) :
    view.Frees := by
  obtain ⟨calls, free, advances, ran, unlocked, same⟩ := unlocks guarded
  rw [worker] at same
  obtain ⟨cleaned, moved⟩ : ∃ cleaned, free.work = some cleaned ∧ cleaned.state.worker = .releasing := by
    simp [work, same, unlocked]
  obtain ⟨works, last, own, done, slot⟩ := frees_releasing moved.2
  refine ⟨calls ++ .work :: works, last, ?_, ?_, slot⟩
  · intro move listed
    rcases List.mem_append.mp listed with call | listed
    · exact .inr (advances move call)
    · exact List.forall_mem_cons.mpr ⟨.inl rfl, own⟩ move listed
  · rw [RecordingView.moves, List.foldlM_append]
    refine Option.bind_eq_some_iff.mpr ⟨free, ran, ?_⟩
    rw [List.foldlM_cons]
    exact Option.bind_eq_some_iff.mpr ⟨cleaned, moved.1, done⟩

end RecordingView

namespace RecordingProcess
variable {process next last : RecordingProcess}

section Moves
variable {recording : Nat} {state : RecordingState} {after : RecordingView}

theorem put_view (located : process.recordings[recording]? = some state) :
    process.put recording (process.view state) = process := by
  obtain ⟨inside, rfl⟩ := List.getElem?_eq_some_iff.mp located
  simp [put, view]

theorem view_put (recording : Nat) (view : RecordingView) :
    (process.put recording view).view view.state = view := by
  simp [put, RecordingProcess.view]

theorem put_put {middle : RecordingView} (own : after.state.status = middle.state.status) :
    (process.put recording middle).put recording after = process.put recording after := by
  simp [put, own]

/-- A recording that moves alone keeps its status. -/
theorem moves_own {view : RecordingView} {moves : List RecordingMove}
    (ran : view.moves moves = some after) : after.state.status = view.state.status :=
  PartialRun.invariant (fun last => last.state.status = view.state.status)
    (fun _ _ _ moved same => (RecordingView.next_step moved).owned.status.trans same) ran rfl

/-- What one recording does alone is an interleaving of the process. -/
theorem run_moves {moves : List RecordingMove}
    (located : process.recordings[recording]? = some state)
    (ran : (process.view state).moves moves = some after) :
    process.run (moves.map (.move recording)) = some (process.put recording after) := by
  induction moves generalizing process state with
  | nil =>
      obtain rfl := Option.some.inj ran
      rw [put_view located]
      rfl
  | cons move rest inductionHypothesis =>
      obtain ⟨middle, moved, ran⟩ := Option.bind_eq_some_iff.mp ran
      have inside := (List.getElem?_eq_some_iff.mp located).1
      have there : (process.put recording middle).recordings[recording]? = some middle.state :=
        List.getElem?_set_self inside
      have first : process.next (.move recording move) = some (process.put recording middle) := by
        change process.move recording move = _
        rw [RecordingProcess.move, located]
        exact Option.map_eq_some_iff.mpr ⟨middle, moved, rfl⟩
      have later := inductionHypothesis there (by rw [view_put]; exact ran)
      rw [put_put (moves_own ran)] at later
      rw [List.map_cons, run, List.foldlM_cons]
      exact Option.bind_eq_some_iff.mpr ⟨_, first, later⟩

end Moves

end RecordingProcess
end Vio
