import Vio.Proof.Process.Balance
import Vio.Proof.Process.Handover

namespace Vio
open RecordingStatus Tally

namespace RecordingProcess
variable {process next last : RecordingProcess} {actions : List ProcessAction}

/-- What each recording keeps about its owner, its mutex and its status. -/
structure Orderly (status : RecordingStatus) (state : RecordingState) : Prop where
  young : state.Young
  guarded : state.Guarded
  ruled : state.Ruled status
  barred : state.worker = .absent → state.Barred status

/-- A new recording is orderly. -/
theorem Orderly.fresh (status : RecordingStatus) (place : Nat) (byteLimit recordLimit : UInt64) :
    Orderly status { status := place, byteLimit, recordLimit } where
  young _ := rfl
  guarded := rfl
  ruled :=
    { marking := nofun, worker := nofun, unjoinable := fun present => present.elim, reading := nofun
      overruled := nofun, results := .nil }
  barred _ :=
    { sinkCalls := rfl, accepted := rfl, queue := rfl, submits := nofun
      failed := by
        rintro (present | marking | calls)
        · exact present.elim
        · cases marking
        · exact absurd rfl calls }

/-- A recording stays orderly where only its status goes on. -/
theorem Orderly.latch {before after : RecordingStatus} {state : RecordingState}
    (latched : Latched before after) (orderly : Orderly before state) : Orderly after state where
  young := orderly.young
  guarded := orderly.guarded
  ruled := orderly.ruled.latch latched
  barred absent := (orderly.barred absent).latch latched

/-- Each step of its threads keeps a recording orderly. -/
theorem Orderly.step {view after : RecordingView} (step : view.Step after)
    (orderly : Orderly view.status view.state) : Orderly after.status after.state where
  young := step.young orderly.young
  guarded := step.guarded orderly.guarded
  ruled := step.ruled orderly.ruled
  barred := step.barred orderly.barred

/-- In every reached process the recordings are orderly and share one slot. -/
theorem Reached.orderly (reached : process.Reached) : process.Each Orderly ∧ process.Slotted := by
  obtain ⟨actions, ran⟩ := reached
  refine run_invariant (fun process => process.Each Orderly ∧ process.Slotted)
    (fun before after step held => ⟨?_, ?_⟩) ran ⟨?_, ?_⟩
  · exact Each.step Orderly.fresh (fun _ _ _ => Orderly.latch) (fun _ _ => Orderly.step) step held.1
  · exact held.2.step step fun state listed => (held.1 state listed).young
  · exact fun state listed => absurd listed List.not_mem_nil
  · rfl

theorem Reached.run (reached : process.Reached) (ran : process.run actions = some last) :
    last.Reached := by
  obtain ⟨earlier, start⟩ := reached
  exact ⟨earlier ++ actions, PartialRun.run_append start ran⟩

/-- One more transition leads to a reached process. -/
theorem Reached.move {action : ProcessAction} (reached : process.Reached)
    (moved : process.next action = some next) : next.Reached := by
  have ran : process.run [action] = some next := by
    rw [RecordingProcess.run, List.foldlM_cons, moved]
    rfl
  exact reached.run ran

/-- A failure and the end are final in every run. -/
theorem run_latched (ran : process.run actions = some last) (place : Nat) :
    Latched (process.statuses place) (last.statuses place) :=
  run_invariant (fun later => Latched (process.statuses place) (later.statuses place))
    (fun _ _ step latched => latched.trans (step.latched place)) ran (.refl _)

/-- A property of one recording that every step keeps holds in every run. -/
theorem run_located {holds : RecordingState → Prop}
    (kept : ∀ view after : RecordingView, view.Step after → holds view.state → holds after.state)
    {recording : Nat} (ran : process.run actions = some last)
    (initial : ∃ state, process.recordings[recording]? = some state ∧ holds state) :
    ∃ state, last.recordings[recording]? = some state ∧ holds state := by
  refine run_invariant
    (fun later => ∃ state, later.recordings[recording]? = some state ∧ holds state) ?_ ran initial
  rintro before next step ⟨state, located, held⟩
  have inside := (List.getElem?_eq_some_iff.mp located).1
  cases step with
  | create => exact ⟨state, by rw [List.getElem?_append_left inside, located], held⟩
  | move other moved after there step =>
      by_cases same : other = recording
      · subst same
        obtain rfl := Option.some.inj (there.symm.trans located)
        exact ⟨after.state, List.getElem?_set_self inside, kept _ _ step held⟩
      · exact ⟨state, by rw [put, List.getElem?_set_ne same, located], held⟩

/-- A constructor was called. -/
def called (process : RecordingProcess) (place : Nat) (byteLimit recordLimit : UInt64) :
    RecordingProcess :=
  { process with recordings := process.recordings ++ [{ status := place, byteLimit, recordLimit }] }

section Construction
variable {place : Nat} {byteLimit recordLimit : UInt64}

theorem called_located : (process.called place byteLimit recordLimit).recordings[process.recordings.length]? =
    some { status := place, byteLimit, recordLimit } := List.getElem?_concat_length

theorem constructed_located (view : RecordingView) :
    ((process.called place byteLimit recordLimit).put process.recordings.length view).recordings[
      process.recordings.length]? = some view.state :=
  List.getElem?_set_self (List.getElem?_eq_some_iff.mp called_located).1

/-- After the call only the new recording moves. -/
theorem run_construction (valid : byteLimit ≠ 0 ∧ recordLimit ≠ 0) {moves : List RecordingMove}
    {view : RecordingView}
    (ran : (process.view { status := place, byteLimit, recordLimit }).moves moves = some view) :
    process.run (.create true (some place) byteLimit recordLimit ::
      moves.map (.move process.recordings.length)) =
        some ((process.called place byteLimit recordLimit).put process.recordings.length view) := by
  have create : process.next (.create true (some place) byteLimit recordLimit) =
      some (process.called place byteLimit recordLimit) := by
    change process.create true (some place) byteLimit recordLimit = _
    rw [RecordingProcess.create, if_neg (by simp [valid])]
    rfl
  exact Option.bind_eq_some_iff.mpr ⟨_, create, run_moves called_located ran⟩

end Construction

/-- A constructor that runs through, for the recording that comes next. -/
def construction (recording place : Nat) (byteLimit recordLimit : UInt64) : List ProcessAction :=
  [.create true (some place) byteLimit recordLimit, .move recording .construct,
    .move recording (.start true)]

/-- Where the slot is free, a recording gets a worker. -/
theorem construction_starts (free : process.writerBusy = false) (place : Nat)
    {byteLimit recordLimit : UInt64} (valid : byteLimit ≠ 0 ∧ recordLimit ≠ 0) :
    ∃ later created,
      process.run (construction process.recordings.length place byteLimit recordLimit) = some later ∧
      later.recordings[process.recordings.length]? = some created ∧ created.status = place ∧
      created.worker = .waiting ∧ later.statuses = process.statuses := by
  let fresh : RecordingState := { status := place, byteLimit, recordLimit }
  let started : RecordingState := { fresh with worker := .waiting, joinable := true, owner := .idle }
  have moves : (process.view fresh).moves [.construct, .start true] =
      some ⟨true, process.statuses place, started⟩ := by
    change (process.view fresh).construct >>= _ = _
    simp [RecordingView.construct, RecordingView.start, view, fresh, started, free, RecordingView.next]
  exact ⟨_, started, run_construction valid moves, constructed_located _, rfl, rfl,
    Function.update_eq_self place process.statuses⟩

/-- The verdicts of the recordings are final, and their workers share one slot. -/
structure Governed (process : RecordingProcess) : Prop where
  /-- No run takes a failure back or changes its reason. -/
  latched : ∀ actions last, process.run actions = some last → ∀ place,
    (process.statuses place).failure ≠ .none →
      (last.statuses place).failure = (process.statuses place).failure
  /-- A recording whose `close` timed out is never complete, whatever its worker still does. -/
  timedOut : ∀ (recording : Nat) (state : RecordingState) (late : RecordingProcess),
    process.recordings[recording]? = some state →
    process.next (.move recording .timeout) = some late → ∀ actions last,
      late.run actions = some last → (last.statuses state.status).complete = false
  results : ∀ state ∈ process.recordings,
    state.results.Pairwise fun newer older => older = false → newer = false
  exclusive : ∀ (first second : Nat) (one other : RecordingState),
    process.recordings[first]? = some one → process.recordings[second]? = some other →
      one.worker.usesSink = true → other.worker.usesSink = true → first = second
  /-- A recording constructed while the slot is held calls no sink and takes no record. -/
  refused : ∀ (recording : Nat) (state : RecordingState) (created : RecordingProcess),
    process.recordings[recording]? = some state →
    state.owner = .exchanging → (∃ holder ∈ process.recordings, holder.holdsSlot = true) →
      process.next (.move recording .construct) = some created → ∀ actions last,
        created.run actions = some last → ∃ later, last.recordings[recording]? = some later ∧
          later.sinkCalls = 0 ∧ later.accepted = 0 ∧
          ∀ submit ∈ later.submits, submit.stage = .entered ∨ submit.stage = .rejecting false
  slot : process.writerBusy = true ↔ ∃ holder ∈ process.recordings, holder.holdsSlot = true
  /-- A worker that left its sink can give up the slot, and a later recording is then active. -/
  freed : ∀ (recording : Nat) (state : RecordingState),
    process.recordings[recording]? = some state →
    state.worker = .cleaning ∨ state.worker = .releasing →
    ∃ (moves : List RecordingMove) (free : RecordingProcess),
      (∀ move ∈ moves, move = .work ∨ ∃ call, move = .advance call) ∧
      process.run (moves.map (.move recording)) = some free ∧ free.writerBusy = false ∧
      ∀ place byteLimit recordLimit, byteLimit ≠ 0 → recordLimit ≠ 0 →
        (free.statuses place).active = true → ∃ later created,
          free.run (construction free.recordings.length place byteLimit recordLimit) = some later ∧
          later.recordings[free.recordings.length]? = some created ∧ created.status = place ∧
          created.worker = .waiting ∧ (later.statuses place).active = true

section Governed

theorem timeout_fails {view after : RecordingView} (moved : view.timeout = some after) :
    after.status.failure ≠ .none := by
  unfold RecordingView.timeout at moved
  split at moved <;> cases moved
  exact fail_failure _ nofun

/-- After a timeout the status never becomes complete, whatever the late worker does. -/
theorem timedOut_incomplete {recording : Nat} {state : RecordingState} {late : RecordingProcess}
    (located : process.recordings[recording]? = some state)
    (moved : process.next (.move recording .timeout) = some late)
    (ran : late.run actions = some last) : (last.statuses state.status).complete = false := by
  change process.move recording .timeout = some late at moved
  rw [RecordingProcess.move, located] at moved
  obtain ⟨after, timeout, rfl⟩ := Option.map_eq_some_iff.mp moved
  have own : (process.put recording after).statuses state.status = after.status :=
    put_own (RecordingView.next_step timeout)
  have failed := (run_latched ran state.status).failed (by rw [own]; exact timeout_fails timeout)
  rw [complete, decide_eq_false failed, Bool.and_false]

/-- Two recordings that hold the slot are one. -/
theorem Slotted.unique (slotted : process.Slotted) {first second : Nat} {one other : RecordingState}
    (there : process.recordings[first]? = some one) (here : process.recordings[second]? = some other)
    (holds : one.holdsSlot = true) (held : other.holdsSlot = true) : first = second := by
  have single : total (fun state : RecordingState => state.holdsSlot.toNat) process.recordings ≤ 1 := by
    rw [slotted]
    exact Bool.toNat_le _
  exact place_unique single there (by rw [holds]; exact Nat.one_pos) here
    (by rw [held]; exact Nat.one_pos)

/-- The slot is taken exactly where a recording holds it. -/
theorem Slotted.holder (slotted : process.Slotted) :
    process.writerBusy = true ↔ ∃ holder ∈ process.recordings, holder.holdsSlot = true := by
  constructor
  · intro busy
    have positive : 0 < total (fun state : RecordingState => state.holdsSlot.toNat)
        process.recordings := by
      rw [slotted, busy]
      exact Nat.one_pos
    obtain ⟨place, holder, located, weight⟩ := exists_of_total_pos positive
    refine ⟨holder, List.mem_of_getElem? located, ?_⟩
    by_contra none
    rw [Bool.eq_false_of_not_eq_true none] at weight
    exact Nat.lt_irrefl _ weight
  · rintro ⟨holder, listed, holds⟩
    exact slotted.busy listed holds

/-- The exchange of a constructor that finds the slot taken. -/
theorem construct_refused {recording : Nat} {state : RecordingState} {created : RecordingProcess}
    (located : process.recordings[recording]? = some state) (owner : state.owner = .exchanging)
    (absent : state.worker = .absent) (busy : process.writerBusy = true)
    (moved : process.next (.move recording .construct) = some created) :
    ∃ refused, created.recordings[recording]? = some refused ∧ refused.Refused := by
  have inside := (List.getElem?_eq_some_iff.mp located).1
  change process.move recording .construct = some created at moved
  rw [RecordingProcess.move, located] at moved
  obtain ⟨after, exchange, rfl⟩ := Option.map_eq_some_iff.mp moved
  refine ⟨after.state, List.getElem?_set_self inside, ?_⟩
  change (process.view state).construct = some after at exchange
  simp only [RecordingView.construct, view, owner, busy, Option.some.injEq] at exchange
  subst exchange
  exact ⟨absent, by simp, by simp⟩

/-- The moves of one recording are moves of the process, so it can free the slot. -/
theorem freed_later {recording : Nat} {state : RecordingState} {moves : List RecordingMove}
    {after : RecordingView} (located : process.recordings[recording]? = some state)
    (ran : (process.view state).moves moves = some after) (slot : after.writerBusy = false) :
    ∃ free, process.run (moves.map (.move recording)) = some free ∧ free.writerBusy = false ∧
      ∀ place byteLimit recordLimit, byteLimit ≠ 0 → recordLimit ≠ 0 →
        (free.statuses place).active = true → ∃ later created,
          free.run (construction free.recordings.length place byteLimit recordLimit) = some later ∧
          later.recordings[free.recordings.length]? = some created ∧ created.status = place ∧
          created.worker = .waiting ∧ (later.statuses place).active = true := by
  refine ⟨process.put recording after, run_moves located ran, slot, ?_⟩
  intro place byteLimit recordLimit bytes records active
  have free : (process.put recording after).writerBusy = false := slot
  obtain ⟨later, created, started, there, own, waiting, same⟩ :=
    construction_starts free place ⟨bytes, records⟩
  exact ⟨later, created, started, there, own, waiting, by rw [same]; exact active⟩

end Governed

/-- A verdict on a recording is never reversed, and the writers of a process never pile up. -/
theorem recordings_governed (reached : process.Reached) : process.Governed := by
  obtain ⟨orderly, slotted⟩ := reached.orderly
  refine
    { latched := fun actions last ran place failed => (run_latched ran place).failure failed
      timedOut := fun recording state late located moved actions last ran =>
        timedOut_incomplete located moved ran
      results := fun state listed => (orderly state listed).ruled.results
      slot := slotted.holder
      exclusive := fun first second one other there here uses used => ?_
      refused := fun recording state created located owner held moved actions last ran => ?_
      freed := fun recording state located past => ?_ }
  · have holds {state : RecordingState} (uses : state.worker.usesSink = true) :
        state.holdsSlot = true := by
      rw [RecordingState.holdsSlot, WriterStage.active_of_usesSink uses, Bool.or_true]
    exact slotted.unique there here (holds uses) (holds used)
  · have young := (orderly state (List.mem_of_getElem? located)).young
    have busy := slotted.holder.mpr held
    obtain ⟨later, there, absent, _, _⟩ := run_located (fun _ _ => RecordingView.Step.refused) ran
      (construct_refused located owner (young (.inl owner)) busy moved)
    have final := (reached.move moved).run ran
    have barred := (final.orderly.1 later (List.mem_of_getElem? there)).barred absent
    exact ⟨later, there, barred.sinkCalls, barred.accepted, barred.submits⟩
  · have guarded := (orderly state (List.mem_of_getElem? located)).guarded
    have frees : (process.view state).Frees := by
      rcases past with cleaning | releasing
      · exact RecordingView.frees_cleaning guarded cleaning
      · exact RecordingView.frees_releasing releasing
    obtain ⟨moves, after, own, ran, slot⟩ := frees
    obtain ⟨free, run, empty, later⟩ := freed_later located ran slot
    exact ⟨moves, free, own, run, empty, later⟩

/-- A recording whose sink lasts in its first `write` while `close` waits. -/
def interruptedShutdown : List ProcessAction :=
  construction 0 0 33554432 1024 ++ submission 6 ++
    [.move 0 .work, .move 0 .work, .move 0 .close, .move 0 .proceed]

/-- The recording is destroyed, a second one is refused, and then the sink of the first one returns. -/
def lateFinish : List ProcessAction :=
  [.move 0 .destroy, .move 0 .proceed, .move 0 .proceed, .create true (some 1) 33554432 1024] ++
    List.replicate 3 (.move 1 .construct) ++ [.move 1 .destroy] ++ List.replicate 3 (.move 1 .proceed) ++
    [.move 0 (.write true)] ++ List.replicate 3 (.move 0 .work) ++ [.move 0 (.finish .done)] ++
    List.replicate 3 (.move 0 .work)

/-- The late worker finishes and gives up the slot, and its recording stays incomplete. -/
theorem recordings_governed_late :
    ∃ process late last, run {} interruptedShutdown = some process ∧
      process.next (.move 0 .timeout) = some late ∧ late.run lateFinish = some last ∧
      last.writerBusy = false ∧ (last.statuses 0).finished = true ∧
      (last.statuses 0).complete = false := by
  obtain ⟨process, ran⟩ : ∃ process, run {} interruptedShutdown = some process :=
    Option.isSome_iff_exists.mp (by decide +kernel)
  have look : (run {} (interruptedShutdown ++ .move 0 .timeout :: lateFinish)).map (fun last =>
      (last.writerBusy, (last.statuses 0).finished)) = some (false, true) := by decide +kernel
  have place : (run {} interruptedShutdown).map (fun process =>
      process.recordings.map fun state => state.status) = some [0] := by decide +kernel
  obtain ⟨last, whole, seen⟩ := Option.map_eq_some_iff.mp look
  rw [run, List.foldlM_append] at whole
  obtain ⟨middle, first, whole⟩ := Option.bind_eq_some_iff.mp whole
  obtain rfl := Option.some.inj (first.symm.trans ran)
  obtain ⟨late, timeout, rest⟩ := Option.bind_eq_some_iff.mp whole
  rw [ran] at place
  obtain ⟨state, single, own⟩ := List.map_eq_singleton_iff.mp (Option.some.inj place)
  have located : middle.recordings[0]? = some state := by rw [single]; rfl
  have incomplete := (recordings_governed ⟨interruptedShutdown, ran⟩).timedOut 0 state late located
    timeout lateFinish last rest
  rw [own] at incomplete
  have facts := Prod.mk.inj seen
  exact ⟨middle, late, last, ran, timeout, rest, facts.1, facts.2, incomplete⟩

end RecordingProcess
end Vio
