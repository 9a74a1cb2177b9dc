import Mathlib
import Vio.Proof.Lifecycle.RecordingCalls

namespace Vio

def RecordingStream.all : List RecordingStream :=
  [.accel, .gyro, .camera, .estimate, .features, .count]

theorem RecordingStream.mem_all (stream : RecordingStream) : stream ∈ all := by
  cases stream <;> decide

/-- The stages of a call that has the mutex. -/
def SubmitStage.Locked : SubmitStage → Prop
  | .inside _ | .insideHealthy _ | .overflowing true | .rejecting true => True
  | _ => False

/-- The accesses that are left of a call of `submit`. -/
def SubmitStage.left : SubmitStage → Nat
  | .entered => 8
  | .healthy => 7
  | .measuring => 6
  | .locking _ => 5
  | .inside _ => 4
  | .insideHealthy _ => 3
  | .overflowing _ => 2
  | .rejecting _ => 1

/-- A bound on the accesses of the writer up to its next call of the sink. -/
def WorkerStage.left : WorkerStage → Nat
  | .wrote _ => 8
  | .waiting | .failing => 7
  | .lingering => 6
  | .failingFinish => 5
  | .cleaning => 4
  | .releasing => 3
  | .absent | .holding _ | .finishing | .ended => 0

/-- The accesses that are left of a call of `close`. -/
def CloseStage.left : CloseStage → Nat
  | .entered => 5
  | .waiting => 4
  | .joining => 3
  | .reading => 2
  | .deciding => 1
  | .idle => 0

/-- The actions of a recording that wait for no storage and begin no call. -/
def RecordingAction.Onward {sink : RecordingSink} : RecordingAction sink → Prop
  | .advance _ | .work | .timeout | .proceed => True
  | .submit _ | .write _ | .finish _ | .close => False

namespace Recording
variable {sink : RecordingSink} {recording next : Recording sink}

def callLeft (recording : Recording sink) (stream : RecordingStream) : Nat :=
  (recording.submits stream).elim 0 fun submit => submit.stage.left

/-- A bound on the accesses without storage, where no call begins. -/
def effort (recording : Recording sink) : Nat :=
  (RecordingStream.all.map recording.callLeft).sum + recording.worker.left + recording.owner.left

/-- What the owner of the mutex, the writer and the caller of `close` know of each other. -/
structure Paced (recording : Recording sink) : Prop where
  held : ∀ stream, recording.holder = some stream →
    ∃ submit, recording.submits stream = some submit ∧ submit.stage.Locked
  attached : recording.joinable = true → recording.worker ≠ .absent
  waits : recording.owner = .waiting ∨ recording.owner = .joining → recording.joinable = true
  joins : recording.owner = .joining → recording.done = true

theorem Check.locked {record : RecordingRecord} {before after : SubmitStage}
    (checked : recording.Check record before after) (locked : before.Locked) : after.Locked := by
  cases checked with
  | failedInside | healthyInside | endedInside | full => trivial
  | failed | healthy | ended | active | large | measured => exact locked.elim

/-- A step keeps the places of the owner, the writer and the caller of `close` together. -/
theorem Paced.step (step : recording.Step next) (paced : recording.Paced) : next.Paced := by
  have moved {record : RecordingRecord} {submit : Option Submit}
      (still : recording.holder = some record.stream → ∃ after, submit = some after ∧ after.stage.Locked)
      (stream : RecordingStream) (holder : recording.holder = some stream) :
      ∃ after, Function.update recording.submits record.stream submit stream = some after ∧
        after.stage.Locked := by
    by_cases same : stream = record.stream
    · rw [same, Function.update_self]
      exact still (same ▸ holder)
    · rw [Function.update_of_ne same]
      exact paced.held stream holder
  have current {record : RecordingRecord} {before : SubmitStage}
      (here : recording.submits record.stream = some ⟨record, before⟩)
      (holder : recording.holder = some record.stream) : before.Locked := by
    obtain ⟨submit, there, locked⟩ := paced.held _ holder
    rw [here] at there
    cases there
    exact locked
  cases step with
  | begin record idle =>
      refine ⟨moved fun holder => ?_, paced.attached, paced.waits, paced.joins⟩
      obtain ⟨submit, there, _⟩ := paced.held _ holder
      rw [idle] at there
      cases there
  | check record before after here checked =>
      exact ⟨moved fun holder => ⟨_, rfl, checked.locked (current here holder)⟩, paced.attached,
        paced.waits, paced.joins⟩
  | lock record bytes here free =>
      refine ⟨?_, paced.attached, paced.waits, paced.joins⟩
      rintro _ ⟨⟩
      exact ⟨_, Function.update_self .., trivial⟩
  | overflow record locked here =>
      refine ⟨moved fun holder => ⟨_, rfl, ?_⟩, paced.attached, paced.waits, paced.joins⟩
      have inside := current here holder
      cases locked with
      | true => trivial
      | false => exact inside.elim
  | accept => exact ⟨nofun, paced.attached, paced.waits, paced.joins⟩
  | reject record locked here =>
      refine ⟨fun stream holder => ?_, paced.attached, paced.waits, paced.joins⟩
      cases locked with
      | true => cases holder
      | false => exact moved (fun holder => (current here holder).elim) stream holder
  | take | drain | count | giveUp | linger | finishDone | finishThrow | abandon | release =>
      exact ⟨paced.held, fun _ => nofun, paced.waits, paced.joins⟩
  | write env record =>
      refine ⟨paced.held, fun _ => ?_, paced.waits, paced.joins⟩
      dsimp only
      split <;> exact nofun
  | finishAccess | finishFail => exact ⟨paced.held, paced.attached, paced.waits, paced.joins⟩
  | clean => exact ⟨paced.held, fun _ => nofun, paced.waits, fun _ => rfl⟩
  | close owner => exact ⟨paced.held, paced.attached, nofun, nofun⟩
  | shut owner joinable => exact ⟨paced.held, paced.attached, fun _ => joinable, nofun⟩
  | detached owner joinable => exact ⟨paced.held, paced.attached, nofun, nofun⟩
  | timeout owner => exact ⟨paced.held, nofun, nofun, nofun⟩
  | awake owner done => exact ⟨paced.held, paced.attached, fun _ => paced.waits (.inl owner), fun _ => done⟩
  | join owner => exact ⟨paced.held, nofun, nofun, nofun⟩
  | readFinished | readRunning | decide => exact ⟨paced.held, paced.attached, nofun, nofun⟩

/-- In a new recording nobody holds the mutex. -/
theorem Fresh.paced (fresh : recording.Fresh)
    (attached : recording.joinable = true → recording.worker ≠ .absent)
    (free : recording.holder = none) : recording.Paced := by
  refine ⟨fun stream held => ?_, attached, fun waits => ?_, fun joins => ?_⟩
  · rw [free] at held
    cases held
  · rcases waits with waits | waits <;> rw [fresh.owner] at waits <;> cases waits
  · rw [fresh.owner] at joins
    cases joins

/-- A new recording has seven accesses to make at most. -/
theorem Fresh.effort (fresh : recording.Fresh) : recording.effort ≤ 7 := by
  have calls : recording.callLeft = fun _ => 0 := by
    funext stream
    rw [callLeft, fresh.submits]
    rfl
  unfold Recording.effort
  rw [calls, fresh.owner]
  rcases fresh.stage with ⟨waiting, _⟩ | ⟨absent, _⟩
  · rw [waiting]
    decide
  · rw [absent]
    decide

/-- The places go together in every reached state. -/
theorem Reached.paced {sinkState : sink.State} (reached : Reached sinkState recording) :
    recording.Paced := by
  obtain ⟨byteLimit, recordLimit, writerBusy, threads, slot, fresh, actions, created, ran⟩ := reached
  have new := (create_fresh created).1
  have initial : fresh.Paced := by
    unfold create at created
    dsimp only at created
    repeat' split at created
    all_goals cases created
    · exact new.paced nofun rfl
    · exact new.paced (fun _ => nofun) rfl
  exact (run_induction Paced new.sound initial
    (fun before after _ step paced => paced.step step) ran).2

section Effort

/-- A call of `submit` that gets ahead leaves less to do. -/
theorem effort_call {stream : RecordingStream} {before : Submit} {after : Option Submit}
    (current : recording.submits stream = some before)
    (less : (after.elim 0 fun submit => submit.stage.left) < before.stage.left)
    (submits : next.submits = Function.update recording.submits stream after)
    (worker : next.worker = recording.worker) (owner : next.owner = recording.owner) :
    next.effort < recording.effort := by
  have here : next.callLeft stream < recording.callLeft stream := by
    rw [callLeft, callLeft, submits, Function.update_self, current]
    exact less
  have calls : (RecordingStream.all.map next.callLeft).sum <
      (RecordingStream.all.map recording.callLeft).sum := by
    refine List.sum_lt_sum _ _ (fun other _ => ?_) ⟨stream, stream.mem_all, here⟩
    by_cases same : other = stream
    · rw [same]
      exact Nat.le_of_lt here
    · rw [callLeft, callLeft, submits, Function.update_of_ne same]
  unfold effort
  rw [worker, owner]
  omega

/-- An access of the writer or of the caller of `close`. -/
theorem effort_stages (submits : next.submits = recording.submits)
    (less : next.worker.left + next.owner.left < recording.worker.left + recording.owner.left) :
    next.effort < recording.effort := by
  have calls : next.callLeft = recording.callLeft := by
    funext stream
    rw [callLeft, callLeft, submits]
  unfold effort
  rw [calls]
  omega

/-- Each access of a call of `submit` leaves less to do. -/
theorem effort_advance (keyed : recording.Keyed) {stream : RecordingStream}
    (moved : recording.advance stream = some next) : next.effort < recording.effort := by
  unfold advance at moved
  split at moved
  · cases moved
  rename_i record stage current
  obtain rfl := keyed stream _ current
  cases stage <;> dsimp only at moved <;> repeat' split at moved
  all_goals cases moved
  all_goals exact effort_call current (by simp [SubmitStage.left]) rfl rfl rfl

/-- Each access of the writer leaves less to do. -/
theorem effort_work (moved : recording.work = some next) : next.effort < recording.effort := by
  have submits := work_submits moved
  unfold work at moved
  split at moved <;> rename_i worker
  all_goals repeat' split at moved
  all_goals cases moved
  all_goals exact effort_stages submits (by rw [worker]; simp [WorkerStage.left, fail])

/-- Each access of `close` leaves less to do. -/
theorem effort_proceed (moved : recording.proceed = some next) : next.effort < recording.effort := by
  have submits := proceed_submits moved
  unfold proceed at moved
  split at moved <;> rename_i owner
  all_goals repeat' split at moved
  all_goals cases moved
  all_goals exact effort_stages submits (by rw [owner]; simp [CloseStage.left, closed, Recording.record])

/-- A `close` that runs out of time returns, so less is left. -/
theorem effort_timeout (moved : recording.timeout = some next) : next.effort < recording.effort := by
  have submits := timeout_submits moved
  unfold timeout at moved
  split at moved <;> cases moved
  rename_i waiting
  refine effort_stages submits ?_
  rw [waiting.1]
  simp [CloseStage.left, closed, Recording.record, fail]

/-- Without storage and without new calls, each access leaves less to do. -/
theorem effort_onward (keyed : recording.Keyed) {action : RecordingAction sink}
    (onward : action.Onward) (moved : recording.next action = some next) :
    next.effort < recording.effort := by
  cases action with
  | advance stream => exact effort_advance keyed moved
  | work => exact effort_work moved
  | timeout => exact effort_timeout moved
  | proceed => exact effort_proceed moved
  | submit | write | finish | close => exact onward.elim

/-- A call of `close` adds its own five accesses. -/
theorem effort_close (moved : recording.close = some next) : next.effort = recording.effort + 5 := by
  unfold close at moved
  split at moved <;> cases moved
  rename_i idle
  unfold effort
  rw [idle]
  rfl

end Effort
section Progress

/-- A call goes on unless it waits for the mutex. -/
theorem advance_some {stream : RecordingStream} {submit : Submit}
    (busy : recording.submits stream = some submit)
    (free : (∃ bytes, submit.stage = .locking bytes) → recording.holder = none) :
    ∃ next, recording.advance stream = some next := by
  obtain ⟨record, stage⟩ := submit
  unfold advance
  rw [busy]
  cases stage with
  | locking bytes =>
      dsimp only
      rw [if_pos (free ⟨bytes, rfl⟩)]
      exact ⟨_, rfl⟩
  | entered | healthy | measuring | inside | insideHealthy | overflowing | rejecting =>
      dsimp only
      repeat' split
      all_goals exact ⟨_, rfl⟩

/-- Where a call of `submit` is in progress, one can go on: the one that has the mutex, if there is
one. -/
theorem Paced.calls (paced : recording.Paced) {stream : RecordingStream}
    (busy : recording.submits stream ≠ none) :
    ∃ other, recording.submits other ≠ none ∧ ∃ next, recording.advance other = some next := by
  cases held : recording.holder with
  | none =>
      obtain ⟨submit, here⟩ := Option.ne_none_iff_exists'.mp busy
      exact ⟨stream, busy, advance_some here fun _ => held⟩
  | some other =>
      obtain ⟨submit, here, locked⟩ := paced.held other held
      refine ⟨other, by rw [here]; exact nofun, advance_some here ?_⟩
      rintro ⟨bytes, waits⟩
      rw [waits] at locked
      exact locked.elim

/-- Where no call of `submit` is in progress, one of `close` goes on without storage. -/
theorem Paced.closes (paced : recording.Paced) (flow : recording.Flow)
    (idle : ∀ stream, recording.submits stream = none) (owner : recording.owner ≠ .idle) :
    (∃ next, recording.work = some next) ∨ (∃ next, recording.timeout = some next) ∨
      ∃ next, recording.proceed = some next := by
  have free : recording.holder = none := by
    cases held : recording.holder with
    | none => rfl
    | some stream =>
        obtain ⟨submit, here, _⟩ := paced.held stream held
        rw [idle stream] at here
        cases here
  have goes (returns : recording.proceed.isSome = true) : ∃ next, recording.proceed = some next :=
    Option.isSome_iff_exists.mp returns
  cases stage : recording.owner with
  | idle => exact absurd stage owner
  | entered =>
      refine .inr (.inr (goes ?_))
      by_cases joinable : recording.joinable = true
      · simp [proceed, stage, joinable, free]
      · simp [proceed, stage, joinable]
  | waiting =>
      cases done : recording.done with
      | true => exact .inr (.inr (goes (by simp [proceed, stage, free, done])))
      | false =>
          refine .inr (.inl (Option.isSome_iff_exists.mp ?_))
          simp [timeout, stage, free, done]
  | joining =>
      -- The writer is past its cleanup.
      rcases flow.ended (paced.joins stage) with absent | releasing | ended
      · exact absurd absent (paced.attached (paced.waits (.inr stage)))
      · exact .inl (Option.isSome_iff_exists.mp (by simp [work, releasing]))
      · exact .inr (.inr (goes (by simp [proceed, stage, ended])))
  | reading =>
      refine .inr (.inr (goes ?_))
      cases finished : recording.status.finished <;> simp [proceed, stage, finished]
  | deciding => exact .inr (.inr (goes (by simp [proceed, stage])))

end Progress
end Recording
end Vio
