import Vio.Library.PartialRun
import Vio.Library.Tally
import Vio.Proof.Process.Moves
import Vio.Proof.Recording.Delivery

namespace Vio
open Tally

/-- A failure and the end are final. -/
structure RecordingStatus.Latched (before after : RecordingStatus) : Prop where
  failure : before.failure ≠ .none → after.failure = before.failure
  finished : before.finished = true → after.finished = true

namespace RecordingStatus
variable {before middle after : RecordingStatus}

theorem Latched.refl (status : RecordingStatus) : Latched status status := ⟨fun _ => rfl, id⟩

theorem Latched.trans (first : Latched before middle) (second : Latched middle after) :
    Latched before after where
  failure failed := by
    rw [second.failure (by rw [first.failure failed]; exact failed), first.failure failed]
  finished ended := second.finished (first.finished ended)

theorem Latched.failed (latched : Latched before after) (failed : before.failure ≠ .none) :
    after.failure ≠ .none := by
  rw [latched.failure failed]
  exact failed

theorem latched_fail (status : RecordingStatus) (reason : RecordingFailure) :
    Latched status (status.fail reason) where
  failure failed := by rw [fail_kept status reason failed]
  finished ended := by rwa [fail_finished]

end RecordingStatus

namespace RecordingView
variable {view after : RecordingView}

open RecordingStatus

theorem Step.latched (step : view.Step after) : Latched view.status after.status := by
  cases step with
  | refuse | overflow | giveUp | abandon | blame | timeout => exact latched_fail _ _
  | mark | clean => exact ⟨fun _ => rfl, fun _ => rfl⟩
  | exchange | started | unstarted | begin | check | subtract | lock | accept | reject | take | turn
  | enterWrite | enterFinish | count | release | access | pass | destroy | shut | join | readRunning
  | decide => exact ⟨fun _ => rfl, id⟩

/-- A recording keeps its status and its limits. -/
structure Owned (view after : RecordingView) : Prop where
  status : after.state.status = view.state.status
  byteLimit : after.state.byteLimit = view.state.byteLimit
  recordLimit : after.state.recordLimit = view.state.recordLimit

theorem Step.owned (step : view.Step after) : view.Owned after := by
  cases step <;> exact ⟨rfl, rfl, rfl⟩

end RecordingView

/-- The last cleanup is over. -/
def WriterStage.Cleaned : WriterStage → Prop
  | .releasing | .ended => True
  | _ => False

theorem RecordingView.Turns.uncleaned {view : RecordingView} {before stage : WriterStage}
    (turns : view.Turns before stage) : ¬ before.Cleaned ∧ ¬ stage.Cleaned := by
  cases turns <;> exact ⟨id, id⟩

/-- The constructor has no thread yet. -/
def RecordingState.Young (state : RecordingState) : Prop :=
  state.owner = .exchanging ∨ state.owner = .starting → state.worker = .absent

namespace RecordingView
variable {view after : RecordingView}

/-- Before the start no thread does anything. -/
theorem Step.young (step : view.Step after) (young : view.state.Young) : after.state.Young := by
  -- A worker that moves was started.
  have started {before : WriterStage} (worker : view.state.worker = before) (there : before ≠ .absent)
      (early : view.state.owner = .exchanging ∨ view.state.owner = .starting) : False :=
    there (worker.symm.trans (young early))
  intro early
  cases step with
  | turn before after worker turns =>
      cases turns <;> exact absurd early (started worker nofun)
  | take record rest worker | enterWrite record worker | enterFinish worker | count record worker
  | giveUp record worker | abandon worker | clean worker | release worker =>
      exact absurd early (started worker nofun)
  | exchange owner => exact young (.inl owner)
  | begin | check | subtract | lock | accept | overflow | reject | access | blame =>
      exact young early
  | pass before after owner passes => cases passes <;> simp [toOwner] at early
  | refuse | mark | started | unstarted | destroy | shut | join => simp at early
  | timeout | readRunning | decide =>
      simp only [closed] at early
      split at early <;> simp at early

end RecordingView

namespace RecordingProcess
open RecordingStatus
variable {process next last : RecordingProcess} {action : ProcessAction}
  {actions : List ProcessAction}

/-- What one transition of the process can do. -/
inductive Step (process : RecordingProcess) : RecordingProcess → Prop
  | create (status : Nat) (byteLimit recordLimit : UInt64) :
      Step process
        { process with
          recordings := process.recordings ++ [{ status, byteLimit, recordLimit }] }
  | move (recording : Nat) (state : RecordingState) (after : RecordingView)
      (located : process.recordings[recording]? = some state) (step : (process.view state).Step after) :
      Step process (process.put recording after)

/-- Every transition of the process is one of the listed steps. -/
theorem next_step (moved : process.next action = some next) : process.Step next := by
  cases action with
  | create sink status byteLimit recordLimit =>
      change process.create sink status byteLimit recordLimit = some next at moved
      unfold create at moved
      split at moved
      · cases moved
      · split at moved <;> cases moved
        exact .create _ byteLimit recordLimit
  | move recording move =>
      change process.move recording move = some next at moved
      unfold RecordingProcess.move at moved
      split at moved
      · cases moved
      · rename_i state located
        obtain ⟨after, step, rfl⟩ := Option.map_eq_some_iff.mp moved
        exact .move recording state after located (RecordingView.next_step step)

/-- A property that every transition keeps holds at the end of a run. -/
theorem run_invariant (holds : RecordingProcess → Prop)
    (kept : ∀ process next : RecordingProcess, process.Step next → holds process → holds next)
    (ran : process.run actions = some last) (initial : holds process) : holds last :=
  PartialRun.invariant holds (fun _ _ _ moved => kept _ _ (next_step moved)) ran initial

section Put
variable {recording place : Nat} {state : RecordingState} {after : RecordingView}

/-- A transition changes the status of its own recording. -/
theorem put_own (step : (process.view state).Step after) :
    (process.put recording after).statuses state.status = after.status := by
  have own : after.state.status = state.status := step.owned.status
  change Function.update process.statuses after.state.status after.status state.status = _
  rw [own, Function.update_self]

theorem put_other (step : (process.view state).Step after) (other : place ≠ state.status) :
    (process.put recording after).statuses place = process.statuses place := by
  have own : after.state.status = state.status := step.owned.status
  change Function.update process.statuses after.state.status after.status place = _
  rw [own, Function.update_of_ne other]

/-- A transition of one recording latches every status. -/
theorem put_latched (step : (process.view state).Step after) (place : Nat) :
    Latched (process.statuses place) ((process.put recording after).statuses place) := by
  by_cases own : place = state.status
  · subst own
    rw [put_own step]
    exact step.latched
  · rw [put_other step own]
    exact .refl _

end Put

theorem Step.latched (step : process.Step next) (status : Nat) :
    Latched (process.statuses status) (next.statuses status) := by
  cases step with
  | create => exact .refl _
  | move recording state after located step => exact put_latched step status

/-- A law about each recording and its status. -/
def Each (holds : RecordingStatus → RecordingState → Prop) (process : RecordingProcess) : Prop :=
  ∀ state ∈ process.recordings, holds (process.statuses state.status) state

variable {holds : RecordingStatus → RecordingState → Prop}

/-- A law that new recordings and single steps keep holds of all recordings. -/
theorem Each.step (fresh : ∀ status place byteLimit recordLimit,
      holds status { status := place, byteLimit, recordLimit })
    (latch : ∀ before after state, Latched before after → holds before state → holds after state)
    (stepped : ∀ view after : RecordingView, view.Step after → holds view.status view.state →
      holds after.status after.state)
    (step : process.Step next) (each : process.Each holds) : next.Each holds := by
  cases step with
  | create status byteLimit recordLimit =>
      intro state listed
      rcases List.mem_append.mp listed with old | new
      · exact each state old
      · obtain rfl := List.mem_singleton.mp new
        exact fresh _ _ _ _
  | move recording state after located step =>
      refine forall_mem_set (fun other listed => latch _ _ _ (put_latched step _) (each other listed)) ?_
      have own : after.state.status = state.status := step.owned.status
      have status : (process.put recording after).statuses state.status = after.status := put_own step
      rw [own, status]
      exact stepped _ _ step (each state (List.mem_of_getElem? located))

end RecordingProcess
end Vio
