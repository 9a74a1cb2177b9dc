import Vio.Proof.Process.Runs

namespace Vio
open Tally

/-- The worker runs and has not given up the slot. -/
def WriterStage.active : WriterStage → Bool
  | .absent | .ended => false
  | _ => true

/-- The worker is inside a call of its sink. -/
def WriterStage.usesSink : WriterStage → Bool
  | .writing _ | .finishing | .destroying => true
  | _ => false

theorem WriterStage.active_of_usesSink {stage : WriterStage} (uses : stage.usesSink = true) :
    stage.active = true := by
  cases stage <;> first | rfl | cases uses

/-- The constructor or the worker of the recording holds the slot. -/
def RecordingState.holdsSlot (state : RecordingState) : Bool :=
  state.owner = .starting || state.worker.active

namespace RecordingView
variable {view after : RecordingView}

open RecordingState

theorem Turns.active {before stage : WriterStage} (turns : view.Turns before stage) :
    before.active = true ∧ stage.active = true := by
  cases turns <;> exact ⟨rfl, rfl⟩

/-- A move of the owner neither enters nor leaves the constructor. -/
theorem Passes.constructed {before stage : OwnerStage} (passes : view.Passes before stage) :
    before ≠ .starting ∧ stage ≠ .starting ∧ stage ≠ .exchanging ∧ stage ≠ .gone := by
  cases passes <;> simp

/-- The slot changes with its holder. -/
def Swaps (view after : RecordingView) : Prop :=
  after.state.holdsSlot.toNat + view.writerBusy.toNat =
    view.state.holdsSlot.toNat + after.writerBusy.toNat

theorem swaps_same (slot : after.writerBusy = view.writerBusy)
    (holds : after.state.holdsSlot = view.state.holdsSlot) : view.Swaps after := by
  rw [Swaps, slot, holds]

/-- A worker that stays active keeps the slot. -/
theorem swaps_worker {before : WriterStage} (slot : after.writerBusy = view.writerBusy)
    (worker : view.state.worker = before) (old : before.active = true)
    (new : after.state.worker.active = true) : view.Swaps after :=
  swaps_same slot (by rw [holdsSlot, holdsSlot, worker, old, new, Bool.or_true, Bool.or_true])

/-- An owner outside the constructor leaves the slot alone. -/
theorem swaps_owner (slot : after.writerBusy = view.writerBusy)
    (worker : after.state.worker = view.state.worker) (old : view.state.owner ≠ .starting)
    (new : after.state.owner ≠ .starting) : view.Swaps after :=
  swaps_same slot (by simp [holdsSlot, worker, old, new])

/-- After `close` the owner is idle, or gone with its recording. -/
theorem closed_constructed (view : RecordingView) (result : Bool) :
    (view.closed result).state.owner = .gone ∨ (view.closed result).state.owner = .idle := by
  unfold closed
  cases view.state.dying with
  | true => exact .inl rfl
  | false => exact .inr rfl

theorem closed_past (view : RecordingView) (result : Bool) :
    (view.closed result).state.owner ≠ .exchanging ∧
      (view.closed result).state.owner ≠ .starting := by
  rcases closed_constructed view result with owner | owner <;> rw [owner] <;> exact ⟨nofun, nofun⟩

/-- A step takes or frees the slot together with its holder. -/
theorem Step.swaps (step : view.Step after) (young : view.state.Young)
    (held : view.state.holdsSlot = true → view.writerBusy = true) : view.Swaps after := by
  cases step with
  | exchange owner =>
      have absent := young (.inl owner)
      cases busy : view.writerBusy <;>
        simp [Swaps, holdsSlot, owner, absent, busy, WriterStage.active]
  | refuse owner => exact swaps_owner rfl rfl (by simp [owner]) (by simp)
  | mark owner => exact swaps_owner rfl rfl (by simp [owner]) (by simp)
  | started owner => exact swaps_same rfl (by simp [holdsSlot, owner, WriterStage.active])
  | unstarted owner =>
      have busy := held (by simp [holdsSlot, owner])
      simp [Swaps, holdsSlot, owner, busy, young (.inr owner), WriterStage.active]
  | take record rest worker | enterWrite record worker | count record worker | giveUp record worker
  | enterFinish worker | abandon worker | clean worker => exact swaps_worker rfl worker rfl rfl
  | turn before after worker turns => exact swaps_worker rfl worker turns.active.1 turns.active.2
  | release worker =>
      have started : view.state.owner ≠ .starting := fun owner => by
        rw [young (.inr owner)] at worker
        cases worker
      have busy := held (by simp [holdsSlot, worker, WriterStage.active])
      simp [Swaps, holdsSlot, toWorker, started, busy, worker, WriterStage.active]
  | pass before after owner passes =>
      exact swaps_owner rfl rfl (by rw [owner]; exact passes.constructed.1) passes.constructed.2.1
  | destroy owner | shut owner | join owner => exact swaps_owner rfl rfl (by simp [owner]) (by simp)
  | timeout owner | readRunning owner | decide owner =>
      exact swaps_owner rfl rfl (by simp [owner]) (closed_past _ _).2
  | begin | check | subtract | lock | accept | overflow | reject | access | blame =>
      exact swaps_same rfl rfl

end RecordingView

namespace RecordingProcess
variable {process next : RecordingProcess}

/-- The slot is taken where one recording holds it. -/
def Slotted (process : RecordingProcess) : Prop :=
  total (fun state => state.holdsSlot.toNat) process.recordings = process.writerBusy.toNat

/-- The slot of a holder is taken. -/
theorem Slotted.busy (slotted : process.Slotted) {state : RecordingState}
    (listed : state ∈ process.recordings) (holds : state.holdsSlot = true) :
    process.writerBusy = true := by
  have weight := le_total (fun state : RecordingState => state.holdsSlot.toNat) listed
  rw [slotted, holds] at weight
  cases busy : process.writerBusy with
  | true => rfl
  | false =>
      rw [busy] at weight
      cases weight

/-- Each transition of the process keeps the slot with one holder. -/
theorem Slotted.step (step : process.Step next) (young : ∀ state ∈ process.recordings, state.Young)
    (slotted : process.Slotted) : next.Slotted := by
  cases step with
  | create status byteLimit recordLimit =>
      rw [Slotted, total_append, slotted]
      rfl
  | move recording state after located step =>
      have listed := List.mem_of_getElem? located
      have swaps := step.swaps (young state listed) (slotted.busy listed)
      have moved : total (fun state : RecordingState => state.holdsSlot.toNat)
            (process.recordings.set recording after.state) + state.holdsSlot.toNat =
          total (fun state : RecordingState => state.holdsSlot.toNat) process.recordings +
            after.state.holdsSlot.toNat := total_set located after.state
      change after.state.holdsSlot.toNat + process.writerBusy.toNat =
        state.holdsSlot.toNat + after.writerBusy.toNat at swaps
      rw [slotted] at moved
      change total _ (process.recordings.set recording after.state) = after.writerBusy.toNat
      omega

end RecordingProcess
end Vio
