import Vio.Proof.Process.Slot

namespace Vio
open RecordingStatus Tally

/-- The constructor is over, and the recording exists. -/
def OwnerStage.Present : OwnerStage → Prop
  | .idle | .entered | .waiting | .joining | .reading | .deciding => True
  | _ => False

/-- What the status says about a recording. -/
structure RecordingState.Ruled (status : RecordingStatus) (state : RecordingState) : Prop where
  marking : state.owner = .marking → status.failure ≠ .none
  worker : state.worker.Cleaned → status.finished = true
  unjoinable : state.owner.Present → state.joinable = false →
    status.finished = true ∨ status.failure ≠ .none
  reading : state.owner = .reading ∨ state.owner = .deciding → state.joinable = false
  overruled : false ∈ state.results → status.failure ≠ .none
  results : state.results.Pairwise fun newer older => older = false → newer = false

/-- What holds of a recording without a worker. -/
structure RecordingState.Barred (status : RecordingStatus) (state : RecordingState) : Prop where
  sinkCalls : state.sinkCalls = 0
  accepted : state.accepted = 0
  queue : state.queue = []
  submits : ∀ submit ∈ state.submits, submit.stage = .entered ∨ submit.stage = .rejecting false
  failed : state.owner.Present ∨ state.owner = .marking ∨ state.submits ≠ [] →
    status.failure ≠ .none

namespace RecordingState
variable {view : RecordingView}

open RecordingView

/-- A verdict stays true where failures and the end stay. -/
theorem Ruled.latch {before after : RecordingStatus} {state : RecordingState}
    (latched : Latched before after) (ruled : state.Ruled before) : state.Ruled after where
  marking owner := latched.failed (ruled.marking owner)
  worker ended := latched.finished (ruled.worker ended)
  unjoinable present joined :=
    (ruled.unjoinable present joined).imp latched.finished latched.failed
  reading := ruled.reading
  overruled refused := latched.failed (ruled.overruled refused)
  results := ruled.results

/-- `close` returns a result that its status bears out. -/
theorem Ruled.closed (view : RecordingView) {result : Bool} (ruled : view.state.Ruled view.status)
    (settled : view.status.finished = true ∨ view.status.failure ≠ .none)
    (good : result = true → view.status.failure = .none)
    (bad : result = false → view.status.failure ≠ .none) :
    (view.closed result).state.Ruled view.status := by
  have returned (stage : OwnerStage) (owner : (view.closed result).state.owner = stage) :
      stage = .gone ∨ stage = .idle := owner ▸ closed_constructed view result
  refine { worker := ruled.worker, unjoinable := fun _ _ => settled, marking := fun marking => ?_,
           reading := fun reading => ?_, overruled := fun refused => ?_, results := ?_ }
  · rcases returned _ marking with same | same <;> cases same
  · rcases reading with reading | deciding
    · rcases returned _ reading with same | same <;> cases same
    · rcases returned _ deciding with same | same <;> cases same
  · rcases List.mem_cons.mp refused with now | earlier
    · exact bad now.symm
    · exact ruled.overruled earlier
  · refine List.pairwise_cons.mpr ⟨fun older listed overruled => ?_, ruled.results⟩
    subst overruled
    by_contra accepted
    exact ruled.overruled listed (good (Bool.eq_true_of_not_eq_false accepted))

theorem Barred.latch {before after : RecordingStatus} {state : RecordingState}
    (latched : Latched before after) (barred : state.Barred before) : state.Barred after :=
  { barred with failed := fun cause => latched.failed (barred.failed cause) }

/-- A recording without a worker admits no call. -/
theorem Barred.stage {call : Nat} {record : RecordingRecord} {stage : SubmitStage}
    (barred : view.state.Barred view.status)
    (current : view.state.submits[call]? = some ⟨record, stage⟩) :
    view.status.failure ≠ .none ∧ (stage = .entered ∨ stage = .rejecting false) := by
  have listed := List.mem_of_getElem? current
  exact ⟨barred.failed (.inr (.inr (List.ne_nil_of_mem listed))), barred.submits _ listed⟩

end RecordingState

namespace RecordingView
variable {view after : RecordingView}

open RecordingState

theorem present_of_usable (usable : view.usable = true) : view.state.owner.Present := by
  have constructed := Bool.and_eq_true_iff.mp usable
  revert constructed
  cases view.state.owner <;> simp [OwnerStage.Present]

theorem Passes.present {before stage : OwnerStage} (passes : view.Passes before stage) :
    before.Present ∧ stage ≠ .marking := by
  cases passes <;> exact ⟨trivial, nofun⟩

/-- Each step leaves a status that says what became of the recording. -/
theorem Step.ruled (step : view.Step after) (ruled : view.state.Ruled view.status) :
    after.state.Ruled after.status := by
  have kept := Ruled.latch step.latched ruled
  cases step with
  | exchange owner =>
      have outside {stage : OwnerStage} (none : stage ≠ .refused ∧ stage ≠ .starting) :
          (if view.writerBusy then OwnerStage.refused else .starting) ≠ stage := by
        split
        · exact none.1.symm
        · exact none.2.symm
      refine { kept with marking := fun marking => ?_, unjoinable := fun present => ?_,
                         reading := fun reading => ?_ }
      · exact absurd marking (outside (by simp))
      · change OwnerStage.Present (if view.writerBusy then .refused else .starting) at present
        split at present <;> exact present.elim
      · rcases reading with reading | deciding
        · exact absurd reading (outside (by simp))
        · exact absurd deciding (outside (by simp))
  | refuse owner =>
      exact { kept with
        marking := fun _ => fail_failure _ nofun
        unjoinable := fun present => present.elim
        reading := nofun }
  | mark owner =>
      exact { kept with
        worker := fun _ => rfl
        unjoinable := fun _ _ => .inl rfl
        marking := nofun
        reading := nofun }
  | started owner =>
      exact { kept with worker := nofun, unjoinable := nofun, marking := nofun, reading := nofun }
  | unstarted owner =>
      exact { kept with unjoinable := fun present => present.elim, marking := nofun, reading := nofun }
  | turn before after worker turns =>
      exact { kept with worker := fun cleaned => absurd cleaned turns.uncleaned.2 }
  | take | enterWrite | enterFinish | count | giveUp | abandon => exact { kept with worker := nofun }
  | clean worker => exact { kept with worker := fun _ => rfl }
  | release worker =>
      exact { kept with worker := fun _ => ruled.worker (by rw [worker]; trivial) }
  | pass before after owner passes =>
      have present : view.state.owner.Present := by
        rw [owner]
        exact passes.present.1
      refine { kept with unjoinable := fun _ => kept.unjoinable present, reading := fun reading => ?_,
                         marking := fun marking => absurd marking passes.present.2 }
      cases passes with
      | close | awake => rcases reading with same | same <;> cases same
      | unjoinable joinable => exact joinable
      | finished => exact kept.reading (.inl owner)
  | destroy owner =>
      have present : view.state.owner.Present := by rw [owner]; trivial
      exact { kept with
        unjoinable := fun _ => kept.unjoinable present, marking := nofun, reading := nofun }
  | shut owner joinable =>
      exact { kept with
        unjoinable := fun _ unjoinable => nomatch joinable.symm.trans unjoinable
        marking := nofun
        reading := nofun }
  | timeout owner running =>
      have failed : (view.status.fail .shutdownTimeout).failure ≠ .none := fail_failure _ nofun
      refine Ruled.closed { view.fail .shutdownTimeout with
        state := { view.state with joinable := false } } ?_ (.inr failed) nofun fun _ => failed
      exact { kept with unjoinable := fun _ _ => .inr failed, reading := fun _ => rfl }
  | join owner ended =>
      have finished := ruled.worker (by rw [ended]; trivial)
      exact { kept with unjoinable := fun _ _ => .inl finished, marking := nofun, reading := fun _ => rfl }
  | readRunning owner running =>
      have settled := ruled.unjoinable (by rw [owner]; trivial) (ruled.reading (.inl owner))
      have failed := settled.resolve_left (by rw [running]; exact Bool.false_ne_true)
      exact Ruled.closed view ruled settled nofun fun _ => failed
  | decide owner =>
      have settled := ruled.unjoinable (by rw [owner]; trivial) (ruled.reading (.inr owner))
      exact Ruled.closed view ruled settled of_decide_eq_true of_decide_eq_false
  | begin | check | subtract | lock | accept | overflow | reject | access | blame =>
      exact { kept with }

/-- A recording that comes to have no worker is barred from its sink. -/
theorem Step.barred (step : view.Step after)
    (barred : view.state.worker = .absent → view.state.Barred view.status)
    (absent : after.state.worker = .absent) : after.state.Barred after.status := by
  have latched := step.latched
  -- A transition of the owner while the recording exists.
  have owned (same : view.state.worker = .absent) (present : view.state.owner.Present) :
      after.status.failure ≠ .none := latched.failed ((barred same).failed (.inl present))
  cases step with
  | exchange owner =>
      refine { barred absent with failed := fun cause => (barred absent).failed ?_ }
      rcases cause with present | marking | calls
      · change OwnerStage.Present (if view.writerBusy then .refused else .starting) at present
        split at present <;> exact present.elim
      · change (if view.writerBusy then OwnerStage.refused else .starting) = .marking at marking
        split at marking <;> cases marking
      · exact .inr (.inr calls)
  | refuse owner =>
      exact { barred absent with failed := fun _ => fail_failure _ nofun }
  | mark owner =>
      exact { barred absent with failed := fun _ => (barred absent).failed (.inr (.inl owner)) }
  | unstarted owner =>
      refine { barred absent with failed := fun cause => (barred absent).failed ?_ }
      rcases cause with present | marking | calls
      · exact present.elim
      · cases marking
      · exact .inr (.inr calls)
  | begin record usable =>
      have failed := (barred absent).failed (.inl (present_of_usable usable))
      refine { barred absent with failed := fun _ => failed, submits := fun submit listed => ?_ }
      rcases List.mem_append.mp listed with old | new
      · exact (barred absent).submits submit old
      · obtain rfl := List.mem_singleton.mp new
        exact .inl rfl
  | check call record before stage current checked =>
      have known := barred absent
      obtain ⟨failed, early⟩ := known.stage current
      refine { known with failed := fun _ => failed, submits := forall_mem_set known.submits ?_ }
      cases checked with
      | failed => exact .inr rfl
      | healthy healthy => exact absurd healthy failed
      | ended | active | failedInside | healthyInside | endedInside | full =>
          rcases early with same | same <;> cases same
  | reject call record locked current =>
      have known := barred absent
      exact { known with
        failed := fun _ => (known.stage current).1
        submits := fun submit listed => known.submits submit (List.mem_of_mem_eraseIdx listed) }
  | subtract call record before stage made current subtracted =>
      obtain ⟨_, same | same⟩ := (barred absent).stage current <;> subst same <;> cases subtracted
  | lock call record bytes current | accept call record bytes current =>
      obtain ⟨_, same | same⟩ := (barred absent).stage current <;> cases same
  | overflow call record locked current =>
      obtain ⟨_, same | same⟩ := (barred absent).stage current <;> cases same
  | turn before after worker turns =>
      have active := turns.active.2
      rw [show after = .absent from absent] at active
      cases active
  | started | take | enterWrite | enterFinish | count | giveUp | abandon | clean | release =>
      cases absent
  | pass before after owner passes =>
      have failed := owned absent (by rw [owner]; exact passes.present.1)
      exact { barred absent with failed := fun _ => failed }
  | destroy owner | shut owner | join owner =>
      have failed := owned absent (by rw [owner]; trivial)
      exact { barred absent with failed := fun _ => failed }
  | timeout owner | readRunning owner | decide owner =>
      have failed := owned absent (by rw [owner]; trivial)
      exact { barred absent with failed := fun _ => failed }
  | access | blame => exact Barred.latch latched (barred absent)

end RecordingView
end Vio
