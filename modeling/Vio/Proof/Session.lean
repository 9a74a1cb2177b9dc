import Mathlib.Tactic.Common
import Vio.Construction.FlightSession

namespace Vio
namespace FlightSession

theorem timeouts_positive (session : FlightSession) :
    0 < session.config.heartbeatTimeout ∧ 0 < session.config.alignmentTimeout ∧
      0 < session.config.progressTimeout ∧ 0 < session.config.maxEstimateAge := by
  have accepted := session.accepted
  unfold FlightSessionConfig.Accepted at accepted
  omega

theorem alignmentAttempts_bounds (session : FlightSession) :
    0 < session.config.alignmentAttempts ∧ session.config.alignmentAttempts ≤ 256 := by
  have accepted := session.accepted
  unfold FlightSessionConfig.Accepted at accepted
  omega

theorem controllerFresh_iff (session : FlightSession) (now : Int) :
    session.controllerFresh now = true ↔ ∃ last, session.heartbeatTime = some last ∧
      last ≤ now ∧ now - last < session.config.heartbeatTimeout := by
  unfold controllerFresh
  cases session.heartbeatTime <;> simp

theorem measurementFresh_iff (session : FlightSession) (now : Int) :
    session.measurementFresh now = true ↔ ∃ last, session.measurementTime = some last ∧
      last ≤ now ∧ now - last ≤ session.config.maxEstimateAge := by
  unfold measurementFresh
  cases session.measurementTime <;> simp

theorem canPublish_iff (session : FlightSession) (now : Int) :
    session.canPublish now = true ↔ session.generation ≠ none ∧ session.controllerFresh now = true ∧
      session.state ≠ .failed ∧ (session.state = .aligned ∨ session.armed = false) := by
  simp [canPublish, Option.isSome_iff_ne_none, and_assoc]

theorem alignmentDue_iff (session : FlightSession) (now : Int) :
    session.alignmentDue now = true ↔ session.state = .priming ∧ session.canPublish now = true ∧
      session.armed = false ∧ session.attempts < session.config.alignmentAttempts ∧
      session.nextRequestTime ≤ now ∧ session.measurementFresh now = true := by
  simp [alignmentDue, and_assoc]

/-- What a tick can do. -/
inductive Tick (session : FlightSession) (now : Int) : FlightSession → Prop
  | keep (quiet : session.generation = none ∨ session.state = .failed ∨
      session.controllerFresh now = true ∧ session.state ≠ .waitingForController ∧
        (session.state = .awaitingAlignment →
          now - session.requestTime < session.replyTimeout)) :
      Tick session now session
  | lose (known : session.generation ≠ none) (stale : session.controllerFresh now = false)
      (outstanding : session.state = .awaitingAlignment) : Tick session now session.fail
  | revoke (known : session.generation ≠ none) (stale : session.controllerFresh now = false)
      (aligned : session.state = .aligned) :
      Tick session now
        { session with attempts := 0, state := .waitingForController, measurementTime := none }
  | wait (known : session.generation ≠ none) (stale : session.controllerFresh now = false)
      (waiting : session.state = .waitingForController ∨ session.state = .priming) :
      Tick session now { session with state := .waitingForController, measurementTime := none }
  | prime (known : session.generation ≠ none) (fresh : session.controllerFresh now = true)
      (waiting : session.state = .waitingForController) :
      Tick session now { session with state := .priming }
  | expire (fresh : session.controllerFresh now = true)
      (outstanding : session.state = .awaitingAlignment)
      (late : session.replyTimeout ≤ now - session.requestTime) : Tick session now session.fail
  | retry (fresh : session.controllerFresh now = true)
      (outstanding : session.state = .awaitingAlignment)
      (late : session.config.alignmentTimeout ≤ now - session.requestTime)
      (left : session.attempts < session.config.alignmentAttempts) :
      Tick session now { session with state := .priming, nextRequestTime := now }

/-- A tick is one of the listed cases. -/
theorem tick_spec (session : FlightSession) (now : Int) : Tick session now (session.tick now) := by
  unfold tick
  split
  · rename_i quiet
    exact .keep (quiet.imp_right .inl)
  rename_i active
  rw [not_or] at active
  split
  · rename_i stale
    split
    · exact .lose active.1 stale ‹_›
    by_cases aligned : session.state = .aligned
    · simp only [aligned, if_true]
      exact .revoke active.1 stale aligned
    · simp only [aligned, if_false]
      refine .wait active.1 stale ?_
      cases state : session.state <;> simp_all
  rename_i fresh
  rw [Bool.not_eq_false] at fresh
  split
  · exact .prime active.1 fresh ‹_›
  split
  · rename_i late
    split
    · exact .expire fresh late.1 late.2
    · rename_i left
      rw [not_or, ge_iff_le, Nat.not_le] at left
      refine .retry fresh late.1 ?_ left.2
      have timeout : session.replyTimeout = session.config.alignmentTimeout := by
        simp [replyTimeout, left.1]
      omega
  · rename_i notWaiting timely
    refine .keep (.inr (.inr ⟨fresh, notWaiting, fun outstanding => ?_⟩))
    by_contra late
    exact timely ⟨outstanding, by omega⟩

/-- What the middle part of a heartbeat can do. -/
inductive Observe (session : FlightSession) (armed : Bool) (now : Int) : FlightSession → Prop
  | note (calm : session.state ≠ .awaitingAlignment ∨ armed = false) :
      Observe session armed now { session with heartbeatTime := some now, armed }
  | abort (outstanding : session.state = .awaitingAlignment) (arming : armed = true) :
      Observe session armed now { session with heartbeatTime := some now, armed }.fail

/-- A heartbeat is one of the listed cases. -/
theorem observe_spec (session : FlightSession) (armed : Bool) (now : Int) :
    Observe session armed now (session.observe armed now) := by
  unfold observe
  dsimp only
  split
  · rename_i arming
    exact .abort arming.1 arming.2
  · rename_i calm
    refine .note ?_
    by_cases outstanding : session.state = .awaitingAlignment
    · exact .inr (by simpa [outstanding] using calm)
    · exact .inl outstanding

/-- What the reply to an outstanding request can do. -/
inductive Reply (session : FlightSession) (result : AlignmentResult) (now : Int) :
    FlightSession → Prop
  | ignore : Reply session result now session
  | align (outstanding : session.state = .awaitingAlignment)
      (fresh : session.controllerFresh now = true) (disarmed : session.armed = false)
      (granted : result = .accepted) : Reply session result now { session with state := .aligned }
  | progress (outstanding : session.state = .awaitingAlignment) :
      Reply session result now { session with inProgress := true }
  | retry (outstanding : session.state = .awaitingAlignment)
      (left : session.attempts < session.config.alignmentAttempts) :
      Reply session result now
        { session with
          state := .priming
          nextRequestTime := now + session.config.alignmentTimeout }
  | refuse (outstanding : session.state = .awaitingAlignment) :
      Reply session result now session.fail

/-- A reply is one of the listed cases. -/
theorem reply_spec (session : FlightSession) (result : AlignmentResult) (now : Int) :
    Reply session result now (session.reply result now) := by
  unfold reply
  split
  · exact .ignore
  rename_i open_
  simp only [not_or, ne_eq, not_not, Bool.not_eq_false, Bool.not_eq_true] at open_
  cases result with
  | accepted => exact .align open_.1 open_.2.1 open_.2.2 rfl
  | inProgress => exact .progress open_.1
  | retry =>
      dsimp only
      split
      · exact .refuse open_.1
      · exact .retry open_.1 (Nat.lt_of_not_le ‹_›)
  | rejected => exact .refuse open_.1

/-- An accepted start advances the reset byte after the first session only. -/
theorem start_ok {session next : FlightSession} {generation : SessionGeneration}
    (allowed : session.start generation = .ok next) :
    session.state ≠ .failed ∧ (session.attempts = 0 ∨ session.state = .aligned) ∧
      (∀ last, session.generation = some last → last.value < generation.value) ∧
      next =
        { session with
          resetCounter :=
            if session.generation.isSome then session.resetCounter + 1 else session.resetCounter
          generation := some generation
          measurementTime := none
          attempts := 0
          inProgress := false
          nextRequestTime := 0
          state := .waitingForController } := by
  unfold start at allowed
  split at allowed
  · cases allowed
  rename_i resolved
  split at allowed
  · cases allowed
  rename_i increasing
  rw [not_or, not_and_or, not_not, not_not] at resolved
  refine ⟨resolved.1, resolved.2, ?_, (Except.ok.inj allowed).symm⟩
  intro last current
  simpa [current] using increasing

/-- A request that is counted was due. -/
theorem alignmentSent_ok {session next : FlightSession} {now : Int}
    (counted : session.alignmentSent now = .ok next) :
    session.alignmentDue now = true ∧
      next =
        { session with
          attempts := session.attempts + 1
          requestTime := now
          inProgress := false
          state := .awaitingAlignment } := by
  unfold alignmentSent at counted
  split at counted
  · exact ⟨‹_›, (Except.ok.inj counted).symm⟩
  · cases counted

theorem tick_config (session : FlightSession) (now : Int) :
    (session.tick now).config = session.config := by
  have spec := session.tick_spec now
  generalize session.tick now = next at spec
  cases spec <;> rfl

theorem observe_config (session : FlightSession) (armed : Bool) (now : Int) :
    (session.observe armed now).config = session.config := by
  have spec := session.observe_spec armed now
  generalize session.observe armed now = next at spec
  cases spec <;> rfl

theorem reply_config (session : FlightSession) (result : AlignmentResult) (now : Int) :
    (session.reply result now).config = session.config := by
  have spec := session.reply_spec result now
  generalize session.reply result now = next at spec
  cases spec <;> rfl

/-- The session keeps its generation and its reset byte. -/
structure Same (session next : FlightSession) : Prop where
  generation : next.generation = session.generation
  resetCounter : next.resetCounter = session.resetCounter

theorem Same.refl (session : FlightSession) : session.Same session := ⟨rfl, rfl⟩

theorem Same.trans {first second third : FlightSession} (one : first.Same second)
    (two : second.Same third) : first.Same third :=
  ⟨two.generation.trans one.generation, two.resetCounter.trans one.resetCounter⟩

theorem tick_same (session : FlightSession) (now : Int) : session.Same (session.tick now) := by
  have spec := session.tick_spec now
  generalize session.tick now = next at spec
  cases spec <;> exact ⟨rfl, rfl⟩

theorem observe_same (session : FlightSession) (armed : Bool) (now : Int) :
    session.Same (session.observe armed now) := by
  have spec := session.observe_spec armed now
  generalize session.observe armed now = next at spec
  cases spec <;> exact ⟨rfl, rfl⟩

theorem reply_same (session : FlightSession) (result : AlignmentResult) (now : Int) :
    session.Same (session.reply result now) := by
  have spec := session.reply_spec result now
  generalize session.reply result now = next at spec
  cases spec <;> exact ⟨rfl, rfl⟩

end FlightSession
end Vio
