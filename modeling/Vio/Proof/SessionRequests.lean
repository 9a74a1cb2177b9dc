import Mathlib.Data.List.Induction
import Vio.Proof.Session

namespace Vio
namespace FlightSession

/-- The attempts leave room for a request, or one is outstanding with a disarmed controller. -/
structure Requesting (session : FlightSession) : Prop where
  room : session.state = .waitingForController ∨ session.state = .priming →
    session.attempts < session.config.alignmentAttempts
  outstanding : session.state = .awaitingAlignment → session.generation ≠ none ∧
    session.armed = false ∧ 1 ≤ session.attempts ∧ session.attempts ≤ session.config.alignmentAttempts

/-- A state that neither waits nor awaits owes nothing. -/
theorem Requesting.ended {session : FlightSession}
    (state : session.state = .aligned ∨ session.state = .failed) : session.Requesting where
  room waiting := by rcases state with same | same <;> simp [same] at waiting
  outstanding awaiting := by rcases state with same | same <;> simp [same] at awaiting

/-- A new session may send all its requests. -/
theorem create_requesting {config : FlightSessionConfig} {counter : UInt8} {session : FlightSession}
    (created : create config counter = .ok session) : session.Requesting := by
  unfold create at created
  split at created
  · rename_i accepted
    obtain rfl := Except.ok.inj created
    refine ⟨fun _ => ?_, fun awaiting => by cases awaiting⟩
    unfold FlightSessionConfig.Accepted at accepted
    change 0 < config.alignmentAttempts
    omega
  · cases created

/-- A tick sends no request beyond the attempts. -/
theorem Requesting.tick {session : FlightSession} (requesting : session.Requesting) (now : Int) :
    (session.tick now).Requesting := by
  have spec := session.tick_spec now
  generalize session.tick now = next at spec
  cases spec with
  | keep => exact requesting
  | lose | expire => exact .ended (.inr rfl)
  | revoke =>
      refine ⟨fun _ => session.alignmentAttempts_bounds.1, fun awaiting => by cases awaiting⟩
  | wait _ _ waiting => exact ⟨fun _ => requesting.room waiting, fun awaiting => by cases awaiting⟩
  | prime _ _ waiting =>
      exact ⟨fun _ => requesting.room (.inl waiting), fun awaiting => by cases awaiting⟩
  | retry _ _ _ left => exact ⟨fun _ => left, fun awaiting => by cases awaiting⟩

/-- A heartbeat ends an episode or leaves it. -/
theorem Requesting.observe {session : FlightSession} (requesting : session.Requesting)
    (armed : Bool) (now : Int) : (session.observe armed now).Requesting := by
  have spec := session.observe_spec armed now
  generalize session.observe armed now = next at spec
  cases spec with
  | note calm =>
      refine ⟨requesting.room, fun awaiting => ?_⟩
      obtain ⟨known, _, bounds⟩ := requesting.outstanding awaiting
      exact ⟨known, calm.resolve_left (not_not.mpr awaiting), bounds⟩
  | abort => exact .ended (.inr rfl)

/-- A reply ends an episode or leaves it. -/
theorem Requesting.reply {session : FlightSession} (requesting : session.Requesting)
    (result : AlignmentResult) (now : Int) : (session.reply result now).Requesting := by
  have spec := session.reply_spec result now
  generalize session.reply result now = next at spec
  cases spec with
  | ignore => exact requesting
  | align => exact .ended (.inl rfl)
  | progress => exact ⟨requesting.room, requesting.outstanding⟩
  | retry _ left => exact ⟨fun _ => left, fun awaiting => by cases awaiting⟩
  | refuse => exact .ended (.inr rfl)

theorem apply_start_cases (session : FlightSession) (generation : SessionGeneration) :
    session.apply (.start generation) = session ∨
      session.start generation = .ok (session.apply (.start generation)) := by
  cases started : session.start generation with
  | error thrown => exact .inl (by simp only [apply, started]; rfl)
  | ok next => exact .inr (by simp only [apply, started]; rfl)

theorem apply_alignmentSent_cases (session : FlightSession) (now : Int) :
    session.apply (.alignmentSent now) = session ∨
      session.alignmentSent now = .ok (session.apply (.alignmentSent now)) := by
  cases counted : session.alignmentSent now with
  | error thrown => exact .inl (by simp only [apply, counted]; rfl)
  | ok next => exact .inr (by simp only [apply, counted]; rfl)

/-- Every call keeps the requests within the attempts. -/
theorem Requesting.apply {session : FlightSession} (requesting : session.Requesting)
    (call : SessionCall) : (session.apply call).Requesting := by
  cases call with
  | start generation =>
      rcases session.apply_start_cases generation with same | started
      · rw [same]
        exact requesting
      · obtain ⟨_, _, _, same⟩ := start_ok started
        rw [same]
        exact ⟨fun _ => session.alignmentAttempts_bounds.1, fun awaiting => by cases awaiting⟩
  | heartbeat armed now => exact ((requesting.tick now).observe armed now).tick now
  | tick now => exact requesting.tick now
  | acknowledge result now => exact (requesting.tick now).reply result now
  | fail => exact .ended (.inr rfl)
  | measurementSent timestamp => exact ⟨requesting.room, requesting.outstanding⟩
  | alignmentSent now =>
      rcases session.apply_alignmentSent_cases now with same | counted
      · rw [same]
        exact requesting
      · obtain ⟨due, same⟩ := alignmentSent_ok counted
        obtain ⟨_, permitted, disarmed, left, _⟩ := (session.alignmentDue_iff now).mp due
        obtain ⟨known, _⟩ := (session.canPublish_iff now).mp permitted
        rw [same]
        refine ⟨fun waiting => ?_, fun _ => ⟨known, disarmed, Nat.succ_pos _, left⟩⟩
        rcases waiting with waiting | waiting <;> cases waiting

theorem Requesting.run {session : FlightSession} (requesting : session.Requesting)
    (calls : List SessionCall) : (session.run calls).Requesting := by
  induction calls generalizing session with
  | nil => exact requesting
  | cons call calls inductionHypothesis => exact inductionHypothesis (requesting.apply call)

theorem run_snoc (session : FlightSession) (calls : List SessionCall) (call : SessionCall) :
    session.run (calls ++ [call]) = (session.run calls).apply call := by
  rw [run, List.foldl_append]
  rfl

section Awaiting
variable {session : FlightSession} {now : Int}

/-- A tick that ends with an outstanding request changed nothing, and no timeout has passed. -/
theorem tick_awaiting (awaiting : (session.tick now).state = .awaitingAlignment) :
    session.tick now = session ∧ (session.generation ≠ none →
      session.controllerFresh now = true ∧ now - session.requestTime < session.replyTimeout) := by
  have spec := session.tick_spec now
  generalize session.tick now = next at spec awaiting
  cases spec with
  | keep quiet =>
      refine ⟨rfl, fun known => ?_⟩
      rcases quiet with unknown | failed | ⟨fresh, _, timely⟩
      · exact absurd unknown known
      · cases failed.symm.trans awaiting
      · exact ⟨fresh, timely awaiting⟩
  | lose | revoke | wait | prime | expire | retry => cases awaiting

/-- A heartbeat that leaves the session waiting changes nothing of the wait. -/
theorem observe_awaiting {armed : Bool}
    (awaiting : (session.observe armed now).state = .awaitingAlignment) :
    session.state = .awaitingAlignment ∧
      (session.observe armed now).requestTime = session.requestTime ∧
      (session.observe armed now).inProgress = session.inProgress := by
  have spec := session.observe_spec armed now
  generalize session.observe armed now = next at spec awaiting
  cases spec with
  | note => exact ⟨awaiting, rfl, rfl⟩
  | abort => cases awaiting

/-- An answer that leaves the request outstanding was a progress report. -/
theorem reply_awaiting {result : AlignmentResult} (fresh : session.controllerFresh now = true)
    (disarmed : session.armed = false)
    (awaiting : (session.reply result now).state = .awaitingAlignment) :
    session.state = .awaitingAlignment ∧ result = .inProgress ∧
      session.reply result now = { session with inProgress := true } := by
  have before : session.state = .awaitingAlignment := by
    have spec := session.reply_spec result now
    generalize session.reply result now = next at spec awaiting
    cases spec with
    | ignore => exact awaiting
    | align outstanding | progress outstanding | retry outstanding | refuse outstanding =>
        exact outstanding
  have open_ : ¬ (session.state ≠ .awaitingAlignment ∨ session.controllerFresh now = false ∨
      session.armed = true) := by simp [before, fresh, disarmed]
  unfold reply at awaiting ⊢
  rw [if_neg open_] at awaiting ⊢
  refine ⟨before, ?_⟩
  cases result with
  | inProgress => exact ⟨rfl, rfl⟩
  | accepted | rejected => cases awaiting
  | retry =>
      dsimp only at awaiting
      split at awaiting <;> cases awaiting

/-- A call that ends with an outstanding request sent it, or the request was outstanding before. -/
theorem apply_awaiting (requesting : session.Requesting) {call : SessionCall}
    (awaiting : (session.apply call).state = .awaitingAlignment) :
    (∃ sent, call = .alignmentSent sent ∧ session.alignmentDue sent = true ∧
      (session.apply call).requestTime = sent ∧ (session.apply call).inProgress = false) ∨
    session.state = .awaitingAlignment ∧
      (session.apply call).requestTime = session.requestTime ∧
      ((session.apply call).inProgress = true ↔
        session.inProgress = true ∨ ∃ time, call = .acknowledge .inProgress time) := by
  have kept (other : ∀ time, call ≠ .acknowledge .inProgress time)
      (before : session.state = .awaitingAlignment)
      (request : (session.apply call).requestTime = session.requestTime)
      (progress : (session.apply call).inProgress = session.inProgress) :
      session.state = .awaitingAlignment ∧
        (session.apply call).requestTime = session.requestTime ∧
        ((session.apply call).inProgress = true ↔
          session.inProgress = true ∨ ∃ time, call = .acknowledge .inProgress time) := by
    refine ⟨before, request, ?_⟩
    rw [progress, or_iff_left (not_exists.mpr other)]
  cases call with
  | start generation =>
      rcases session.apply_start_cases generation with same | started
      · rw [same] at awaiting
        exact .inr (kept (by simp) awaiting (by rw [same]) (by rw [same]))
      · obtain ⟨_, _, _, same⟩ := start_ok started
        rw [same] at awaiting
        cases awaiting
  | heartbeat armed now =>
      obtain ⟨last, _⟩ := tick_awaiting awaiting
      change ((session.tick now).observe armed now).tick now = _ at last
      have shown : session.apply (.heartbeat armed now) = (session.tick now).observe armed now := last
      rw [shown] at awaiting
      obtain ⟨middle, request, progress⟩ := observe_awaiting awaiting
      obtain ⟨first, _⟩ := tick_awaiting middle
      rw [first] at middle request progress
      exact .inr (kept (by simp) middle (by rw [shown, first, request])
        (by rw [shown, first, progress]))
  | tick now =>
      obtain ⟨same, _⟩ := tick_awaiting awaiting
      have shown : session.apply (.tick now) = session := same
      rw [shown] at awaiting
      exact .inr (kept (by simp) awaiting (by rw [shown]) (by rw [shown]))
  | acknowledge result now =>
      have before : (session.tick now).state = .awaitingAlignment := by
        change ((session.tick now).reply result now).state = _ at awaiting
        have spec := (session.tick now).reply_spec result now
        generalize (session.tick now).reply result now = next at spec awaiting
        cases spec with
        | ignore => exact awaiting
        | align outstanding | progress outstanding | retry outstanding | refuse outstanding =>
            exact outstanding
      obtain ⟨same, timely⟩ := tick_awaiting before
      rw [same] at before
      obtain ⟨known, disarmed, _⟩ := requesting.outstanding before
      have shown : session.apply (.acknowledge result now) = session.reply result now := by
        change (session.tick now).reply result now = _
        rw [same]
      rw [shown] at awaiting
      obtain ⟨_, reported, replied⟩ := reply_awaiting (timely known).1 disarmed awaiting
      refine .inr ⟨before, by rw [shown, replied], ?_⟩
      rw [shown, replied]
      exact ⟨fun _ => .inr ⟨now, by rw [reported]⟩, fun _ => rfl⟩
  | fail => cases awaiting
  | measurementSent timestamp => exact .inr (kept (by simp) awaiting rfl rfl)
  | alignmentSent sent =>
      rcases session.apply_alignmentSent_cases sent with same | counted
      · rw [same] at awaiting
        exact .inr (kept (by simp) awaiting (by rw [same]) (by rw [same]))
      · obtain ⟨due, same⟩ := alignmentSent_ok counted
        exact .inl ⟨sent, rfl, due, by rw [same], by rw [same]⟩

end Awaiting

/-- The calls end with an outstanding request: it was sent at `sent`, the session has awaited its
answer through every later call, and the flag says whether progress was reported since. -/
structure Outstanding (session : FlightSession) (calls : List SessionCall) (sent : Int) : Prop where
  requestTime : (session.run calls).requestTime = sent
  since : ∃ before after, calls = before ++ .alignmentSent sent :: after ∧
    (session.run before).alignmentDue sent = true ∧
    (∀ middle, middle <+: after →
      (session.run (before ++ .alignmentSent sent :: middle)).state = .awaitingAlignment) ∧
    ((session.run calls).inProgress = true ↔ ∃ time, .acknowledge .inProgress time ∈ after)

/-- A later call that leaves the session waiting leaves the request that it waits for. -/
theorem Outstanding.call {session : FlightSession} {calls : List SessionCall} {sent : Int}
    {call : SessionCall} (outstanding : session.Outstanding calls sent)
    (awaiting : (session.run (calls ++ [call])).state = .awaitingAlignment)
    (request : (session.run (calls ++ [call])).requestTime = (session.run calls).requestTime)
    (progress : (session.run (calls ++ [call])).inProgress = true ↔
      (session.run calls).inProgress = true ∨ ∃ time, call = .acknowledge .inProgress time) :
    session.Outstanding (calls ++ [call]) sent where
  requestTime := request.trans outstanding.requestTime
  since := by
    obtain ⟨before, after, split, due, kept, reported⟩ := outstanding.since
    refine ⟨before, after ++ [call], by rw [split, List.append_assoc]; rfl, due, ?_, ?_⟩
    · intro middle start
      rcases List.prefix_concat_iff.mp start with whole | start
      · rw [split, List.append_assoc] at awaiting
        rw [whole]
        exact awaiting
      · exact kept middle start
    · rw [progress, reported]
      simp only [List.mem_append, List.mem_singleton, exists_or]
      apply or_congr_right
      simp only [eq_comm]

/-- A session that waits has sent a request that it still waits for. -/
theorem run_outstanding {session : FlightSession} (requesting : session.Requesting)
    (idle : session.state ≠ .awaitingAlignment) (calls : List SessionCall)
    (awaiting : (session.run calls).state = .awaitingAlignment) :
    ∃ sent, session.Outstanding calls sent := by
  induction calls using List.reverseRecOn with
  | nil => exact absurd awaiting idle
  | append_singleton calls call inductionHypothesis =>
      have last := awaiting
      rw [run_snoc] at last
      rcases apply_awaiting (requesting.run calls) last with
        ⟨sent, rfl, due, request, progress⟩ | ⟨before, request, progress⟩
      · refine ⟨sent, by rw [run_snoc, request], calls, [], rfl, due, ?_, ?_⟩
        · intro middle start
          rw [List.prefix_nil.mp start]
          exact awaiting
        · rw [run_snoc, progress]
          simp
      · obtain ⟨sent, outstanding⟩ := inductionHypothesis before
        exact ⟨sent, outstanding.call awaiting (by rw [run_snoc, request])
          (by rw [run_snoc, progress])⟩

/-- A session that waits owes its next state to the first disarmed heartbeat. -/
theorem observe_tick_priming {session : FlightSession} (now : Int)
    (waiting : session.state = .waitingForController ∨ session.state = .priming)
    (known : session.generation ≠ none) :
    (session.observe false now).tick now =
      { session with heartbeatTime := some now, armed := false, state := .priming } := by
  have limits := session.timeouts_positive
  have observed : session.observe false now =
      { session with heartbeatTime := some now, armed := false } := by simp [observe]
  have fresh : (session.observe false now).controllerFresh now = true := by
    rw [controllerFresh_iff, observed]
    exact ⟨now, rfl, Int.le_refl now, by change now - now < session.config.heartbeatTimeout; omega⟩
  rw [tick, fresh, observed]
  rcases waiting with state | state <;> simp [state, known]

/-- The states that wait for the controller stay so over a tick. -/
theorem tick_waiting {session : FlightSession} (now : Int)
    (waiting : session.state = .waitingForController ∨ session.state = .priming) :
    ((session.tick now).state = .waitingForController ∨ (session.tick now).state = .priming) ∧
      (session.tick now).nextRequestTime = session.nextRequestTime := by
  have spec := session.tick_spec now
  generalize session.tick now = next at spec
  cases spec with
  | keep => exact ⟨waiting, rfl⟩
  | lose _ _ outstanding | revoke _ _ outstanding | expire _ outstanding | retry _ outstanding =>
      rw [outstanding] at waiting
      simp at waiting
  | wait => exact ⟨.inl rfl, rfl⟩
  | prime => exact ⟨.inr rfl, rfl⟩

/-- A disarmed heartbeat and a measurement make the next request due. -/
theorem Requesting.due {session : FlightSession} (requesting : session.Requesting)
    (waiting : session.state = .waitingForController ∨ session.state = .priming)
    (known : session.generation ≠ none) {now : Int} (later : session.nextRequestTime ≤ now) :
    (session.run [.heartbeat false now, .measurementSent now]).alignmentDue now = true := by
  obtain ⟨calm, request⟩ := tick_waiting now waiting
  have room := (requesting.tick now).room calm
  have named : (session.tick now).generation ≠ none := by rwa [(session.tick_same now).generation]
  have primed := observe_tick_priming now calm named
  have limits := (session.tick now).timeouts_positive
  change ((((session.tick now).observe false now).tick now).measurementSent now).alignmentDue now = true
  rw [primed, alignmentDue_iff, canPublish_iff, controllerFresh_iff, measurementFresh_iff]
  refine ⟨rfl, ⟨named, ⟨now, rfl, Int.le_refl now, ?_⟩, ?_, .inr rfl⟩, rfl, room, ?_, now, rfl,
    Int.le_refl now, ?_⟩
  · show now - now < (session.tick now).config.heartbeatTimeout
    omega
  · intro failed
    cases failed
  · show (session.tick now).nextRequestTime ≤ now
    omega
  · show now - now ≤ (session.tick now).config.maxEstimateAge
    omega

/-- Before the first generation nothing is attempted. -/
def Unstarted (session : FlightSession) : Prop :=
  session.generation = none →
    session.attempts = 0 ∧ (session.state = .waitingForController ∨ session.state = .failed)

/-- A tick before the first generation attempts nothing. -/
theorem Unstarted.tick {session : FlightSession} (unstarted : session.Unstarted) (now : Int) :
    (session.tick now).Unstarted := by
  intro unknown
  have before : session.generation = none := by rwa [(session.tick_same now).generation] at unknown
  have quiet : session.tick now = session := by rw [FlightSession.tick, if_pos (.inl before)]
  rw [quiet]
  exact unstarted before

/-- A heartbeat before the first generation attempts nothing. -/
theorem Unstarted.observe {session : FlightSession} (unstarted : session.Unstarted) (armed : Bool)
    (now : Int) : (session.observe armed now).Unstarted := by
  have spec := session.observe_spec armed now
  generalize session.observe armed now = next at spec
  cases spec with
  | note => exact unstarted
  | abort => exact fun unknown => ⟨(unstarted unknown).1, .inr rfl⟩

/-- A reply before the first generation is to no request. -/
theorem Unstarted.reply {session : FlightSession} (unstarted : session.Unstarted)
    (result : AlignmentResult) (now : Int) : (session.reply result now).Unstarted := by
  intro unknown
  have before : session.generation = none := by
    rwa [(session.reply_same result now).generation] at unknown
  have quiet : session.reply result now = session := by
    have other : session.state ≠ .awaitingAlignment := by
      rcases (unstarted before).2 with state | state <;> simp [state]
    unfold FlightSession.reply
    rw [if_pos (.inl other)]
  rw [quiet]
  exact unstarted before

/-- Only a start begins a generation. -/
theorem Unstarted.apply {session : FlightSession} (unstarted : session.Unstarted)
    (call : SessionCall) : (session.apply call).Unstarted := by
  cases call with
  | start generation =>
      rcases session.apply_start_cases generation with same | started
      · rw [same]
        exact unstarted
      · obtain ⟨_, _, _, same⟩ := start_ok started
        rw [same]
        exact fun unknown => by cases unknown
  | heartbeat armed now => exact ((unstarted.tick now).observe armed now).tick now
  | tick now => exact unstarted.tick now
  | acknowledge result now => exact (unstarted.tick now).reply result now
  | fail => exact fun unknown => ⟨(unstarted unknown).1, .inr rfl⟩
  | measurementSent timestamp => exact unstarted
  | alignmentSent now =>
      rcases session.apply_alignmentSent_cases now with same | counted
      · rw [same]
        exact unstarted
      · obtain ⟨due, same⟩ := alignmentSent_ok counted
        have permitted := ((session.alignmentDue_iff now).mp due).2.1
        rw [same]
        exact fun unknown => absurd unknown ((session.canPublish_iff now).mp permitted).1

theorem Unstarted.run {session : FlightSession} (unstarted : session.Unstarted)
    (calls : List SessionCall) : (session.run calls).Unstarted := by
  induction calls generalizing session with
  | nil => exact unstarted
  | cons call calls inductionHypothesis => exact inductionHypothesis (unstarted.apply call)

/-- No call changes the configuration. -/
theorem apply_config (session : FlightSession) (call : SessionCall) :
    (session.apply call).config = session.config := by
  cases call with
  | start generation =>
      rcases session.apply_start_cases generation with same | started
      · rw [same]
      · obtain ⟨_, _, _, same⟩ := start_ok started
        rw [same]
  | heartbeat armed now =>
      exact (tick_config _ now).trans ((observe_config _ armed now).trans (session.tick_config now))
  | tick now => exact session.tick_config now
  | acknowledge result now => exact (reply_config _ result now).trans (session.tick_config now)
  | fail | measurementSent => rfl
  | alignmentSent now =>
      rcases session.apply_alignmentSent_cases now with same | counted
      · rw [same]
      · rw [(alignmentSent_ok counted).2]

/-- No run changes the configuration. -/
theorem run_config (session : FlightSession) (calls : List SessionCall) :
    (session.run calls).config = session.config := by
  induction calls generalizing session with
  | nil => rfl
  | cons call calls inductionHypothesis =>
      exact (inductionHypothesis _).trans (session.apply_config call)

theorem run_append (session : FlightSession) (first second : List SessionCall) :
    session.run (first ++ second) = (session.run first).run second := List.foldl_append

/-- Alignment never gets stuck. While the session waits, the attempts leave room for a request, and
a disarmed heartbeat and a measurement make it due. An outstanding request of a disarmed controller
ends with the first tick from its timeout on, however often progress is reported. -/
theorem alignment_never_stuck {config : FlightSessionConfig} {counter : UInt8}
    {session : FlightSession} (created : create config counter = .ok session)
    (calls : List SessionCall) :
    ((session.run calls).state = .waitingForController ∨ (session.run calls).state = .priming →
      (session.run calls).attempts < config.alignmentAttempts ∧
      ((session.run calls).generation = none →
        ∀ generation, ∃ next, (session.run calls).start generation = .ok next) ∧
      ((session.run calls).generation ≠ none →
        ∀ now, (session.run calls).nextRequestTime ≤ now →
          (session.run (calls ++ [.heartbeat false now, .measurementSent now])).alignmentDue now =
            true)) ∧
    ((session.run calls).state = .awaitingAlignment →
      (session.run calls).armed = false ∧ 1 ≤ (session.run calls).attempts ∧
      (session.run calls).attempts ≤ config.alignmentAttempts ∧
      ∃ sent, session.Outstanding calls sent ∧
        ∀ now, sent + (if (session.run calls).inProgress then config.progressTimeout
            else config.alignmentTimeout) ≤ now →
          (session.run (calls ++ [.tick now])).state ≠ .awaitingAlignment) ∧
    ∀ now, (session.run (calls ++ [.tick now])).state = .awaitingAlignment →
      ∃ sent, session.Outstanding (calls ++ [.tick now]) sent ∧
        now - sent < if (session.run (calls ++ [.tick now])).inProgress then config.progressTimeout
          else config.alignmentTimeout := by
  have requesting := create_requesting created
  obtain ⟨limits, state, attempts⟩ : session.config = config ∧
      session.state = .waitingForController ∧ session.attempts = 0 := by
    unfold create at created
    split at created
    · obtain rfl := Except.ok.inj created
      exact ⟨rfl, rfl, rfl⟩
    · cases created
  have idle : session.state ≠ .awaitingAlignment := by simp [state]
  have ran := requesting.run calls
  have configured : (session.run calls).config = config := (session.run_config calls).trans limits
  have timely (now : Int) (awaiting : (session.run (calls ++ [.tick now])).state = .awaitingAlignment) :
      ∃ sent, session.Outstanding (calls ++ [.tick now]) sent ∧
        now - sent < if (session.run (calls ++ [.tick now])).inProgress then config.progressTimeout
          else config.alignmentTimeout := by
    obtain ⟨sent, outstanding⟩ := run_outstanding requesting idle _ awaiting
    refine ⟨sent, outstanding, ?_⟩
    have request := outstanding.requestTime
    rw [run_snoc] at awaiting request ⊢
    obtain ⟨same, late⟩ := tick_awaiting awaiting
    have kept : (session.run calls).apply (.tick now) = session.run calls := same
    rw [kept] at awaiting request ⊢
    have known := (ran.outstanding awaiting).1
    rw [← request, ← configured]
    exact (late known).2
  refine ⟨fun waiting => ⟨by rw [← configured]; exact ran.room waiting, fun unknown generation => ?_,
    fun known now later => ?_⟩, fun awaiting => ?_, timely⟩
  · have none := (Unstarted.run (fun _ => ⟨attempts, .inl state⟩) calls : (session.run calls).Unstarted)
    have zero := (none unknown).1
    have alive : (session.run calls).state ≠ .failed := by
      rcases waiting with waiting | waiting <;> simp [waiting]
    rw [start, if_neg (by simp [alive, zero]), unknown, if_neg (by simp)]
    exact ⟨_, rfl⟩
  · rw [run_append]
    exact ran.due waiting known later
  · obtain ⟨_, disarmed, some_, bound⟩ := ran.outstanding awaiting
    obtain ⟨sent, outstanding⟩ := run_outstanding requesting idle calls awaiting
    refine ⟨disarmed, some_, by rw [← configured]; exact bound, sent, outstanding, fun now late still => ?_⟩
    obtain ⟨again, later, before⟩ := timely now still
    have request := later.requestTime
    rw [run_snoc] at still request before
    have kept : (session.run calls).apply (.tick now) = session.run calls := (tick_awaiting still).1
    rw [kept] at request before
    have same := outstanding.requestTime.symm.trans request
    omega

/-- Progress is reported twice while the heartbeats go on. -/
def progressCalls : List SessionCall :=
  [.start ⟨1⟩, .heartbeat false 1, .measurementSent 1, .alignmentSent 2, .acknowledge .inProgress 3,
    .heartbeat false 2900000000, .acknowledge .inProgress 2900000001, .heartbeat false 5800000000,
    .heartbeat false 8700000000, .tick 10000000001]

theorem progress_accepted : ({} : FlightSessionConfig).Accepted := by decide

def progressSession : FlightSession where
  config := {}
  accepted := progress_accepted
  resetCounter := 0

/-- A request with reported progress ends after ten seconds more. -/
theorem alignment_never_stuck_progress : (progressSession.run progressCalls).state = .awaitingAlignment ∧
    ∃ sent, progressSession.Outstanding progressCalls sent ∧ ∀ now, sent + 10000000000 ≤ now →
      (progressSession.run (progressCalls ++ [.tick now])).state ≠ .awaitingAlignment := by
  have created : create {} 0 = .ok progressSession := by decide +kernel
  have awaiting : (progressSession.run progressCalls).state = .awaitingAlignment := by decide +kernel
  obtain ⟨_, _, _, sent, outstanding, ends⟩ :=
    (alignment_never_stuck created progressCalls).2.1 awaiting
  have progress : (progressSession.run progressCalls).inProgress = true := by decide +kernel
  rw [progress] at ends
  exact ⟨awaiting, sent, outstanding, ends⟩

end FlightSession
end Vio
