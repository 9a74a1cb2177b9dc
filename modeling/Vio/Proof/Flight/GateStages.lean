import Vio.Construction.CaptureSetup
import Vio.Proof.Flight.ResetByte
import Vio.Proof.Link.Quiescence

namespace Vio
open Mavlink History

section Gates
variable {R : Type}

/-- The generation that an event started. -/
def FlightEvent.generation : FlightEvent R → Option SessionGeneration
  | .started generation => some generation
  | _ => none

@[simp] def FlightEvent.enters : FlightEvent R → Bool
  | .entered _ => true
  | _ => false

/-- The devices are constructed, or the worker starts. -/
def FlightEvent.setsUp : FlightEvent R → Bool
  | .imuDevices | .worker .. => true
  | _ => false

/-- In the running iteration a session started, with a generation larger than all earlier ones. -/
def Begun (generation : SessionGeneration) : List (FlightEvent R) → Prop :=
  Since (fun event => event.enters = false) fun event past =>
    event = .started generation ∧
      ∀ earlier ∈ past.filterMap FlightEvent.generation, earlier.value < generation.value

/-- Right after the latest poll, the last heartbeat of the controller was found fresh and disarmed;
since then the capture was set up only. -/
def Checked (config : FlightSessionConfig) : List (FlightEvent R) → Prop :=
  Since (fun event => event.setsUp = true) fun event past =>
    ∃ clock now time, event = .checked clock true ∧
      past.head? = some (.polled now (some (false, time))) ∧
      time ≤ clock ∧ clock - time < config.heartbeatTimeout

/-- The running iteration published nothing after the last end of a session. -/
def Withdrawn : List (FlightEvent R) → Prop :=
  Since (· ≠ .published) fun event _ => event = .endedSession ∨ event.enters = true

/-- A failure was caught in the running iteration. -/
def Caught : List (FlightEvent R) → Prop :=
  Since (fun event => event.enters = false) fun event _ => event = .caught

/-- What must precede an event of the loop. -/
def Gated (config : FlightSessionConfig) (event : FlightEvent R) (past : List (FlightEvent R)) : Prop :=
  match event with
  | .imuDevices => (∃ generation, Begun generation past) ∧ Checked config past
  | .worker options session =>
      Begun options.generation past ∧ Checked config past ∧ session = some options.generation
  | .left => Withdrawn past
  | .entered state => Caught past → state ≠ .failed ∧ state ≠ .awaitingAlignment
  | _ => True

variable {config : FlightSessionConfig} {event : FlightEvent R} {past : List (FlightEvent R)}

theorem begun_cons {generation : SessionGeneration} : Begun generation (event :: past) ↔
    (event = .started generation ∧
      ∀ earlier ∈ past.filterMap FlightEvent.generation, earlier.value < generation.value) ∨
    event.enters = false ∧ Begun generation past := since_cons_iff

theorem withdrawn_cons : Withdrawn (event :: past) ↔
    (event = .endedSession ∨ event.enters = true) ∨ event ≠ .published ∧ Withdrawn past :=
  since_cons_iff

theorem caught_cons :
    Caught (event :: past) ↔ event = .caught ∨ event.enters = false ∧ Caught past :=
  since_cons_iff

theorem caught_nil : ¬ Caught ([] : List (FlightEvent R)) := not_since_nil

variable {more : List (FlightEvent R)}

/-- A poll or an answer of the controller. -/
def Plain (event : FlightEvent R) : Prop :=
  (∃ now controller, event = .polled now controller) ∨ ∃ clock answer, event = .checked clock answer

theorem Plain.gated (plain : Plain event) (config : FlightSessionConfig)
    (past : List (FlightEvent R)) : Gated config event past := by
  rcases plain with ⟨now, controller, rfl⟩ | ⟨clock, answer, rfl⟩ <;> trivial

/-- Polls and answers say nothing of sessions, publications and failures. -/
theorem Plain.neutral (plain : Plain event) (past : List (FlightEvent R)) : event.generation = none ∧
    (∀ generation, Begun generation (event :: past) ↔ Begun generation past) ∧
    (Withdrawn (event :: past) ↔ Withdrawn past) ∧ (Caught (event :: past) ↔ Caught past) := by
  rcases plain with ⟨now, controller, rfl⟩ | ⟨clock, answer, rfl⟩ <;>
    exact ⟨rfl, fun generation => by simp [begun_cons], by simp [withdrawn_cons], by simp [caught_cons]⟩

/-- Plain events change nothing of what the gates look at. -/
theorem plain_append (events : List (FlightEvent R)) (plain : ∀ event ∈ more, Plain event) :
    (more ++ events).filterMap FlightEvent.generation = events.filterMap FlightEvent.generation ∧
      (∀ config, Always (Gated config) events → Always (Gated config) (more ++ events)) ∧
      (∀ generation, Begun generation (more ++ events) ↔ Begun generation events) ∧
      (Withdrawn (more ++ events) ↔ Withdrawn events) ∧ (Caught (more ++ events) ↔ Caught events) := by
  induction more with
  | nil => exact ⟨rfl, fun _ => id, fun _ => .rfl, .rfl, .rfl⟩
  | cons event more inductionHypothesis =>
      obtain ⟨first, rest⟩ := List.forall_mem_cons.mp plain
      obtain ⟨starts, gated, begun, withdrawn, caught⟩ := inductionHypothesis rest
      obtain ⟨none, sameBegun, sameWithdrawn, sameCaught⟩ := first.neutral (more ++ events)
      refine ⟨?_, fun config always => (gated config always).cons (first.gated config _), ?_,
        sameWithdrawn.trans withdrawn, sameCaught.trans caught⟩
      · rw [List.cons_append, List.filterMap_cons_none none, starts]
      · exact fun generation => (sameBegun generation).trans (begun generation)

end Gates

namespace Flight
variable {R : Type} [Mavlink R]

/-- A session started in the running iteration, which published nothing and caught nothing. -/
structure Open (flight : Flight R) (events : List (FlightEvent R)) : Prop where
  begun : Begun ⟨flight.generation⟩ events
  withdrawn : Withdrawn events
  uncaught : ¬ Caught events
  quiescent : flight.link.Quiescent

/-- What the loop knows at each stage. -/
def Holds (config : FlightSessionConfig) (flight : Flight R) (events : List (FlightEvent R)) : Prop :=
  match flight.stage with
  | .looping | .resting | .retrying _ =>
      Caught events → flight.link.Quiescent ∧ flight.link.session.state ≠ .failed ∧
        flight.link.session.state ≠ .awaitingAlignment
  | .reserving | .starting => Withdrawn events ∧ ¬ Caught events
  | .waiting | .checking | .preparing | .confirming => flight.Open events
  | .acquiring => flight.Open events ∧ Checked config events
  | .capturing _ | .loading _ | .judging | .ending _ => ¬ Caught events
  | .unwinding _ | .saving => Withdrawn events ∧ ¬ Caught events ∧ flight.link.Quiescent
  | .caught => flight.link.Quiescent
  | .finished | .failed => True

/-- The loop passed every gate so far. -/
structure Gates (config : MavlinkLinkConfig) (flight : Flight R) (events : List (FlightEvent R)) :
    Prop where
  sound : flight.Sound
  ledger : flight.link.Ledger config
  starts : events.filterMap FlightEvent.generation = flight.sessions.map Prod.fst
  gated : Always (Gated config.session) events
  holds : flight.Holds config.session events


variable {config : MavlinkLinkConfig} {flight next : Flight R} {events : List (FlightEvent R)}

/-- The events of an action pass their gates, and the loop knows what its next stage needs. -/
structure Passes (config : MavlinkLinkConfig) (next : Flight R) (events : List (FlightEvent R)) : Prop where
  starts : events.filterMap FlightEvent.generation = next.sessions.map Prod.fst
  gated : Always (Gated config.session) events
  holds : next.Holds config.session events

theorem lastController_eq (history : List (LinkEvent R)) :
    lastController history = latest LinkEvent.controller history := by
  refine congrArg (fun read => latest read history) (funext fun event => ?_)
  cases event <;> rfl

/-- The recorded heartbeat of a disarmed controller. -/
theorem disarmed_heartbeat {link : MavlinkLink R} (ledger : link.Ledger config) {clock : Int}
    (disarmed : link.session.controllerDisarmed clock = true) :
    ∃ time, lastController link.history = some (false, time) ∧ time ≤ clock ∧
      clock - time < config.session.heartbeatTimeout := by
  obtain ⟨fresh, unarmed⟩ := Bool.and_eq_true_iff.mp disarmed
  obtain ⟨time, known, past, recent⟩ := (link.session.controllerFresh_iff clock).mp fresh
  refine ⟨time, ?_, past, ?_⟩
  · rw [lastController_eq, ledger.controller, known]
    simpa using unarmed
  · rwa [ledger.limits] at recent

variable [Scalar R]

/-- A `pump` polls once, and it throws where the session failed. -/
theorem pump_spec (packs : PacksFit R) {link : MavlinkLink R} (buffered : link.Buffered)
    (input : Pump) : (pump link input).1 = (link.poll input.now input.transport).1 ∧
      ((∃ thrown, (pump link input).2 = .error thrown) ∨
        (pump link input).2 = .ok (!input.stopping) ∧
          (link.poll input.now input.transport).1.session.state ≠ .failed) := by
  have returned := (MavlinkLink.poll_steps packs buffered input.now input.transport).2
  unfold pump
  generalize link.poll input.now input.transport = result at returned
  obtain ⟨link, answer⟩ := result
  obtain rfl := returned
  dsimp only
  split
  · exact ⟨rfl, .inl ⟨_, rfl⟩⟩
  · exact ⟨rfl, .inr ⟨rfl, ‹_›⟩⟩

/-- A pump adds plain events only. -/
theorem asked_plain (input : Pump) : ∀ event ∈ flight.asked input, Plain event := by
  intro event member
  unfold asked at member
  split at member
  · cases member
  · dsimp only at member
    split at member
    · split at member
      · rcases List.mem_pair.mp member with rfl | rfl
        · exact .inr ⟨_, _, rfl⟩
        · exact .inl ⟨_, _, rfl⟩
      · obtain rfl := List.mem_singleton.mp member
        exact .inl ⟨_, _, rfl⟩
    · obtain rfl := List.mem_singleton.mp member
      exact .inl ⟨_, _, rfl⟩

omit [Scalar R] in
/-- The loop stays on its side of `run_capture` and out of the handler. -/
theorem Passes.stays (starts : events.filterMap FlightEvent.generation = next.sessions.map Prod.fst)
    (gated : Always (Gated config.session) events) (holds : next.Holds config.session events)
    (uncaught : next.stage ≠ .caught)
    (side : flight.stage.captures = true → next.stage.captures = true) :
    next.Passes config (flight.exits next ++ events) := by
  have none : flight.exits next = [] := by
    unfold exits
    rw [if_neg fun both => uncaught both.1, if_neg]
    · rfl
    · rintro ⟨inside, outside⟩
      rw [side inside] at outside
      cases outside
  rw [none]
  exact ⟨starts, gated, holds⟩

omit [Scalar R] in
/-- An exception reaches the handler from outside `run_capture`, or after it withdrew. -/
theorem Passes.catches
    (starts : events.filterMap FlightEvent.generation = next.sessions.map Prod.fst)
    (gated : Always (Gated config.session) events) (caught : next.stage = .caught)
    (before : flight.stage ≠ .caught) (quiescent : next.link.Quiescent)
    (withdrawn : flight.stage.captures = true → Withdrawn events) :
    next.Passes config (flight.exits next ++ events) := by
  unfold exits
  rw [if_pos ⟨caught, before⟩]
  split
  · rename_i left
    refine ⟨starts, .cons trivial (gated.cons (withdrawn left.1)), ?_⟩
    simpa only [Holds, caught] using quiescent
  · refine ⟨starts, .cons trivial gated, ?_⟩
    simpa only [Holds, caught] using quiescent

omit [Scalar R] in
/-- An exception at a stage where the loop knows what it needs. -/
theorem Holds.throws {link : MavlinkLink R} (holds : flight.Holds config.session events)
    (starts : events.filterMap FlightEvent.generation = flight.sessions.map Prod.fst)
    (gated : Always (Gated config.session) events)
    (quiet : flight.link.Quiescent → link.Quiescent)
    (thrown : ({ flight with link } : Flight R).throws = some next) :
    next.Passes config (flight.exits next ++ events) := by
  obtain ⟨stage, leads, rfl⟩ := Option.map_eq_some_iff.mp thrown
  change flight.stage.onThrow = some stage at leads
  cases before : flight.stage with
  | looping | waiting | checking | caught | resting | retrying =>
      rw [before] at leads
      obtain rfl := Option.some.inj leads
      exact .stays starts gated trivial (by simp) (by simp [before])
  | preparing | confirming =>
      rw [before] at leads
      obtain rfl := Option.some.inj leads
      simp only [Holds, before] at holds
      exact .catches starts gated rfl (by simp [before]) (quiet holds.quiescent)
        (by simp [before])
  | acquiring =>
      rw [before] at leads
      obtain rfl := Option.some.inj leads
      simp only [Holds, before] at holds
      exact .catches starts gated rfl (by simp [before]) (quiet holds.1.quiescent)
        fun _ => holds.1.withdrawn
  | capturing | loading | judging =>
      rw [before] at leads
      obtain rfl := Option.some.inj leads
      simp only [Holds, before] at holds
      exact .stays starts gated holds (by simp) fun _ => rfl
  | unwinding | saving =>
      rw [before] at leads
      obtain rfl := Option.some.inj leads
      simp only [Holds, before] at holds
      exact .catches starts gated rfl (by simp [before]) (quiet holds.2.2) fun _ => holds.1
  | reserving | starting | ending | finished | failed =>
      rw [before] at leads
      cases leads

omit [Scalar R] in
/-- Polls and answers change nothing that a stage before the acquisition needs. -/
theorem Holds.plain {more : List (FlightEvent R)} (holds : flight.Holds config.session events)
    (other : flight.stage ≠ .acquiring) (plain : ∀ event ∈ more, Plain event) :
    flight.Holds config.session (more ++ events) := by
  obtain ⟨_, _, begun, withdrawn, caught⟩ := plain_append events plain
  have opened (open_ : flight.Open events) : flight.Open (more ++ events) :=
    ⟨(begun _).mpr open_.begun, withdrawn.mpr open_.withdrawn,
      fun failed => open_.uncaught (caught.mp failed), open_.quiescent⟩
  cases stage : flight.stage with
  | acquiring => exact absurd stage other
  | waiting | checking | preparing | confirming =>
      simp only [Holds, stage] at holds ⊢
      exact opened holds
  | looping | resting | retrying | reserving | starting | capturing | loading | judging | ending
  | unwinding | saving =>
      simp only [Holds, stage] at holds ⊢
      simpa only [withdrawn, caught] using holds
  | caught =>
      simp only [Holds, stage] at holds ⊢
      exact holds
  | finished | failed => simp only [Holds, stage]

omit [Scalar R] in
/-- What follows a `pump` that returned. -/
theorem Holds.pumped {input : Pump} {running : Bool} {link : MavlinkLink R}
    (holds : flight.Holds config.session events)
    (starts : events.filterMap FlightEvent.generation = flight.sessions.map Prod.fst)
    (gated : Always (Gated config.session) events)
    (quiet : flight.link.Quiescent → link.Quiescent ∧
      (flight.link.session.state ≠ .awaitingAlignment → link.session.state ≠ .awaitingAlignment))
    (unfailed : link.session.state ≠ .failed) (pumps : flight.stage.pumps = true)
    (checked : flight.stage = .confirming → running = true →
      link.session.controllerDisarmed input.clock = true → Checked config.session events)
    (moved : ({ flight with link } : Flight R).pumped input running = next) :
    next.Passes config (flight.exits next ++ events) := by
  subst moved
  have opened (open_ : flight.Open events) (stage : FlightStage) :
      ({ flight with link, stage } : Flight R).Open events :=
    ⟨open_.begun, open_.withdrawn, open_.uncaught, (quiet open_.quiescent).1⟩
  cases before : flight.stage with
  | waiting =>
      simp only [Holds, before] at holds
      simp only [Flight.pumped]
      split <;> exact .stays starts gated (opened holds _) (by simp)
        (by simp [before])
  | preparing =>
      simp only [Holds, before] at holds
      simp only [Flight.pumped]
      split
      · exact .stays starts gated (opened holds _) (by simp) (by simp [before])
      · exact .catches starts gated rfl (by simp [before]) (quiet holds.quiescent).1
          (by simp [before])
  | confirming =>
      simp only [Holds, before] at holds
      simp only [Flight.pumped]
      split
      · rename_i ready
        obtain ⟨answer, disarmed⟩ := Bool.and_eq_true_iff.mp ready
        exact .stays starts gated ⟨opened holds _, checked before answer disarmed⟩ (by simp)
          (by simp [before])
      · exact .stays starts gated (fun failed => absurd failed holds.uncaught) (by simp)
          (by simp [before])
  | capturing started =>
      simp only [Holds, before] at holds
      simp only [Flight.pumped]
      split <;> exact .stays starts gated holds (by simp) (by simp)
  | retrying retryAt =>
      simp only [Holds, before] at holds
      have rested (failed : Caught events) : link.Quiescent ∧
          link.session.state ≠ .failed ∧ link.session.state ≠ .awaitingAlignment := by
        obtain ⟨quiescent, _, calm⟩ := holds failed
        exact ⟨(quiet quiescent).1, unfailed, (quiet quiescent).2 calm⟩
      simp only [Flight.pumped]
      split
      · exact .stays starts gated (by simpa only [Holds, before]) (by simp)
          (by simp [before])
      · exact .stays starts gated (by simpa only [Holds, again]) (by simp [again])
          (by simp [before])
  | _ => simp [before, FlightStage.pumps] at pumps

/-- The check after the latest poll. -/
theorem asked_checked (packs : PacksFit R) (sound : flight.Sound)
    (ledger : flight.link.Ledger config) {input : Pump} {link : MavlinkLink R}
    (result : pump flight.link input = (link, .ok true)) (confirming : flight.stage = .confirming)
    (disarmed : link.session.controllerDisarmed input.clock = true) :
    Checked config.session (flight.asked input ++ events) := by
  have polled := (pump_spec packs sound.buffered input).1
  obtain ⟨_, recorded⟩ :=
    (MavlinkLink.ledger_inductive (R := R) config MavlinkLink.AnyOrder).run packs sound.buffered
      (fun _ => ledger) [.poll input.now input.transport]
  have recorded : link.Ledger config := by
    rw [result] at polled
    rw [show link = (flight.link.poll input.now input.transport).1 from polled]
    exact recorded
  obtain ⟨time, known, past, recent⟩ := disarmed_heartbeat recorded disarmed
  have asked : flight.asked input = [.checked input.clock true,
      .polled input.now (some (false, time))] := by
    simp only [asked, confirming, result, disarmed, known]
    rfl
  rw [asked]
  exact Since.now ⟨_, _, time, rfl, rfl, past, recent⟩

/-- A pump passes the gate of its stage with what the poll has heard. -/
theorem passes_pump (packs : PacksFit R) (gates : flight.Gates config events) (input : Pump)
    (moved : flight.step (.pump input) = some next) :
    next.Passes config (flight.exits next ++ (flight.asked input ++ events)) := by
  obtain ⟨sound, ledger, starts, gated, holds⟩ := gates
  obtain ⟨polled, answer⟩ := pump_spec packs sound.buffered input
  have quiet (quiescent : flight.link.Quiescent) :=
    quiescent.poll packs sound.buffered input.now input.transport
  rw [← polled] at quiet answer
  have plain := plain_append events (flight.asked_plain input)
  have starts := plain.1.trans starts
  have gated := plain.2.1 _ gated
  simp only [step] at moved
  split at moved
  · cases moved
  rename_i pumps
  rw [Bool.not_eq_false] at pumps
  have holds := holds.plain (fun same => by simp [same, FlightStage.pumps] at pumps)
    (flight.asked_plain input)
  split at moved
  · rename_i elapsed
    obtain rfl := Option.some.inj moved
    cases stage : flight.stage with
    | retrying retryAt =>
        simp only [Holds, stage] at holds
        exact .stays starts gated holds (by simp [again]) (by simp [stage])
    | _ => simp [stage, FlightStage.elapsed] at elapsed
  · split at moved
    · rename_i link thrown result
      rw [result] at quiet
      exact holds.throws starts gated (fun quiescent => (quiet quiescent).1) moved
    · rename_i link running result
      rw [result] at quiet answer
      rcases answer with ⟨_, failed⟩ | ⟨_, unfailed⟩
      · cases failed
      · refine holds.pumped starts gated quiet unfailed pumps ?_ (Option.some.inj moved)
        rintro confirming rfl disarmed
        exact asked_checked packs sound ledger result confirming disarmed

/-- A session starts with a generation larger than all earlier ones, or the loop ends. -/
theorem passes_start (gates : flight.Gates config events) (starting : flight.stage = .starting)
    (moved : FlightStep flight next) (sound : next.Sound) :
    next.Passes config (flight.exits next ++
      ((if next.stage = .waiting then [.started ⟨next.generation⟩] else []) ++ events)) := by
  obtain ⟨_, ledger, starts, gated, holds⟩ := gates
  simp only [Holds, starting] at holds
  have outside : flight.stage.captures ≠ true := by simp [starting]
  cases moved with
  | serve stage backoff link served from_ => exact absurd starting from_.1
  | first looping => simp [starting] at looping
  | reserved fates store byte reserving => simp [starting] at reserving
  | refused | unstarted =>
      exact .stays starts gated trivial (by simp) fun inside => absurd inside outside
  | started session _ whole allowed =>
      have later := (List.pairwise_cons.mp sound.increasing).1
      have starts' : (.started ⟨flight.generation + 1⟩ :: events).filterMap FlightEvent.generation =
          ⟨flight.generation + 1⟩ :: flight.sessions.map Prod.fst :=
        (List.filterMap_cons_some (f := FlightEvent.generation) rfl).trans (congrArg _ starts)
      refine .stays starts' (.cons trivial gated) ?_ (by simp) fun inside => absurd inside outside
      refine ⟨Since.now ⟨rfl, ?_⟩, holds.1.cons (by simp), ?_,
        MavlinkLink.restarted_quiescent allowed⟩
      · intro earlier member
        change earlier ∈ events.filterMap FlightEvent.generation at member
        rw [starts] at member
        obtain ⟨pair, found, rfl⟩ := List.mem_map.mp member
        exact later pair found
      · intro failed
        exact holds.2 (by simpa [caught_cons] using failed)

/-- An iteration begins where no failure was caught, or where the link recovered from it. -/
theorem passes_stopping (gates : flight.Gates config events) (answer : Bool)
    (moved : flight.step (.stopping answer) = some next) :
    next.Passes config (flight.exits next ++ (flight.observed next (.stopping answer) ++ events)) := by
  obtain ⟨sound, ledger, starts, gated, holds⟩ := gates
  simp only [step] at moved
  cases before : flight.stage with
  | looping =>
      rw [before] at moved
      obtain rfl := Option.some.inj moved
      simp only [Holds, before] at holds
      have outside : flight.stage.captures ≠ true := by simp [before]
      cases answer with
      | true =>
          simp only [observed, before]
          exact .stays starts gated trivial (by simp) fun inside => absurd inside outside
      | false =>
          simp only [observed, before, Bool.false_eq_true, if_false]
          have entered : Withdrawn (.entered flight.link.session.state :: events) ∧
              ¬ Caught (.entered flight.link.session.state :: events) := by
            simp [withdrawn_cons, caught_cons]
          have gate : Gated config.session (.entered flight.link.session.state) events :=
            fun failed => (holds failed).2
          have gated := gated.cons gate
          split
          · exact .stays starts gated entered (by simp) fun inside => absurd inside outside
          · exact .stays starts gated entered (by simp) fun inside => absurd inside outside
  | checking =>
      rw [before] at moved
      obtain rfl := Option.some.inj moved
      simp only [Holds, before] at holds
      simp only [observed, before]
      cases answer with
      | true => exact .stays starts gated trivial (by simp) (by simp [before])
      | false =>
          exact .stays starts gated ⟨holds.begun, holds.withdrawn, holds.uncaught, holds.quiescent⟩
            (by simp) (by simp [before])
  | judging =>
      rw [before] at moved
      obtain rfl := Option.some.inj moved
      simp only [Holds, before] at holds
      simp only [observed, before]
      exact .stays starts gated holds (by simp) fun _ => rfl
  | caught =>
      rw [before] at moved
      obtain rfl := Option.some.inj moved
      simp only [Holds, before] at holds
      simp only [observed, before]
      have outside : flight.stage.captures ≠ true := by simp [before]
      split
      · exact .stays starts gated trivial (by simp) fun inside => absurd inside outside
      split
      · exact .stays starts gated trivial (by simp) fun inside => absurd inside outside
      · rename_i resolved
        exact .stays starts gated (fun _ => ⟨holds, not_or.mp resolved⟩) (by simp)
          fun inside => absurd inside outside
  | _ => simp [before] at moved

/-- A reservation adds no event of the loop. -/
theorem passes_reserve (gates : flight.Gates config events) {fates : ReserveFates}
    (moved : flight.step (.reserve fates) = some next) :
    next.Passes config (flight.exits next ++ events) := by
  obtain ⟨sound, ledger, starts, gated, holds⟩ := gates
  simp only [step] at moved
  split at moved
  · rename_i reserving
    obtain rfl := Option.some.inj moved
    simp only [Holds, reserving] at holds
    unfold reserve
    split
    · exact .stays starts gated trivial (by simp) (by simp [reserving])
    · exact .stays starts gated holds (by simp) (by simp [reserving])
  · cases moved

/-- A publication leads to the end of the session before `run_capture` is left. -/
theorem passes_publish (gates : flight.Gates config events) {estimate : EstimatorEstimate R}
    {now later : Int} (moved : flight.step (.publish estimate now later) = some next) :
    next.Passes config (flight.exits next ++ (.published :: events)) := by
  obtain ⟨sound, ledger, starts, gated, holds⟩ := gates
  simp only [step] at moved
  split at moved
  · rename_i started loading
    simp only [Holds, loading] at holds
    have uncaught : ¬ Caught (.published :: events) := by
      simpa [caught_cons] using holds
    have gated := gated.cons (show Gated config.session .published events from trivial)
    split at moved
    · rename_i link thrown result
      rw [throws, show ({ flight with link } : Flight R).stage = .loading started from loading] at moved
      obtain rfl := Option.some.inj moved
      exact .stays starts gated uncaught (by simp) fun _ => rfl
    · obtain rfl := Option.some.inj moved
      split <;> exact .stays starts gated uncaught (by simp) fun _ => rfl
  · cases moved

/-- A look at the clock adds no event of the loop. -/
theorem passes_clock (gates : flight.Gates config events) {now : Int}
    (moved : flight.step (.clock now) = some next) :
    next.Passes config (flight.exits next ++ events) := by
  obtain ⟨sound, ledger, starts, gated, holds⟩ := gates
  simp only [step] at moved
  split at moved
  · rename_i acquiring
    simp only [Holds, acquiring] at holds
    obtain rfl := Option.some.inj moved
    exact .stays starts gated holds.1.uncaught (by simp) fun _ => rfl
  · rename_i started loading
    simp only [Holds, loading] at holds
    obtain rfl := Option.some.inj moved
    split <;> exact .stays starts gated holds (by simp) fun _ => rfl
  · rename_i resting
    simp only [Holds, resting] at holds
    obtain rfl := Option.some.inj moved
    exact .stays starts gated holds (by simp) (by simp [resting])
  · cases moved

/-- The end of a session is an event, and what was published is withdrawn. -/
theorem passes_endSession (gates : flight.Gates config events) {stopThrows : Bool}
    (moved : flight.step (.endSession stopThrows) = some next) :
    next.Passes config (flight.exits next ++ (.endedSession :: events)) := by
  obtain ⟨sound, ledger, starts, gated, holds⟩ := gates
  simp only [step] at moved
  split at moved
  · rename_i failed ending
    simp only [Holds, ending] at holds
    obtain rfl := Option.some.inj moved
    have uncaught : ¬ Caught (.endedSession :: events) := by
      simpa [caught_cons] using holds
    exact .stays starts (.cons trivial gated) ⟨Since.now (.inl rfl), uncaught,
      flight.link.endSession_quiescent⟩ (by simp) fun _ => rfl
  · cases moved

/-- The polls of an ended session keep it quiescent. -/
theorem passes_poll (packs : PacksFit R) (gates : flight.Gates config events) {now : Int}
    {transport : Transport} (moved : flight.step (.poll now transport) = some next) :
    next.Passes config (flight.exits next ++
      (.polled now (lastController next.link.history) :: events)) := by
  obtain ⟨sound, ledger, starts, gated, holds⟩ := gates
  simp only [step] at moved
  split at moved
  · rename_i failed unwinding
    have returned := (MavlinkLink.poll_steps packs sound.buffered now transport).2
    have polled : ∀ event ∈ [(.polled now (lastController
        (flight.link.poll now transport).1.history) : FlightEvent R)], Plain event := by
      simp [Plain]
    have holds := holds.plain (by simp [unwinding]) polled
    have plain := plain_append events polled
    simp only [Holds, unwinding] at holds
    have quiescent := (holds.2.2.poll packs sound.buffered now transport).1
    generalize flight.link.poll now transport = result at *
    obtain ⟨link, answer⟩ := result
    obtain rfl := returned
    obtain rfl := Option.some.inj moved
    refine .stays starts (plain.2.1 _ gated) ?_ (by simp [unwinding]) (by simp)
    simpa only [Holds, unwinding] using ⟨holds.1, holds.2.1, quiescent⟩
  · cases moved

/-- The join of the worker adds no event of the loop. -/
theorem passes_joined (gates : flight.Gates config events) {error : Bool}
    (moved : flight.step (.joined error) = some next) :
    next.Passes config (flight.exits next ++ events) := by
  obtain ⟨sound, ledger, starts, gated, holds⟩ := gates
  simp only [step] at moved
  split at moved
  · rename_i failed unwinding
    simp only [Holds, unwinding] at holds
    obtain rfl := Option.some.inj moved
    split
    · exact .catches starts gated rfl (by simp [unwinding]) holds.2.2 fun _ => holds.1
    · exact .stays starts gated holds (by simp) fun _ => rfl
  · cases moved

/-- The capture is ready, or it returned. -/
theorem passes_proceed (gates : flight.Gates config events)
    (moved : flight.step .proceed = some next) :
    next.Passes config (flight.exits next ++ events) := by
  obtain ⟨sound, ledger, starts, gated, holds⟩ := gates
  simp only [step] at moved
  split at moved
  · rename_i preparing
    simp only [Holds, preparing] at holds
    obtain rfl := Option.some.inj moved
    exact .stays starts gated ⟨holds.begun, holds.withdrawn, holds.uncaught, holds.quiescent⟩
      (by simp) (by simp [preparing])
  · rename_i saving
    simp only [Holds, saving] at holds
    obtain rfl := Option.some.inj moved
    unfold exits
    rw [if_neg (by simp), if_pos (by simp [saving])]
    refine ⟨starts, gated.cons holds.1, fun failed => absurd failed ?_⟩
    simpa [caught_cons] using holds.2.1
  · cases moved

/-- One action of the loop. -/
theorem passes_step (packs : PacksFit R) (gates : flight.Gates config events)
    {action : FlightAction R} (moved : flight.step action = some next) :
    next.Passes config (flight.exits next ++ (flight.observed next action ++ events)) := by
  cases action with
  | stopping answer => exact passes_stopping gates answer moved
  | reserve fates => exact passes_reserve gates moved
  | start =>
      have flown := step_spec moved
      have sound := gates.sound.step packs flown
      simp only [step] at moved
      split at moved
      · exact passes_start gates ‹_› flown sound
      · cases moved
  | pump input => exact passes_pump packs gates input moved
  | publish estimate now later => exact passes_publish gates moved
  | clock now => exact passes_clock gates moved
  | endSession stopThrows => exact passes_endSession gates moved
  | poll now transport => exact passes_poll packs gates moved
  | joined error => exact passes_joined gates moved
  | proceed => exact passes_proceed gates moved
  | throws => exact gates.holds.throws gates.starts gates.gated id moved

/-- Each action passes its gates and knows what the next stage needs. -/
theorem Gates.step (packs : PacksFit R) (gates : flight.Gates config events)
    {action : FlightAction R} (moved : flight.step action = some next) :
    next.Gates config (flight.exits next ++ flight.observed next action ++ events) := by
  have flown := step_spec moved
  obtain ⟨starts, gated, holds⟩ := passes_step packs gates moved
  rw [List.append_assoc]
  refine ⟨gates.sound.step packs flown, ?_, starts, gated, holds⟩
  obtain ⟨operations, same⟩ := FlightStep.operations flown
  obtain ⟨_, ledger⟩ := (MavlinkLink.ledger_inductive (R := R) config MavlinkLink.AnyOrder).run packs
    gates.sound.buffered (fun _ => gates.ledger) operations
  rw [same]
  exact ledger

end Flight

end Vio
