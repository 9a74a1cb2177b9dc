import Vio.Proof.Link.Events

namespace Vio
open Mavlink History

/-- The session keeps its generation and its last heartbeat. -/
structure FlightSession.SameController (session next : FlightSession) : Prop where
  heartbeatTime : next.heartbeatTime = session.heartbeatTime
  armed : next.armed = session.armed
  generation : next.generation = session.generation

theorem FlightSession.tick_controller (session : FlightSession) (now : Int) :
    session.SameController (session.tick now) := by
  have spec := session.tick_spec now
  generalize session.tick now = next at spec
  cases spec <;> exact ⟨rfl, rfl, rfl⟩

theorem FlightSession.reply_controller (session : FlightSession) (result : AlignmentResult) (now : Int) :
    session.SameController (session.reply result now) := by
  have spec := session.reply_spec result now
  generalize session.reply result now = next at spec
  cases spec <;> exact ⟨rfl, rfl, rfl⟩

theorem FlightSession.observe_controller (session : FlightSession) (armed : Bool) (now : Int) :
    (session.observe armed now).heartbeatTime = some now ∧
      (session.observe armed now).armed = armed ∧
      (session.observe armed now).generation = session.generation := by
  have spec := session.observe_spec armed now
  generalize session.observe armed now = next at spec
  cases spec <;> exact ⟨rfl, rfl, rfl⟩

namespace MavlinkLink
variable {R : Type} [Mavlink R]

/-- The event says nothing of heartbeats, generations and session boundaries. -/
structure Neutral (event : LinkEvent R) : Prop where
  controller : event.controller = none
  generation : event.generation = none
  boundary : event.boundary = none

/-- The session state agrees with what the history tells of it. -/
structure Ledger (config : MavlinkLinkConfig) (link : MavlinkLink R) : Prop where
  configured : link.config = config
  limits : link.session.config = config.session
  controller : latest LinkEvent.controller link.history =
    link.session.heartbeatTime.map fun time => (link.session.armed, time)
  generation : latest LinkEvent.generation link.history = link.session.generation
  running : link.started = true → ∃ generation,
    latest LinkEvent.boundary link.history = some (some generation) ∧
      link.session.generation = some generation

/-- The state of a fresh link agrees with an empty history. -/
theorem Fresh.ledger {link : MavlinkLink R} {config : MavlinkLinkConfig} (fresh : link.Fresh config) :
    link.Ledger config where
  configured := fresh.configured
  limits := fresh.limits
  controller := by rw [fresh.history, fresh.heartbeatTime]; rfl
  generation := by rw [fresh.history, fresh.generation]; rfl
  running := by simp [fresh.started]

/-- Nothing that the ledger speaks of changes. -/
theorem Ledger.keep {config : MavlinkLinkConfig} {link next : MavlinkLink R}
    (ledger : link.Ledger config) (configured : next.config = link.config)
    (limits : next.session.config = link.session.config)
    (session : link.session.SameController next.session)
    (started : next.started = true → link.started = true)
    (history : next.history = link.history ∨
      ∃ event, Neutral event ∧ next.history = event :: link.history) : next.Ledger config := by
  obtain ⟨sameConfig, sameLimits, controller, generation, running⟩ := ledger
  have same : latest LinkEvent.controller next.history = latest LinkEvent.controller link.history ∧
      latest LinkEvent.generation next.history = latest LinkEvent.generation link.history ∧
      latest LinkEvent.boundary next.history = latest LinkEvent.boundary link.history := by
    rcases history with same | ⟨event, neutral, same⟩ <;> rw [same]
    · exact ⟨rfl, rfl, rfl⟩
    · exact ⟨latest_cons_none neutral.controller, latest_cons_none neutral.generation,
        latest_cons_none neutral.boundary⟩
  refine ⟨configured.trans sameConfig, limits.trans sameLimits, ?_, ?_, fun run => ?_⟩
  · rw [same.1, controller, session.heartbeatTime, session.armed]
  · rw [same.2.1, generation, session.generation]
  · rw [same.2.2, session.generation]
    exact running (started run)

variable [Scalar R]

/-- Each step writes into the history what it does to the session. -/
theorem Ledger.step {config : MavlinkLinkConfig} {now : Int} {link next : MavlinkLink R}
    (moved : LinkStep now link next) (ledger : link.Ledger config) : next.Ledger config := by
  have still (session : FlightSession) : session.SameController session := ⟨rfl, rfl, rfl⟩
  cases moved with
  | tick =>
      refine ledger.keep rfl (link.session.tick_config now) (link.session.tick_controller now) id ?_
      simp only [tick]
      split
      · exact .inr ⟨_, ⟨rfl, rfl, rfl⟩, rfl⟩
      · exact .inl rfl
  | observe armed ticked =>
      obtain ⟨heartbeatTime, armed_, generation⟩ := link.session.observe_controller armed now
      refine ⟨ledger.configured, (link.session.observe_config armed now).trans ledger.limits, ?_, ?_,
        fun run => ?_⟩
      · rw [show (link.observe armed now).session = link.session.observe armed now from rfl,
          heartbeatTime, armed_]
        exact latest_cons_some rfl
      · rw [show (link.observe armed now).session = link.session.observe armed now from rfl, generation]
        exact (latest_cons_none rfl).trans ledger.generation
      · rw [show (link.observe armed now).session = link.session.observe armed now from rfl, generation]
        exact ledger.running run
  | reply result =>
      exact ledger.keep rfl (link.session.reply_config result now)
        (link.session.reply_controller result now) id (.inr ⟨_, ⟨rfl, rfl, rfl⟩, rfl⟩)
  | note parser stats => exact ledger.keep rfl rfl (still _) id (.inl rfl)
  | close reason => exact ledger.keep rfl rfl ⟨rfl, rfl, rfl⟩ id (.inl rfl)
  | drop unsent => exact ledger.keep rfl rfl (still _) id (.inl rfl)
  | restart session generation whole allowed =>
      obtain ⟨_, _, _, rfl⟩ := FlightSession.start_ok allowed
      exact ⟨ledger.configured, ledger.limits, (latest_cons_none rfl).trans ledger.controller,
        latest_cons_some rfl,
        fun _ => ⟨generation, latest_cons_some rfl, rfl⟩⟩
  | withdraw =>
      rcases link.endSession_cases with ⟨_, same⟩ | ⟨_, same⟩ <;> rw [same]
      · exact ⟨ledger.configured, ledger.limits, (latest_cons_none rfl).trans ledger.controller,
          (latest_cons_none rfl).trans ledger.generation, (fun same => by cases same)⟩
      · exact ⟨ledger.configured, ledger.limits, (latest_cons_none rfl).trans ledger.controller,
          (latest_cons_none rfl).trans ledger.generation, (fun same => by cases same)⟩
  | publish estimate measurement checks =>
      exact ledger.keep rfl rfl (still _) id (.inr ⟨_, ⟨rfl, rfl, rfl⟩, rfl⟩)
  | request connected running idle due =>
      exact ledger.keep rfl rfl (still _) id (.inr ⟨_, ⟨rfl, rfl, rfl⟩, rfl⟩)
  | beat connected idle => exact ledger.keep rfl rfl (still _) id (.inr ⟨_, ⟨rfl, rfl, rfl⟩, rfl⟩)
  | part accepted allowed short =>
      exact ledger.keep rfl rfl (still _) id (.inr ⟨_, ⟨rfl, rfl, rfl⟩, rfl⟩)
  | sentMeasurement stats accepted allowed whole kind =>
      exact ledger.keep rfl rfl ⟨rfl, rfl, rfl⟩ id (.inr ⟨_, ⟨rfl, rfl, rfl⟩, rfl⟩)
  | sentAlignment session accepted allowed whole kind counted =>
      obtain ⟨_, rfl⟩ := FlightSession.alignmentSent_ok counted
      exact ledger.keep rfl rfl ⟨rfl, rfl, rfl⟩ id (.inr ⟨_, ⟨rfl, rfl, rfl⟩, rfl⟩)
  | sentHeartbeat accepted allowed whole kind =>
      exact ledger.keep rfl rfl (still _) id (.inr ⟨_, ⟨rfl, rfl, rfl⟩, rfl⟩)

/-- The ledger agrees at every point of every run. -/
theorem ledger_inductive (config : MavlinkLinkConfig) (before : Int → Int → Prop) :
    Inductive before (fun _ (link : MavlinkLink R) => link.Ledger config) :=
  .of_state fun _ _ _ _ moved ledger => ledger.step moved

omit [Scalar R] in
/-- A started session left its start in the history. -/
theorem Ledger.start_recorded {config : MavlinkLinkConfig} {link : MavlinkLink R}
    (ledger : link.Ledger config)
    (known : link.session.generation ≠ none) : ∃ generation, .started generation ∈ link.history := by
  obtain ⟨generation, same⟩ := Option.ne_none_iff_exists'.mp known
  have found := ledger.generation.trans same
  obtain ⟨event, member, read⟩ := List.exists_of_findSome?_eq_some found
  cases event with
  | started generation => exact ⟨generation, member⟩
  | _ => cases read

end MavlinkLink
end Vio
