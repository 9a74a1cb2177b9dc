import Vio.Construction.MavlinkCodec
import Vio.Proof.Link.Ledger

namespace Vio
open Mavlink History

namespace LinkEvent
variable {R : Type} [Mavlink R]

/-- The event is the write of the last bytes of an alignment command. -/
def CompletesAlignment (event : LinkEvent R) : Prop :=
  ∃ call, event = .handed call ∧ call.kind = .alignment ∧ call.Complete

def heartbeatTime (event : LinkEvent R) : Option Int := event.controller.map Prod.snd

end LinkEvent

namespace MavlinkLink
variable {R : Type} [Mavlink R]

/-- An alignment command was completely written in the current session. -/
def Requested (history : List (LinkEvent R)) : Prop :=
  Since (fun event => event.generation = none)
    (fun event past => event.CompletesAlignment ∧ ∃ generation, .started generation ∈ past) history

/-- In the current session an alignment command was completely written, and after that an
acceptance was processed while the controller was disarmed. From the last heartbeat before the
acceptance on, successive heartbeats and the times `ahead` lie closer than `timeout`. -/
def AlignedSince (timeout : Int) (ahead : List Int) (history : List (LinkEvent R)) : Prop :=
  ∃ recent time past last, history = recent ++ .acknowledged .accepted time :: past ∧
    (∀ event ∈ recent, event.generation = none) ∧ Requested past ∧
    latest LinkEvent.controller past = some (false, last) ∧
    (ahead ++ (recent.filterMap LinkEvent.heartbeatTime ++ [last])).IsChain
      fun later earlier => later - earlier < timeout

/-- An event that is neither a heartbeat nor a start leaves the alignment. -/
theorem AlignedSince.cons {timeout : Int} {history : List (LinkEvent R)} {event : LinkEvent R}
    (aligned : AlignedSince timeout [] history) (calm : event.generation = none)
    (quiet : event.controller = none) : AlignedSince timeout [] (event :: history) := by
  obtain ⟨recent, time, past, last, split, same, requested, disarmed, chain⟩ := aligned
  have skipped : event.heartbeatTime = none := by simp [LinkEvent.heartbeatTime, quiet]
  refine ⟨event :: recent, time, past, last, by rw [split]; rfl,
    List.forall_mem_cons.mpr ⟨calm, same⟩, requested, disarmed, ?_⟩
  rwa [List.filterMap_cons_none skipped]

/-- The newest heartbeat is the first one of the chain. -/
theorem chain_head (recent past : List (LinkEvent R)) (time : Int) (result : AlignmentResult)
    {last : Int} {armed : Bool} (before : latest LinkEvent.controller past = some (armed, last)) :
    (recent.filterMap LinkEvent.heartbeatTime ++ [last]).head? =
      (latest LinkEvent.controller (recent ++ .acknowledged result time :: past)).map Prod.snd := by
  induction recent with
  | nil =>
      rw [List.nil_append, latest_cons_none rfl, before]
      rfl
  | cons event rest ih =>
      cases read : event.controller with
      | none =>
          rw [List.filterMap_cons_none (by simp [LinkEvent.heartbeatTime, read]), ih, List.cons_append,
            latest_cons_none read]
      | some pair =>
          rw [List.filterMap_cons_some (b := pair.2) (by simp [LinkEvent.heartbeatTime, read])]
          simp only [List.cons_append, latest_cons_some read]
          rfl

/-- A time that follows the newest heartbeat closely extends the chain. -/
theorem AlignedSince.ahead {timeout now last : Int} {armed : Bool} {history : List (LinkEvent R)}
    (aligned : AlignedSince timeout [] history)
    (newest : latest LinkEvent.controller history = some (armed, last))
    (close : now - last < timeout) : AlignedSince timeout [now] history := by
  obtain ⟨recent, time, past, first, split, same, requested, disarmed, chain⟩ := aligned
  refine ⟨recent, time, past, first, split, same, requested, disarmed, ?_⟩
  have head := chain_head recent past time .accepted disarmed
  rw [← split, newest] at head
  rw [List.nil_append] at chain
  cases times : recent.filterMap LinkEvent.heartbeatTime ++ [first] with
  | nil => simp at times
  | cons newestTime rest =>
      rw [times] at head chain
      obtain rfl : newestTime = last := by simpa using head
      exact List.IsChain.cons_cons close chain

/-- A heartbeat in time keeps the chain back to the acceptance. -/
theorem AlignedSince.heartbeat {timeout now : Int} {history : List (LinkEvent R)} (armed : Bool)
    (aligned : AlignedSince timeout [now] history) :
    AlignedSince timeout [] (.heartbeat armed now :: history) := by
  obtain ⟨recent, time, past, last, split, same, requested, disarmed, chain⟩ := aligned
  refine ⟨.heartbeat armed now :: recent, time, past, last, by rw [split]; rfl,
    List.forall_mem_cons.mpr ⟨rfl, same⟩, requested, disarmed, ?_⟩
  rwa [List.filterMap_cons_some (f := LinkEvent.heartbeatTime) (b := now) rfl]

/-- What the two states of a request owe to the history. -/
structure Approved (link : MavlinkLink R) : Prop where
  outstanding : link.session.state = .awaitingAlignment → Requested link.history
  granted : link.session.state = .aligned →
    AlignedSince link.session.config.heartbeatTimeout [] link.history

theorem Fresh.approved {link : MavlinkLink R} {config : MavlinkLinkConfig} (fresh : link.Fresh config) :
    link.Approved where
  outstanding := by simp [fresh.state]
  granted := by simp [fresh.state]

/-- The request state stays or is left, and a quiet event may be recorded. -/
theorem Approved.keep {link next : MavlinkLink R} (approved : link.Approved)
    (outstanding : next.session.state = .awaitingAlignment → link.session.state = .awaitingAlignment)
    (granted : next.session.state = .aligned → link.session.state = .aligned)
    (config : next.session.config = link.session.config)
    (history : next.history = link.history ∨
      ∃ event, Neutral event ∧ next.history = event :: link.history) : next.Approved := by
  rcases history with same | ⟨event, neutral, same⟩
  · exact ⟨fun state => by rw [same]; exact approved.outstanding (outstanding state),
      fun state => by rw [same, config]; exact approved.granted (granted state)⟩
  · refine ⟨fun state => ?_, fun state => ?_⟩
    · rw [same]
      exact (approved.outstanding (outstanding state)).cons neutral.generation
    · rw [same, config]
      exact (approved.granted (granted state)).cons neutral.generation neutral.controller

variable [Scalar R]

/-- A state that follows an acceptance stands on a written command and its acceptance. -/
theorem Approved.step {config : MavlinkLinkConfig} {now : Int} {link next : MavlinkLink R}
    (moved : LinkStep now link next) (ledger : link.Ledger config) (approved : link.Approved) : next.Approved := by
  cases moved with
  | tick =>
      have spec := link.session.tick_spec now
      refine approved.keep (fun state => ?_) (fun state => ?_) (link.session.tick_config now) ?_
      · simp only [tick] at state
        generalize link.session.tick now = next at spec state
        cases spec <;> first | exact state | cases state
      · simp only [tick] at state
        generalize link.session.tick now = next at spec state
        cases spec <;> first | exact state | cases state
      · simp only [tick]
        split
        · exact .inr ⟨_, ⟨rfl, rfl, rfl⟩, rfl⟩
        · exact .inl rfl
  | observe armed ticked =>
      have config := link.session.observe_config armed now
      have spec := link.session.observe_spec armed now
      refine ⟨fun state => ?_, fun state => ?_⟩
      · change (link.session.observe armed now).state = .awaitingAlignment at state
        have before : link.session.state = .awaitingAlignment := by
          generalize link.session.observe armed now = next at spec state
          cases spec with
          | note calm => exact state
          | abort outstanding arming => cases state
        exact (approved.outstanding before).cons rfl
      · change (link.session.observe armed now).state = .aligned at state
        have before : link.session.state = .aligned := by
          generalize link.session.observe armed now = next at spec state
          cases spec with
          | note calm => exact state
          | abort outstanding arming => cases state
        have aligned := approved.granted before
        have known : link.session.generation ≠ none := by
          obtain ⟨recent, _, past, _, split, _, ⟨_, _, older, rest, marked, _⟩, _⟩ := aligned
          obtain ⟨_, generation, member⟩ := marked
          intro unknown
          have found := ledger.generation.trans unknown
          have missing := List.findSome?_eq_none_iff.mp found (.started generation)
            (by rw [split, rest]; simp [member])
          cases missing
        have fresh := ticked known before
        obtain ⟨last, heard, _, close⟩ := (link.session.controllerFresh_iff now).mp fresh
        have newest := ledger.controller
        rw [heard] at newest
        change AlignedSince (link.session.observe armed now).config.heartbeatTimeout [] _
        rw [config]
        exact (aligned.ahead newest close).heartbeat armed
  | reply result =>
      have config := link.session.reply_config result now
      have spec := link.session.reply_spec result now
      refine ⟨fun state => ?_, fun state => ?_⟩
      · change (link.session.reply result now).state = .awaitingAlignment at state
        have before : link.session.state = .awaitingAlignment := by
          generalize link.session.reply result now = next at spec state
          cases spec <;> assumption
        exact (approved.outstanding before).cons rfl
      · change (link.session.reply result now).state = .aligned at state
        change AlignedSince (link.session.reply result now).config.heartbeatTimeout [] _
        rw [config]
        generalize link.session.reply result now = next at spec state
        cases spec with
        | ignore => exact (approved.granted state).cons rfl rfl
        | align outstanding fresh disarmed granted =>
            obtain ⟨last, heard, _, _⟩ := (link.session.controllerFresh_iff now).mp fresh
            have newest := ledger.controller
            rw [heard, disarmed] at newest
            exact ⟨[], now, link.history, last, by rw [granted]; rfl, by simp,
              approved.outstanding outstanding, newest, List.IsChain.singleton last⟩
        | progress outstanding => cases outstanding.symm.trans state
        | retry outstanding left => cases state
        | refuse outstanding => cases state
  | note parser stats => exact approved.keep id id rfl (.inl rfl)
  | close reason => exact approved.keep (fun same => by cases same) (fun same => by cases same) rfl (.inl rfl)
  | drop unsent => exact approved.keep id id rfl (.inl rfl)
  | restart session generation whole allowed =>
      obtain ⟨_, _, _, rfl⟩ := FlightSession.start_ok allowed
      exact ⟨(fun same => by cases same), (fun same => by cases same)⟩
  | withdraw =>
      rcases link.endSession_cases with ⟨_, same⟩ | ⟨_, same⟩ <;> rw [same]
      · exact ⟨fun state => (approved.outstanding state).cons rfl,
          fun state => (approved.granted state).cons rfl rfl⟩
      · exact ⟨(fun same => by cases same), (fun same => by cases same)⟩
  | publish estimate measurement checks =>
      exact approved.keep id id rfl (.inr ⟨_, ⟨rfl, rfl, rfl⟩, rfl⟩)
  | request connected running idle due =>
      exact approved.keep id id rfl (.inr ⟨_, ⟨rfl, rfl, rfl⟩, rfl⟩)
  | beat connected idle => exact approved.keep id id rfl (.inr ⟨_, ⟨rfl, rfl, rfl⟩, rfl⟩)
  | part accepted allowed short => exact approved.keep id id rfl (.inr ⟨_, ⟨rfl, rfl, rfl⟩, rfl⟩)
  | sentMeasurement stats accepted allowed whole kind =>
      exact approved.keep id id rfl (.inr ⟨_, ⟨rfl, rfl, rfl⟩, rfl⟩)
  | sentAlignment session accepted allowed whole kind counted =>
      obtain ⟨due, rfl⟩ := FlightSession.alignmentSent_ok counted
      have known := ((link.session.canPublish_iff now).mp
        ((link.session.alignmentDue_iff now).mp due).2.1).1
      refine ⟨fun _ => ?_, (fun same => by cases same)⟩
      exact Since.now ⟨⟨_, rfl, kind, writeCall_complete now whole⟩, ledger.start_recorded known⟩
  | sentHeartbeat accepted allowed whole kind =>
      exact approved.keep id id rfl (.inr ⟨_, ⟨rfl, rfl, rfl⟩, rfl⟩)

/-- Ledger and approval agree at every point of every run. -/
theorem approved_inductive (config : MavlinkLinkConfig) (before : Int → Int → Prop) :
    Inductive before (fun _ (link : MavlinkLink R) => link.Ledger config ∧ link.Approved) :=
  (ledger_inductive config before).and (fun _ _ _ _ _ approved => approved)
    (fun _ _ _ _ moved ledger _ approved => approved.step moved ledger)

omit [Scalar R] in
/-- An armed controller receives measurements under an approved alignment only. -/
theorem Approved.measurement {config : MavlinkLinkConfig} {link : MavlinkLink R} {now time : Int}
    (ledger : link.Ledger config) (approved : link.Approved) (allowed : link.Sendable now) (kind : link.pendingKind = .measurement)
    (armed : latest LinkEvent.controller link.history = some (true, time)) :
    AlignedSince link.session.config.heartbeatTimeout [now] link.history := by
  have permitted := allowed.permitted
  rw [eligible, kind] at permitted
  obtain ⟨_, fresh, _, aligned⟩ := (link.session.canPublish_iff now).mp permitted
  obtain ⟨last, heard, _, close⟩ := (link.session.controllerFresh_iff now).mp fresh
  have newest := ledger.controller
  rw [heard, armed] at newest
  simp only [Option.map_some, Option.some.injEq, Prod.mk.injEq] at newest
  rw [← newest.1] at aligned
  refine (approved.granted (aligned.resolve_right (fun same => by cases same))).ahead armed ?_
  rwa [newest.2]

/-- In every run, each write of measurement bytes to a controller that last said armed happens in a
session whose alignment command was written and then accepted, with no heartbeat gap since. -/
theorem armed_publication_safe (packs : PacksFit R) {stream : Bool} {config : MavlinkLinkConfig}
    {transform : FrameTransform R} {counter : UInt8} {link : MavlinkLink R}
    (created : create stream config transform counter = .ok link) (operations : List (Operation R))
    {recent past : List (LinkEvent R)} {call : WriteCall} {time : Int}
    (handed : (link.run operations).history = recent ++ .handed call :: past)
    (measurement : call.kind = .measurement)
    (armed : latest LinkEvent.controller past = some (true, time)) :
    AlignedSince config.session.heartbeatTimeout [call.now] past := by
  have fresh := create_fresh created
  have lawful := (approved_inductive (R := R) config AnyOrder).handed
    (fun call past => call.kind = .measurement →
      ∀ time, latest LinkEvent.controller past = some (true, time) →
        AlignedSince config.session.heartbeatTimeout [call.now] past)
    (fun now link accepted _ held allowed kind time armed => by
      rw [← held.1.limits]
      exact held.2.measurement held.1 allowed kind armed)
  obtain ⟨_, _, always⟩ := lawful.run packs fresh.buffered
    (fun _ => ⟨⟨fresh.ledger, fresh.approved⟩, by rw [fresh.history]; exact always_nil⟩) operations
  exact always recent _ past handed call rfl measurement time armed

open SampleFlight in
/-- The flight writes a measurement to an armed controller. -/
theorem armed_publication_safe_flight : ∃ call past,
    (link.run flight).history = .handed call :: past ∧ call.kind = .measurement ∧
      latest LinkEvent.controller past = some (true, 5) ∧ AlignedSince 3000000000 [call.now] past := by
  obtain ⟨call, past, split, measurement⟩ := LinkEvent.newest_handed
    (fun call => call.kind = .measurement) (link.run flight).history (by decide +kernel)
  have measurement : call.kind = .measurement := of_decide_eq_true measurement
  have armed : latest LinkEvent.controller (link.run flight).history.tail = some (true, 5) := by
    decide +kernel
  rw [split, List.tail_cons] at armed
  exact ⟨call, past, split, measurement, armed, armed_publication_safe MavlinkCodec.packsFit created
    flight (by rw [split]; exact (List.nil_append _).symm) measurement armed⟩

end MavlinkLink
end Vio
