import Vio.Proof.Link.AlignmentDiscipline
import Vio.Proof.Link.Polls

namespace Vio
open Mavlink History

namespace FlightSession
variable {session : FlightSession} {now : Int}

/-- The session learns of no measurement and sends no request. -/
structure Passive (session next : FlightSession) : Prop where
  measurementTime : session.measurementTime = none → next.measurementTime = none
  state : session.state ≠ .awaitingAlignment → next.state ≠ .awaitingAlignment

theorem Passive.refl (session : FlightSession) : session.Passive session := ⟨id, id⟩

theorem Passive.fail (session : FlightSession) : session.Passive session.fail :=
  ⟨fun _ => rfl, fun _ same => by cases same⟩

/-- A tick sends no request. -/
theorem tick_passive (session : FlightSession) (now : Int) : session.Passive (session.tick now) := by
  have spec := session.tick_spec now
  generalize session.tick now = next at spec
  cases spec with
  | keep => exact .refl session
  | lose | expire => exact .fail session
  | revoke | wait | prime | retry => exact ⟨fun unknown => by simp [unknown], fun _ => by simp⟩

/-- A heartbeat sends no request. -/
theorem observe_passive (session : FlightSession) (armed : Bool) (now : Int) :
    session.Passive (session.observe armed now) := by
  have spec := session.observe_spec armed now
  generalize session.observe armed now = next at spec
  cases spec with
  | abort => exact ⟨fun _ => rfl, fun _ same => by cases same⟩
  | note => exact ⟨id, id⟩

/-- A reply sends no request. -/
theorem reply_passive (session : FlightSession) (result : AlignmentResult) (now : Int) :
    session.Passive (session.reply result now) := by
  have spec := session.reply_spec result now
  generalize session.reply result now = next at spec
  cases spec with
  | ignore => exact .refl session
  | progress => exact ⟨id, id⟩
  | refuse => exact .fail session
  | align | retry => exact ⟨id, fun _ => by simp⟩

end FlightSession

namespace MavlinkLink
variable {R : Type} [Mavlink R]

/-- Nothing can make the session wait for an alignment: none is pending, and none gets due. -/
structure Quiescent (link : MavlinkLink R) : Prop where
  measurement : link.pendingKind ≠ .measurement
  alignment : link.pendingKind ≠ .alignment
  unprimed : link.started = true → link.session.measurementTime = none

variable {link next : MavlinkLink R} {now : Int}

/-- The pending transmission stays, and the session is passive. -/
theorem Quiescent.keep (quiescent : link.Quiescent) (kind : next.pendingKind = link.pendingKind)
    (started : next.started = link.started) (passive : link.session.Passive next.session) :
    next.Quiescent where
  measurement := by
    rw [kind]
    exact quiescent.measurement
  alignment := by
    rw [kind]
    exact quiescent.alignment
  unprimed running := passive.measurementTime (quiescent.unprimed (started ▸ running))

/-- A link with an idle buffer. -/
theorem Quiescent.idle (kind : next.pendingKind = .none)
    (unprimed : next.started = true → next.session.measurementTime = none) : next.Quiescent :=
  ⟨by simp [kind], by simp [kind], unprimed⟩

theorem Quiescent.fail (link : MavlinkLink R) (reason : String) : (link.fail reason).Quiescent :=
  .idle rfl fun _ => rfl

theorem endSession_quiescent (link : MavlinkLink R) : link.endSession.Quiescent := by
  rcases link.endSession_cases with ⟨_, same⟩ | ⟨_, same⟩ <;> rw [same]
  · exact .idle rfl fun running => by cases running
  · exact .fail _ _

/-- A restarted link knows no measurement yet. -/
theorem restarted_quiescent {session : FlightSession} {generation : SessionGeneration}
    (allowed : link.session.start generation = .ok session) :
    (link.restarted session generation).Quiescent := by
  obtain ⟨_, _, _, rfl⟩ := FlightSession.start_ok allowed
  exact .idle rfl fun _ => rfl

variable [Scalar R]

/-- A step that queues no estimate keeps a quiescent link so, and the session does not begin to
wait for an alignment. -/
theorem Quiescent.step (quiescent : link.Quiescent) (moved : LinkStep now link next)
    (unpublished : heard LinkEvent.publication next.history =
      heard LinkEvent.publication link.history) :
    next.Quiescent ∧ (link.session.state ≠ .awaitingAlignment →
      next.session.state ≠ .awaitingAlignment) := by
  have keep (kind : next.pendingKind = link.pendingKind) (started : next.started = link.started)
      (passive : link.session.Passive next.session) : next.Quiescent ∧
        (link.session.state ≠ .awaitingAlignment → next.session.state ≠ .awaitingAlignment) :=
    ⟨quiescent.keep kind started passive, passive.state⟩
  cases moved with
  | tick => exact keep rfl rfl (link.session.tick_passive now)
  | observe armed ticked => exact keep rfl rfl (link.session.observe_passive armed now)
  | reply result => exact keep rfl rfl (link.session.reply_passive result now)
  | note parser stats unsent => exact keep rfl rfl (.refl _)
  | close reason => exact ⟨.fail link reason, fun _ same => by cases same⟩
  | drop unsent => exact ⟨.idle rfl quiescent.unprimed, id⟩
  | restart session generation whole allowed =>
      refine ⟨restarted_quiescent allowed, fun _ => ?_⟩
      obtain ⟨_, _, _, rfl⟩ := FlightSession.start_ok allowed
      exact fun same => by cases same
  | withdraw =>
      refine ⟨link.endSession_quiescent, fun calm => ?_⟩
      rcases link.endSession_cases with ⟨_, same⟩ | ⟨_, same⟩ <;> rw [same]
      · exact calm
      · exact fun same => by cases same
  | publish estimate measurement checks =>
      have queued : heard LinkEvent.publication (link.published estimate measurement now).history =
          heard LinkEvent.publication link.history ++ [estimate] := heard_cons_some rfl
      rw [queued] at unpublished
      have := congrArg List.length unpublished
      simp at this
  | request connected running idle due =>
      have fresh := ((link.session.alignmentDue_iff now).mp due).2.2.2.2.2
      obtain ⟨last, known, _⟩ := (link.session.measurementFresh_iff now).mp fresh
      rw [quiescent.unprimed running] at known
      cases known
  | beat connected idle => exact ⟨⟨by nofun, by nofun, quiescent.unprimed⟩, id⟩
  | part accepted allowed short => exact keep rfl rfl (.refl _)
  | sentMeasurement stats accepted allowed whole kind counted =>
      exact absurd kind quiescent.measurement
  | sentAlignment session accepted allowed whole kind counted => exact absurd kind quiescent.alignment
  | sentHeartbeat accepted allowed whole kind => exact ⟨.idle rfl quiescent.unprimed, id⟩

/-- The estimates of earlier steps stay queued ones. -/
theorem steps_publications (steps : Relation.ReflTransGen (LinkStep now) link next) :
    heard LinkEvent.publication link.history <+: heard LinkEvent.publication next.history := by
  induction steps with
  | refl => exact List.prefix_rfl
  | tail _ moved inductionHypothesis =>
      refine inductionHypothesis.trans ?_
      rcases moved.records with same | ⟨event, same, _⟩ <;> rw [same]
      cases publication : event.publication with
      | none =>
          rw [heard_cons_none publication]
      | some estimate =>
          rw [heard_cons_some publication]
          exact List.prefix_append _ _

/-- Without a publication the session does not come to wait for an alignment. -/
theorem Quiescent.steps (quiescent : link.Quiescent)
    (steps : Relation.ReflTransGen (LinkStep now) link next)
    (unpublished : heard LinkEvent.publication next.history =
      heard LinkEvent.publication link.history) :
    next.Quiescent ∧ (link.session.state ≠ .awaitingAlignment →
      next.session.state ≠ .awaitingAlignment) := by
  induction steps with
  | refl => exact ⟨quiescent, id⟩
  | @tail middle last before moved inductionHypothesis =>
      have grown := steps_publications before
      have grows := steps_publications (.single moved)
      rw [unpublished] at grows
      have same := grows.eq_of_length_le grown.length_le
      obtain ⟨reached, calm⟩ := inductionHypothesis same
      obtain ⟨kept, stays⟩ := reached.step moved (unpublished.trans same.symm)
      exact ⟨kept, fun state => stays (calm state)⟩

/-- A poll queues no estimate. -/
theorem Quiescent.poll (packs : PacksFit R) (buffered : link.Buffered) (quiescent : link.Quiescent)
    (now : Int) (transport : Transport) :
    (link.poll now transport).1.Quiescent ∧ (link.session.state ≠ .awaitingAlignment →
      (link.poll now transport).1.session.state ≠ .awaitingAlignment) := by
  refine quiescent.steps (poll_steps packs buffered now transport).1.links ?_
  exact (apply_publications packs buffered (.poll now transport)).trans (List.append_nil _)

end MavlinkLink
end Vio
