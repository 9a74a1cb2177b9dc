import Vio.Construction.MavlinkCodec
import Vio.Proof.Link.Polls

namespace Vio
open Mavlink History

namespace MavlinkLink
variable {R : Type} [Scalar R] [Mavlink R]

/-- No primitive step leaves the failed state. -/
theorem LinkStep.failed {now : Int} {link next : MavlinkLink R} (moved : LinkStep now link next)
    (failed : link.session.state = .failed) : next.session.state = .failed := by
  cases moved with
  | tick =>
      show (link.session.tick now).state = .failed
      rw [FlightSession.tick, if_pos (.inr failed)]
      exact failed
  | observe armed ticked =>
      show (link.session.observe armed now).state = .failed
      have spec := link.session.observe_spec armed now
      generalize link.session.observe armed now = next at spec
      cases spec with
      | note => exact failed
      | abort => rfl
  | reply result =>
      show (link.session.reply result now).state = .failed
      have open_ : link.session.state ≠ .awaitingAlignment := by simp [failed]
      unfold FlightSession.reply
      rw [if_pos (.inl open_)]
      exact failed
  | restart session generation whole allowed =>
      exact absurd failed (FlightSession.start_ok allowed).1
  | withdraw => rcases link.endSession_cases with ⟨_, same⟩ | ⟨_, same⟩ <;> rw [same]; exacts [failed, rfl]
  | sentAlignment session accepted allowed whole kind counted =>
      have due := (FlightSession.alignmentSent_ok counted).1
      have priming := ((link.session.alignmentDue_iff now).mp due).1
      rw [failed] at priming
      cases priming
  | close => rfl
  | note | drop | publish | request | beat | part | sentMeasurement | sentHeartbeat => exact failed

theorem steps_failed {now : Int} {link next : MavlinkLink R}
    (steps : Relation.ReflTransGen (LinkStep now) link next)
    (failed : link.session.state = .failed) : next.session.state = .failed := by
  induction steps with
  | refl => exact failed
  | tail _ moved inductionHypothesis => exact LinkStep.failed moved inductionHypothesis

/-- A failed session stays failed over every call, and nothing more is handed. -/
theorem apply_failed (packs : PacksFit R) {link : MavlinkLink R} (buffered : link.Buffered)
    (failed : link.session.state = .failed) (operation : Operation R) :
    (link.apply operation).session.state = .failed ∧
      heard LinkEvent.call (link.apply operation).history = heard LinkEvent.call link.history := by
  obtain ⟨now, timed⟩ : ∃ now, ∀ time, operation.time = some time → time = now := by
    cases time : operation.time with
    | none => exact ⟨0, fun _ same => by cases same⟩
    | some now => exact ⟨now, fun _ same => (Option.some.inj same).symm⟩
  refine ⟨steps_failed (apply_steps packs buffered operation now timed) failed, ?_⟩
  rcases apply_calls packs buffered operation with
    same | ⟨now, transport, waiting, call, rfl, _, _, _, _, permits⟩
  · exact same
  · have steps := tick_receiveBytes_steps link waiting now
    exact absurd (steps_failed (Steps.links steps) failed) permits.open_

theorem run_append (link : MavlinkLink R) (first second : List (Operation R)) :
    link.run (first ++ second) = (link.run first).run second := List.foldl_append

/-- Every operation leaves the buffer in order. -/
theorem apply_buffered (packs : PacksFit R) {link : MavlinkLink R} (buffered : link.Buffered)
    (operation : Operation R) : (link.apply operation).Buffered := by
  obtain ⟨now, timed⟩ : ∃ now, ∀ time, operation.time = some time → time = now := by
    cases time : operation.time with
    | none => exact ⟨0, fun _ same => by cases same⟩
    | some now => exact ⟨now, fun _ same => (Option.some.inj same).symm⟩
  exact Buffered.steps packs (apply_steps packs buffered operation now timed) buffered

/-- Every run leaves the buffer in order. -/
theorem run_buffered (packs : PacksFit R) {link : MavlinkLink R} (buffered : link.Buffered)
    (operations : List (Operation R)) : (link.run operations).Buffered := by
  induction operations generalizing link with
  | nil => exact buffered
  | cons operation operations inductionHypothesis =>
      exact inductionHypothesis (apply_buffered packs buffered operation)

/-- A failed link stays failed, and nothing more is handed to the stream. -/
theorem run_failed (packs : PacksFit R) {link : MavlinkLink R} (buffered : link.Buffered)
    (failed : link.session.state = .failed) (operations : List (Operation R)) :
    (link.run operations).session.state = .failed ∧
      heard LinkEvent.call (link.run operations).history = heard LinkEvent.call link.history := by
  induction operations generalizing link with
  | nil => exact ⟨failed, rfl⟩
  | cons operation operations inductionHypothesis =>
      obtain ⟨still, same⟩ := apply_failed packs buffered failed operation
      obtain ⟨last, all⟩ := inductionHypothesis (apply_buffered packs buffered operation) still
      exact ⟨last, all.trans same⟩

omit [Scalar R] in
/-- A failed session refuses every start. -/
theorem startSession_failed {link : MavlinkLink R} (failed : link.session.state = .failed)
    (generation : SessionGeneration) : ∃ thrown, (link.startSession generation).2 = .error thrown := by
  unfold startSession
  split
  · exact ⟨_, rfl⟩
  · rw [FlightSession.start, if_pos (.inl failed)]
    exact ⟨_, rfl⟩

/-- No write call of a run was made in the failed state. -/
theorem run_open (packs : PacksFit R) {link : MavlinkLink R} (buffered : link.Buffered)
    (initial : ∀ call ∈ heard LinkEvent.call link.history, call.session.state ≠ .failed)
    (operations : List (Operation R)) :
    ∀ call ∈ heard LinkEvent.call (link.run operations).history, call.session.state ≠ .failed := by
  induction operations generalizing link with
  | nil => exact initial
  | cons operation operations inductionHypothesis =>
      apply inductionHypothesis (apply_buffered packs buffered operation)
      rcases apply_calls packs buffered operation with
        same | ⟨_, _, _, call, _, _, _, _, more, permits⟩
      · rw [same]
        exact initial
      · rw [more]
        intro other member
        rcases List.mem_append.mp member with member | member
        · exact initial other member
        · rw [List.mem_singleton.mp member, permits.session]
          exact permits.open_

/-- The link fails closed: a failed session stays so, takes no start and hands no byte to the
stream, and no poll and no publication throws. -/
theorem fail_closed (packs : PacksFit R) {stream : Bool} {config : MavlinkLinkConfig}
    {transform : FrameTransform R} {counter : UInt8} {link : MavlinkLink R}
    (created : create stream config transform counter = .ok link) {operations : List (Operation R)}
    (nonnegative : ∀ time ∈ operations.filterMap Operation.time, 0 ≤ time) :
    (∀ before after, operations = before ++ after → (link.run before).session.state = .failed →
      (link.run operations).session.state = .failed ∧
      (∀ generation, ∃ thrown, ((link.run operations).startSession generation).2 = .error thrown) ∧
      heard LinkEvent.call (link.run operations).history =
        heard LinkEvent.call (link.run before).history) ∧
    (∀ call ∈ heard LinkEvent.call (link.run operations).history, call.session.state ≠ .failed) ∧
    (∀ before now transport after, operations = before ++ .poll now transport :: after →
      ((link.run before).poll now transport).2 = .ok ()) ∧
    ∀ before estimate now after, operations = before ++ .publish estimate now :: after →
      ∃ result, ((link.run before).publish estimate now).2 = .ok result := by
  have fresh := create_fresh created
  have buffered (before : List (Operation R)) := run_buffered packs fresh.buffered before
  refine ⟨?_, ?_, ?_, ?_⟩
  · intro before after split failed
    rw [split, run_append]
    obtain ⟨still, same⟩ := run_failed packs (buffered before) failed after
    exact ⟨still, fun generation => startSession_failed still generation, same⟩
  · apply run_open packs fresh.buffered
    rw [fresh.history]
    exact fun _ member => by cases member
  · intro before now transport after split
    exact (poll_steps packs (buffered before) now transport).2
  · intro before estimate now after split
    have positive : 0 ≤ now := nonnegative now (by simp [split, Operation.time])
    rcases publish_cases packs (buffered before) estimate now with
      ⟨result, _, same⟩ | ⟨_, negative, _⟩ | ⟨_, _, same⟩
    · exact ⟨result, by rw [same]⟩
    · omega
    · exact ⟨.queued, by rw [same]⟩

section Example
open SampleFlight

/-- The capture ends during the partial measurement, and the loop goes on. -/
def abandoned : List (Operation Exact) :=
  (flight ++ [.endSession]) ++ [.publish (estimate 7) 7, SampleFlight.poll 8 (SampleFlight.heartbeat false 3) 300]

/-- The session of the sample flight is abandoned in the middle of a packet. -/
theorem fail_closed_flight :
    (SampleFlight.link.run abandoned).session.state = .failed ∧
      (∀ generation, ∃ thrown,
        ((SampleFlight.link.run abandoned).startSession generation).2 = .error thrown) ∧
      heard LinkEvent.call (SampleFlight.link.run abandoned).history =
        heard LinkEvent.call (SampleFlight.link.run (flight ++ [.endSession])).history :=
  by
  have times : ∀ time ∈ abandoned.filterMap Operation.time, 0 ≤ time := by decide
  have failed : (SampleFlight.link.run (flight ++ [.endSession])).session.state = .failed := by
    decide +kernel
  exact (fail_closed MavlinkCodec.packsFit created times).1 _ _ rfl failed

end Example

end MavlinkLink
end Vio
