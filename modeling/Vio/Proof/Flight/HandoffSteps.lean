import Vio.Construction.FlightCapture
import Vio.Library.OneSlot
import Vio.Proof.Flight.Gating
import Vio.Proof.Link.MeasurementOrder

namespace Vio
open Mavlink History

namespace MavlinkLink
variable {R : Type} [Mavlink R] [Scalar R] {link next : MavlinkLink R} {now : Int}

/-- The next queued estimate must be newer than the last one. -/
def Newer (link : MavlinkLink R) (estimate : EstimatorEstimate R) : Prop :=
  ∀ last, link.lastEstimateTime = some last → last < estimate.timestamp

/-- The order check stays as it is, and no measurement enters the buffer. -/
structure Unqueued (link next : MavlinkLink R) : Prop where
  lastEstimateTime : next.lastEstimateTime = link.lastEstimateTime
  measurement : link.pendingKind ≠ .measurement → next.pendingKind ≠ .measurement

omit [Scalar R] in
theorem Unqueued.refl (link : MavlinkLink R) : link.Unqueued link := ⟨rfl, id⟩

omit [Scalar R] in
theorem Unqueued.newer (unqueued : link.Unqueued next) : next.Newer = link.Newer := by
  funext estimate
  rw [Newer, Newer, unqueued.lastEstimateTime]

/-- A step that publishes nothing queues no measurement. -/
theorem QuietStep.unqueued (moved : QuietStep now link next)
    (unpublished : heard LinkEvent.publication next.history =
      heard LinkEvent.publication link.history) : link.Unqueued next := by
  obtain ⟨moved, same⟩ := moved
  cases moved with
  | tick | observe | reply | note | part => exact ⟨rfl, id⟩
  | close | drop => exact ⟨rfl, fun _ => by nofun⟩
  | restart session generation whole allowed =>
      obtain ⟨_, _, later, rfl⟩ := FlightSession.start_ok allowed
      have kept : some generation = link.session.generation := same.generation
      exact absurd (later generation kept.symm) (UInt64.lt_irrefl _)
  | withdraw =>
      rcases link.endSession_cases with ⟨_, same⟩ | ⟨_, same⟩ <;> rw [same] <;>
        exact ⟨rfl, fun _ => by nofun⟩
  | publish estimate measurement checks =>
      have queued : heard LinkEvent.publication (link.published estimate measurement now).history =
          heard LinkEvent.publication link.history ++ [estimate] := heard_cons_some rfl
      rw [queued] at unpublished
      exact absurd unpublished (by simp)
  | request | beat => exact ⟨rfl, fun _ => by nofun⟩
  | sentMeasurement | sentAlignment | sentHeartbeat => exact ⟨rfl, fun _ => by nofun⟩

/-- Steps that publish nothing queue no measurement. -/
theorem Steps.unqueued (steps : Steps now link next)
    (unpublished : heard LinkEvent.publication next.history =
      heard LinkEvent.publication link.history) : link.Unqueued next := by
  induction steps with
  | refl => exact .refl _
  | @tail middle last before moved inductionHypothesis =>
      have grown := steps_publications (Steps.links before)
      have grows := steps_publications (Relation.ReflTransGen.single moved.1)
      rw [unpublished] at grows
      have same := grows.eq_of_length_le grown.length_le
      have earlier := inductionHypothesis same
      have later := QuietStep.unqueued moved (unpublished.trans same.symm)
      exact ⟨later.lastEstimateTime.trans earlier.lastEstimateTime,
        fun idle => later.measurement (earlier.measurement idle)⟩

/-- A call that starts no session and queues no estimate. -/
theorem apply_unqueued (packs : PacksFit R) (buffered : link.Buffered) (operation : Operation R)
    (other : ∀ generation, operation ≠ .startSession generation)
    (unpublished : link.queuedBy operation = none) : link.Unqueued (link.apply operation) := by
  have steps := apply_quiet packs buffered operation (operation.time.getD 0)
    (fun time timed => by rw [timed]; rfl) other
  have published := apply_publications packs buffered operation
  rw [unpublished] at published
  exact Steps.unqueued steps (published.trans (List.append_nil _))

/-- A publication that is queued was newer than the last one, and it is the last one then. -/
theorem publish_newer (packs : PacksFit R) (buffered : link.Buffered) (estimate : EstimatorEstimate R)
    (queued : (link.publish estimate now).2 = .ok .queued) :
    link.Newer estimate ∧
      (link.publish estimate now).1.lastEstimateTime = some estimate.timestamp := by
  rcases publish_cases packs buffered estimate now with
    ⟨result, rejected, same⟩ | ⟨thrown, _, same⟩ | ⟨measurement, checks, same⟩
  · rw [same] at queued
    exact absurd (Except.ok.inj queued) rejected
  · rw [same] at queued
    cases queued
  · rw [same]
    exact ⟨checks.newer, rfl⟩

omit [Scalar R] in
/-- A start leaves no measurement in the buffer. -/
theorem startSession_idle (link : MavlinkLink R) (generation : SessionGeneration)
    (idle : link.pendingKind ≠ .measurement) :
    (link.startSession generation).1.pendingKind ≠ .measurement := by
  unfold startSession
  split
  · exact fun same => by cases same
  split
  · exact idle
  · exact fun same => by cases same

omit [Scalar R] in
theorem endSession_idle (link : MavlinkLink R) : link.endSession.pendingKind ≠ .measurement :=
  link.endSession_quiescent.measurement

end MavlinkLink

/-- The stages of a capture before its session ends. -/
@[simp] def FlightStage.offers : FlightStage → Bool
  | .capturing _ | .loading _ | .judging | .ending _ => true
  | _ => false

/-- A move of the loop that neither starts nor ends a session. -/
structure FlightStage.Moves (before after : FlightStage) : Prop where
  offers : before.offers = true → after.offers = true
  works : after.works = true →
    before.works = true ∧ after ≠ .acquiring ∨ before.works = false ∧ after = .acquiring
  running : before.works = true → after.stopsWorker = false → before.stopsWorker = false

/-- What one action of the loop does to the link, with the move of the loop. -/
inductive HandStep {R : Type} [Mavlink R] [Scalar R] (flight next : Flight R) :
    FlightAction R → Prop
  | serve {action : FlightAction R} (same : next.generation = flight.generation)
      (link : next.link = flight.link ∨
        ∃ now transport, next.link = flight.link.apply (.poll now transport))
      (moves : flight.stage.Moves next.stage) : HandStep flight next action
  | publish (estimate : EstimatorEstimate R) (now later : Int)
      (same : next.generation = flight.generation) (offers : next.stage.offers = true)
      (loading : ∃ started, flight.stage = .loading started)
      (link : next.link = flight.link.apply (.publish estimate now)) :
      HandStep flight next (.publish estimate now later)
  | start (starting : flight.stage = .starting)
      (left : next.stage.works = false)
      (link : ∃ generation, next.link = flight.link.apply (.startSession generation)) :
      HandStep flight next .start
  | endSession (stopThrows : Bool) (same : next.generation = flight.generation)
      (offers : flight.stage.offers = true) (left : ∃ failed, next.stage = .unwinding failed)
      (link : next.link = flight.link.apply .endSession) :
      HandStep flight next (.endSession stopThrows)

namespace Flight
variable {R : Type} [Mavlink R] [Scalar R] {flight next : Flight R}

omit [Mavlink R] [Scalar R] in
/-- Where an exception leads, without a start or an end of the session. -/
theorem onThrow_moves {before after : FlightStage} (leads : before.onThrow = some after) :
    before.Moves after := by
  cases before <;> simp only [FlightStage.onThrow, Option.some.injEq, reduceCtorEq] at leads <;>
    subst leads <;> exact ⟨by simp, by simp, by simp⟩

theorem throws_hands {link : MavlinkLink R} {action : FlightAction R}
    (polled : link = flight.link ∨ ∃ now transport, link = flight.link.apply (.poll now transport))
    (thrown : ({ flight with link } : Flight R).throws = some next) : HandStep flight next action := by
  obtain ⟨stage, leads, rfl⟩ := Option.map_eq_some_iff.mp thrown
  exact .serve rfl polled (onThrow_moves leads)

/-- A pump is a poll of the link. -/
theorem pump_polls (link : MavlinkLink R) (input : Pump) :
    (pump link input).1 = link.apply (.poll input.now input.transport) := by
  unfold pump MavlinkLink.apply
  dsimp only
  split
  · rename_i same
    rw [same]
  · rename_i same
    rw [same]
    split <;> rfl

/-- What follows a `pump` that returned. -/
theorem pumped_hands {action : FlightAction R} {link : MavlinkLink R}
    (polled : link = flight.link ∨ ∃ now transport, link = flight.link.apply (.poll now transport))
    (input : Pump) (running : Bool) (pumps : flight.stage.pumps = true) :
    HandStep flight (({ flight with link } : Flight R).pumped input running) action := by
  unfold pumped again
  dsimp only
  cases before : flight.stage <;> rw [before] at pumps <;>
    simp only [FlightStage.pumps, reduceCtorEq] at pumps <;> dsimp only <;> split <;>
    exact .serve rfl polled (by rw [before]; exact ⟨by simp, by simp, by simp⟩)

/-- Every action of the loop does one of the listed things to the link. -/
theorem step_hands {action : FlightAction R} (moved : flight.step action = some next) :
    HandStep flight next action := by
  have still : flight.link = flight.link ∨
      ∃ now transport, flight.link = flight.link.apply (.poll now transport) := .inl rfl
  cases action with
  | stopping answer =>
      simp only [step] at moved
      split at moved
      · rename_i looping
        obtain rfl := Option.some.inj moved
        refine .serve rfl still ?_
        rw [looping]
        dsimp only
        split
        · exact ⟨by simp, by simp, by simp⟩
        · split <;> exact ⟨by simp, by simp, by simp⟩
      · rename_i checking
        obtain rfl := Option.some.inj moved
        refine .serve rfl still ?_
        rw [checking]
        dsimp only
        split <;> exact ⟨by simp, by simp, by simp⟩
      · rename_i judging
        obtain rfl := Option.some.inj moved
        refine .serve rfl still ?_
        rw [judging]
        exact ⟨by simp, by simp, by simp⟩
      · rename_i caught
        obtain rfl := Option.some.inj moved
        refine .serve rfl still ?_
        rw [caught]
        dsimp only
        split
        · exact ⟨by simp, by simp, by simp⟩
        · split <;> exact ⟨by simp, by simp, by simp⟩
      · cases moved
  | reserve fates =>
      simp only [step] at moved
      split at moved
      · rename_i reserving
        obtain rfl := Option.some.inj moved
        unfold reserve
        split <;> exact .serve rfl still (by rw [reserving]; exact ⟨by simp, by simp, by simp⟩)
      · cases moved
  | start =>
      simp only [step] at moved
      split at moved
      · rename_i starting
        obtain rfl := Option.some.inj moved
        unfold start
        dsimp only
        split
        · rename_i link thrown same
          exact .start starting rfl ⟨_, (congrArg Prod.fst same).symm⟩
        · rename_i link same
          exact .start starting rfl ⟨_, (congrArg Prod.fst same).symm⟩
      · cases moved
  | pump input =>
      simp only [step] at moved
      split at moved
      · cases moved
      rename_i pumps
      rw [Bool.not_eq_false] at pumps
      split at moved
      · rename_i elapsed
        obtain rfl := Option.some.inj moved
        refine .serve rfl still ?_
        cases before : flight.stage <;> rw [before] at elapsed <;>
          simp only [FlightStage.elapsed, reduceCtorEq] at elapsed
        exact ⟨by simp, by simp [again], by simp⟩
      · have polled : (pump flight.link input).1 = flight.link ∨ ∃ now transport,
            (pump flight.link input).1 = flight.link.apply (.poll now transport) :=
          .inr ⟨input.now, input.transport, pump_polls flight.link input⟩
        split at moved
        · rename_i same
          rw [same] at polled
          exact throws_hands polled moved
        · rename_i same
          rw [same] at polled
          obtain rfl := Option.some.inj moved
          exact pumped_hands polled input _ pumps
  | publish estimate now later =>
      simp only [step] at moved
      split at moved
      · rename_i started loading
        split at moved
        · rename_i link thrown same
          obtain ⟨stage, leads, rfl⟩ := Option.map_eq_some_iff.mp moved
          rw [show ({ flight with link } : Flight R).stage = .loading started from loading] at leads
          obtain rfl := Option.some.inj leads
          exact .publish estimate now later rfl rfl ⟨started, loading⟩ (congrArg Prod.fst same).symm
        · rename_i link result same
          obtain rfl := Option.some.inj moved
          refine .publish estimate now later rfl ?_ ⟨started, loading⟩ (congrArg Prod.fst same).symm
          dsimp only
          split <;> rfl
      · cases moved
  | clock now =>
      simp only [step] at moved
      split at moved
      · rename_i acquiring
        obtain rfl := Option.some.inj moved
        refine .serve rfl still ?_
        rw [acquiring]
        exact ⟨by simp, by simp, by simp⟩
      · rename_i started loading
        obtain rfl := Option.some.inj moved
        refine .serve rfl still ?_
        rw [loading]
        dsimp only
        split <;> exact ⟨by simp, by simp, by simp⟩
      · rename_i resting
        obtain rfl := Option.some.inj moved
        refine .serve rfl still ?_
        rw [resting]
        exact ⟨by simp, by simp, by simp⟩
      · cases moved
  | endSession stopThrows =>
      simp only [step] at moved
      split at moved
      · rename_i failed ending
        obtain rfl := Option.some.inj moved
        exact .endSession stopThrows rfl (by simp [ending]) ⟨_, rfl⟩ rfl
      · cases moved
  | poll now transport =>
      simp only [step] at moved
      split at moved
      · rename_i failed unwinding
        split at moved
        · rename_i link thrown same
          exact throws_hands (.inr ⟨now, transport, (congrArg Prod.fst same).symm⟩) moved
        · rename_i link same
          obtain rfl := Option.some.inj moved
          refine .serve rfl (.inr ⟨now, transport, (congrArg Prod.fst same).symm⟩) ?_
          rw [unwinding]
          exact ⟨by simp, by simp, by simp⟩
      · cases moved
  | joined error =>
      simp only [step] at moved
      split at moved
      · rename_i failed unwinding
        obtain rfl := Option.some.inj moved
        refine .serve rfl still ?_
        rw [unwinding]
        dsimp only
        split <;> exact ⟨by simp, by simp, by simp⟩
      · cases moved
  | proceed =>
      simp only [step] at moved
      split at moved
      · rename_i preparing
        obtain rfl := Option.some.inj moved
        refine .serve rfl still ?_
        rw [preparing]
        exact ⟨by simp, by simp, by simp⟩
      · rename_i saving
        obtain rfl := Option.some.inj moved
        refine .serve rfl still ?_
        rw [saving]
        exact ⟨by simp, by simp, by simp⟩
      · cases moved
  | throws => exact throws_hands still moved

end Flight

namespace FlightApplication
variable {R : Type} [Mavlink R] [Scalar R] {application next : FlightApplication R}
  {action : FlightApplicationAction R}

/-- What one action does to the set-up and to the loop. -/
inductive SetupStep (application next : FlightApplication R) : FlightApplicationAction R → Prop
  | worker (options : RunnerOptions R) (acquiring : application.flight.stage = .acquiring)
      (streaming : application.setup = .streaming options)
      (same : next.flight = application.flight) (working : next.setup = .working options) :
      SetupStep application next .worker
  | prepare {action : FlightApplicationAction R} (other : action ≠ .worker)
      (same : next.flight = application.flight)
      (unlaunched : application.flight.stage = .acquiring →
        (∀ options, application.setup ≠ .working options) ∧
          ∀ options, next.setup ≠ .working options) :
      SetupStep application next action
  | fly {action : FlightApplicationAction R} (other : action ≠ .worker) (flown : FlightAction R)
      (moved : application.flight.step flown = some next.flight)
      (given : flown ≠ .throws → action = .flight flown)
      (acquired : application.flight.stage = .acquiring → next.flight.stage = .caught ∨
        ∃ options, application.setup = .working options)
      (idle : next.flight.stage ≠ application.flight.stage → next.setup = .idle) :
      SetupStep application next action

/-- A move of the loop leaves the set-up or goes on with it. -/
theorem fly_setup {flown : FlightAction R} (other : action ≠ .worker)
    (given : flown ≠ .throws → action = .flight flown) (ready : flown ≠ .throws → application.ready)
    (moved : application.fly flown = some next) : SetupStep application next action := by
  obtain ⟨flight, stepped, rfl⟩ := Option.map_eq_some_iff.mp moved
  refine .fly other flown stepped given (fun acquiring => ?_) fun changed => if_neg changed
  by_cases thrown : flown = .throws
  · subst thrown
    obtain ⟨stage, leads, rfl⟩ := Option.map_eq_some_iff.mp stepped
    rw [acquiring] at leads
    exact .inl (Option.some.inj leads).symm
  · have done := ready thrown
    unfold FlightApplication.ready at done
    rw [acquiring] at done
    cases setup : application.setup <;> rw [setup] at done <;>
      simp only [Bool.false_eq_true] at done
    exact .inr ⟨_, rfl⟩

/-- Every action of the application is one of the listed ones. -/
theorem step_setup (moved : application.step action = some next) :
    SetupStep application next action := by
  cases action with
  | flight action =>
      by_cases thrown : action = .throws
      · subst thrown
        exact fly_setup (fun same => by cases same) (fun _ => rfl) (fun other => absurd rfl other) moved
      · simp only [FlightApplication.step] at moved
        split at moved
        · exact fly_setup (fun same => by cases same) (fun _ => rfl) (fun _ => ‹_›) moved
        · cases moved
  | makeEstimator =>
      simp only [FlightApplication.step] at moved
      split at moved
      · rename_i preparing _
        obtain rfl := Option.some.inj moved
        exact .prepare (fun same => by cases same) rfl fun acquiring => by simp [preparing] at acquiring
      · cases moved
  | cameraFromImu matrix =>
      simp only [FlightApplication.step] at moved
      split at moved
      · rename_i preparing _ _
        split at moved
        · exact fly_setup (fun same => by cases same) (fun other => absurd rfl other)
            (fun other => absurd rfl other) moved
        · obtain rfl := Option.some.inj moved
          exact .prepare (fun same => by cases same) rfl fun acquiring => by simp [preparing] at acquiring
      · cases moved
  | makeCamera =>
      simp only [FlightApplication.step] at moved
      split at moved
      · rename_i preparing _
        obtain rfl := Option.some.inj moved
        exact .prepare (fun same => by cases same) rfl fun acquiring => by simp [preparing] at acquiring
      · cases moved
  | prepareRecording recording =>
      simp only [FlightApplication.step] at moved
      split at moved
      · rename_i idle
        obtain rfl := Option.some.inj moved
        exact .prepare (fun same => by cases same) rfl fun _ => ⟨by simp [idle], by simp⟩
      · cases moved
  | imuDevices devices =>
      simp only [FlightApplication.step] at moved
      split at moved
      · rename_i recorded
        split at moved
        · obtain ⟨flight, stepped, rfl⟩ := Option.map_eq_some_iff.mp moved
          obtain ⟨stage, leads, rfl⟩ := Option.map_eq_some_iff.mp stepped
          refine .fly (fun same => by cases same) .throws stepped (fun other => absurd rfl other)
            (fun acquiring => ?_)
            fun changed => if_neg changed
          rw [acquiring] at leads
          exact .inl (Option.some.inj leads).symm
        · obtain rfl := Option.some.inj moved
          exact .prepare (fun same => by cases same) rfl fun _ => ⟨by simp [recorded], by simp⟩
      · cases moved
  | saveMetadata =>
      simp only [FlightApplication.step] at moved
      split at moved
      · rename_i sensing
        obtain rfl := Option.some.inj moved
        exact .prepare (fun same => by cases same) rfl fun _ => ⟨by simp [sensing], by simp⟩
      · cases moved
  | startCamera =>
      simp only [FlightApplication.step] at moved
      split at moved
      · rename_i described
        obtain rfl := Option.some.inj moved
        exact .prepare (fun same => by cases same) rfl fun _ => ⟨by simp [described], by simp⟩
      · cases moved
  | worker =>
      simp only [FlightApplication.step] at moved
      split at moved
      · rename_i options acquiring streaming
        obtain rfl := Option.some.inj moved
        exact .worker options acquiring streaming rfl rfl
      · cases moved

end FlightApplication
end Vio
