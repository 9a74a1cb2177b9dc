import Vio.Proof.Flight.HandoffSteps

namespace Vio
open Mavlink History OneSlot FlightStage

namespace FlightStage

theorem offers_works {stage : FlightStage} (offers : stage.offers = true) : stage.works = true ∧
    stage ≠ .acquiring ∧ stage.stopsWorker = false := by
  cases stage <;> simp at offers ⊢

end FlightStage

namespace HandStep
variable {R : Type} [Mavlink R] [Scalar R] {flight next : Flight R} {action : FlightAction R}

/-- The queued estimates are still taken out of the mailbox. -/
theorem sampled (packs : PacksFit R) (buffered : flight.link.Buffered)
    {stored : List (EstimatorEstimate R)} {estimates : Option (EstimatorEstimate R)}
    (published : ∀ estimate now later, action = .publish estimate now later →
      estimates = some estimate)
    (started : flight.stage = .starting → estimates = none) (moved : HandStep flight next action)
    (sampled : Sampled stored (heard LinkEvent.publication flight.link.history) estimates
      flight.link.Newer) :
    Sampled stored (heard LinkEvent.publication next.link.history) estimates next.link.Newer := by
  have keep {link : MavlinkLink R} (unqueued : flight.link.Unqueued link)
      (same : heard LinkEvent.publication link.history =
        heard LinkEvent.publication flight.link.history) :
      Sampled stored (heard LinkEvent.publication link.history) estimates link.Newer := by
    rw [same, unqueued.newer]
    exact sampled
  have call (operation : Operation R)
      (other : ∀ generation, operation ≠ .startSession generation)
      (none : flight.link.queuedBy operation = none) : Sampled stored
        (heard LinkEvent.publication (flight.link.apply operation).history) estimates
        (flight.link.apply operation).Newer := by
    refine keep (MavlinkLink.apply_unqueued packs buffered operation other none) ?_
    rw [MavlinkLink.apply_publications packs buffered operation, none, Option.toList_none,
      List.append_nil]
  cases moved with
  | serve same link moves =>
      rcases link with link | ⟨now, transport, link⟩
      · rw [link]
        exact sampled
      · rw [link]
        exact call _ (fun _ same => by cases same) rfl
  | publish estimate now later same offers loading link =>
      obtain rfl := published estimate now later rfl
      rw [link]
      by_cases queued : (flight.link.publish estimate now).2 = .ok .queued
      · have by_ : flight.link.queuedBy (.publish estimate now) = some estimate := by
          simp only [MavlinkLink.queuedBy, queued]
        obtain ⟨newer, last⟩ := MavlinkLink.publish_newer packs buffered estimate queued
        rw [MavlinkLink.apply_publications packs buffered, by_]
        refine sampled.take newer fun again => ?_
        exact Int.lt_irrefl _ (again estimate.timestamp last)
      · refine call _ (fun _ same => by cases same) ?_
        simp only [MavlinkLink.queuedBy]
  | start starting left link =>
      obtain ⟨generation, link⟩ := link
      rw [started starting, link, MavlinkLink.apply_publications packs buffered]
      rw [started starting] at sampled
      exact (List.append_nil _).symm ▸ sampled.clear _
  | endSession stopThrows same offers left link =>
      rw [link]
      exact call _ (fun _ same => by cases same) rfl

/-- A measurement is in the buffer only while the capture offers its snapshots. -/
theorem idle (packs : PacksFit R) (buffered : flight.link.Buffered)
    (moved : HandStep flight next action)
    (idle : flight.stage.offers = false → flight.link.pendingKind ≠ .measurement) :
    next.stage.offers = false → next.link.pendingKind ≠ .measurement := by
  intro outside
  cases moved with
  | serve same link moves =>
      have before : flight.stage.offers = false := by
        by_contra inside
        rw [moves.offers (Bool.not_eq_false _ ▸ inside)] at outside
        cases outside
      rcases link with link | ⟨now, transport, link⟩ <;> rw [link]
      · exact idle before
      · exact (MavlinkLink.apply_unqueued packs buffered (.poll now transport) nofun rfl).measurement
          (idle before)
  | publish estimate now later same offers loading link =>
      rw [offers] at outside
      cases outside
  | start starting left link =>
      obtain ⟨generation, link⟩ := link
      rw [link]
      exact flight.link.startSession_idle generation (idle (by rw [starting]; rfl))
  | endSession stopThrows same offers left link =>
      rw [link]
      exact flight.link.endSession_idle

/-- The worker that was not told to stop was not told before either. -/
theorem running (moved : HandStep flight next action) (inside : flight.stage.works = true)
    (goes : next.stage.stopsWorker = false) : flight.stage.stopsWorker = false := by
  cases moved with
  | serve same link moves => exact moves.running inside goes
  | publish estimate now later same offers loading link =>
      obtain ⟨started, loading⟩ := loading
      rw [loading]
      rfl
  | start starting left link =>
      rw [starting] at inside
      cases inside
  | endSession stopThrows same offers left link =>
      obtain ⟨failed, left⟩ := left
      rw [left] at goes
      cases goes

/-- The worker is there from its launch to the end of the capture. -/
theorem launched {absent : Prop} {before after : CaptureSetup R} (moved : HandStep flight next action)
    (launched : flight.stage.works = true → (absent ↔ flight.stage = .acquiring ∧
      ∀ options, before ≠ .working options))
    (free : flight.stage.works = false → absent)
    (acquired : flight.stage = .acquiring → next.stage = .caught ∨
      ∃ options, before = .working options)
    (idle : next.stage ≠ flight.stage → after = .idle) (inside : next.stage.works = true) :
    absent ↔ next.stage = .acquiring ∧ ∀ options, after ≠ .working options := by
  have there (works : flight.stage.works = true) (entered : next.stage ≠ .acquiring) :
      absent ↔ next.stage = .acquiring ∧ ∀ options, after ≠ .working options := by
    refine iff_of_false (fun none => ?_) fun both => entered both.1
    obtain ⟨acquiring, unlaunched⟩ := (launched works).mp none
    rcases acquired acquiring with caught | ⟨options, working⟩
    · rw [caught] at inside
      cases inside
    · exact unlaunched options working
  cases moved with
  | serve same link moves =>
      rcases moves.works inside with ⟨works, entered⟩ | ⟨outside, entered⟩
      · exact there works entered
      · refine iff_of_true (free outside) ⟨entered, fun options working => ?_⟩
        rw [idle (fun same => by rw [← same, inside] at outside; cases outside)] at working
        cases working
  | publish estimate now later same offers loading link =>
      obtain ⟨started, loading⟩ := loading
      refine there (by rw [loading]; rfl) fun entered => ?_
      rw [entered] at offers
      cases offers
  | start starting left link =>
      rw [left] at inside
      cases inside
  | endSession stopThrows same offers left link =>
      obtain ⟨failed, left⟩ := left
      exact there (offers_works offers).1 (by rw [left]; nofun)

/-- The call of the link, if there was one. -/
theorem called (moved : HandStep flight next action) :
    next.link = flight.link ∨ ∃ operation, next.link = flight.link.apply operation := by
  cases moved with
  | serve same link moves =>
      exact link.imp_right fun ⟨now, transport, link⟩ => ⟨.poll now transport, link⟩
  | publish estimate now later same offers loading link => exact .inr ⟨_, link⟩
  | start starting left link => exact .inr ⟨_, link.choose_spec⟩
  | endSession stopThrows same offers left link => exact .inr ⟨_, link⟩

/-- What the loop does to the link keeps the order of the deliveries. -/
theorem delivering (packs : PacksFit R) (buffered : flight.link.Buffered)
    (moved : HandStep flight next action) (delivering : flight.link.Delivering) :
    next.link.Delivering := by
  rcases moved.called with link | ⟨operation, link⟩ <;> rw [link]
  · exact delivering
  · have steps := MavlinkLink.apply_steps packs buffered operation (operation.time.getD 0)
      fun time timed => by rw [timed]; rfl
    generalize flight.link.apply operation = link at steps
    induction steps with
    | refl => exact delivering
    | tail _ moved inductionHypothesis => exact inductionHypothesis.step moved

/-- The generation changes only where a session starts. -/
theorem generation (packs : PacksFit R) (buffered : flight.link.Buffered)
    (moved : HandStep flight next action) (other : flight.stage ≠ .starting) :
    next.generation = flight.generation ∧
      next.link.session.generation = flight.link.session.generation := by
  have call (operation : Operation R) (other : ∀ generation, operation ≠ .startSession generation) :
      (flight.link.apply operation).session.generation = flight.link.session.generation := by
    have steps := MavlinkLink.apply_quiet packs buffered operation (operation.time.getD 0)
      (fun time timed => by rw [timed]; rfl) other
    generalize flight.link.apply operation = link at steps
    induction steps with
    | refl => rfl
    | tail _ moved inductionHypothesis => exact moved.2.generation.trans inductionHypothesis
  cases moved with
  | serve same link moves =>
      refine ⟨same, ?_⟩
      rcases link with link | ⟨now, transport, link⟩ <;> rw [link]
      exact call _ nofun
  | publish estimate now later same offers loading link =>
      rw [link]
      exact ⟨same, call _ nofun⟩
  | start starting left link => exact absurd starting other
  | endSession stopThrows same offers left link =>
      rw [link]
      exact ⟨same, call _ nofun⟩

end HandStep

namespace FlightCapture
variable {R : Type} [Mavlink R] [Scalar R] {config : MavlinkLinkConfig}
  {capture next : FlightCapture R}

/-- The loop, the worker and the mailbox belong to one session, and what was queued was taken out of
the mailbox. -/
structure Handoff (config : MavlinkLinkConfig) (capture : FlightCapture R) : Prop where
  gates : capture.application.Gates config
  delivering : capture.link.Delivering
  sampled : Sampled capture.stored (heard LinkEvent.publication capture.link.history)
    capture.estimates capture.link.Newer
  emptied : capture.worker = none → capture.estimates = none
  owned : ∀ worker, capture.worker = some worker →
    worker.options.generation = ⟨capture.application.flight.generation⟩ ∧
      capture.link.session.generation = some ⟨capture.application.flight.generation⟩
  mailed : ∀ estimate, capture.estimates = some estimate → estimate.status = .ready ∧
    estimate.generation = ⟨capture.application.flight.generation⟩
  launched : capture.stage.works = true → (capture.worker = none ↔ capture.stage = .acquiring ∧
    ∀ options, capture.application.setup ≠ .working options)
  running : capture.stage.stopsWorker = false →
    ∀ worker, capture.worker = some worker → worker.stop = false
  idle : capture.stage.offers = false → capture.link.pendingKind ≠ .measurement

/-- The communication thread goes on where it does not wait for the worker. -/
theorem step_main {action : FlightApplicationAction R}
    (moved : capture.step (.main action) = some next) : ∃ read application,
      (capture.stage.works = false → capture.worker = none) ∧ capture.reads action = some read ∧
      capture.application.step read = some application ∧
      next = { capture with application, worker := capture.workerAfter read application } := by
  simp only [step] at moved
  split at moved
  · cases moved
  rename_i waiting
  obtain ⟨read, given, moved⟩ := Option.bind_eq_some_iff.mp moved
  obtain ⟨application, stepped, rfl⟩ := Option.map_eq_some_iff.mp moved
  refine ⟨read, application, fun outside => ?_, given, stepped, rfl⟩
  by_contra there
  exact waiting ⟨Option.isSome_iff_ne_none.mpr there, outside⟩

omit [Scalar R] in
/-- A snapshot that the loop publishes is the one in the mailbox. -/
theorem reads_publish {action : FlightApplicationAction R} {estimate : EstimatorEstimate R}
    {now later : Int} (given : capture.reads action = some (.flight (.publish estimate now later))) :
    capture.estimates = some estimate := by
  unfold reads at given
  split at given
  · cases given
  · obtain ⟨found, same, read⟩ := Option.map_eq_some_iff.mp given
    cases read
    exact same
  · split at given <;> cases given
  · obtain ⟨_, _, read⟩ := Option.map_eq_some_iff.mp given
    cases read
  · rename_i other _ _
    obtain rfl := Option.some.inj given
    exact absurd rfl (other _ _ _)

omit [Scalar R] in
/-- The error that the loop finds is the one of the worker. -/
theorem reads_joined {action : FlightApplicationAction R} {error : Bool}
    (given : capture.reads action = some (.flight (.joined error))) :
    ∃ worker, capture.worker = some worker ∧ worker.done = some error := by
  unfold reads at given
  split at given
  · cases given
  · obtain ⟨_, _, read⟩ := Option.map_eq_some_iff.mp given
    cases read
  · split at given <;> cases given
  · obtain ⟨found, same, read⟩ := Option.map_eq_some_iff.mp given
    cases read
    exact Option.bind_eq_some_iff.mp same
  · rename_i other
    obtain rfl := Option.some.inj given
    exact absurd rfl (other _)

omit [Scalar R] in
/-- Every action but the launch keeps the worker, which stays stopped or is stopped now. -/
theorem workerAfter_other {read : FlightApplicationAction R} {application : FlightApplication R}
    (other : read ≠ .worker) : capture.workerAfter read application =
      capture.worker.map fun worker =>
        { worker with stop := worker.stop || application.flight.stage.stopsWorker } := by
  unfold workerAfter
  split
  · exact absurd rfl other
  · rfl

/-- The worker starts with the generation of the link's session. -/
theorem Handoff.worker (packs : PacksFit R) (handoff : capture.Handoff config)
    {application : FlightApplication R} {options : RunnerOptions R}
    (stepped : capture.application.step .worker = some application)
    (acquiring : capture.application.flight.stage = .acquiring)
    (streaming : capture.application.setup = .streaming options)
    (same : application.flight = capture.application.flight)
    (working : application.setup = .working options) :
    ({ capture with application, worker := some { options } } : FlightCapture R).Handoff config := by
  have gates := handoff.gates.step packs stepped
  have empty : capture.worker = none := (handoff.launched (by rw [stage, acquiring]; rfl)).mpr
    ⟨acquiring, fun options => by rw [streaming]; nofun⟩
  have none : capture.estimates = none := handoff.emptied empty
  have kept : application.flight.link = capture.link := congrArg Flight.link same
  refine ⟨gates, ?_, ?_, nofun, ?_, ?_, ?_, ?_, ?_⟩
  · change application.flight.link.Delivering
    rw [kept]
    exact handoff.delivering
  · change Sampled _ (heard _ application.flight.link.history) _ application.flight.link.Newer
    rw [kept]
    exact handoff.sampled
  · rintro worker ⟨⟩
    rw [link, same]
    exact ⟨(handoff.gates.generation options (.inr streaming)).2, handoff.gates.running acquiring⟩
  · intro estimate mail
    rw [none] at mail
    cases mail
  · refine fun _ => ⟨nofun, fun unlaunched => absurd working (unlaunched.2 options)⟩
  · rintro _ worker ⟨⟩
    rfl
  · intro outside
    rw [link, kept]
    rw [stage, same] at outside
    exact handoff.idle outside

omit [Scalar R] in
/-- The worker stays through an action of the loop. -/
theorem Handoff.keep (handoff : capture.Handoff config) {application : FlightApplication R}
    (free : capture.stage.works = false → capture.worker = none)
    (gates : application.Gates config) (delivering : application.flight.link.Delivering)
    (sampled : Sampled capture.stored (heard LinkEvent.publication application.flight.link.history)
      capture.estimates application.flight.link.Newer)
    (generation : capture.stage.works = true →
      application.flight.generation = capture.application.flight.generation ∧
        application.flight.link.session.generation = capture.link.session.generation)
    (launched : application.flight.stage.works = true →
      (capture.worker = none ↔ application.flight.stage = .acquiring ∧
        ∀ options, application.setup ≠ .working options))
    (running : capture.stage.works = true → application.flight.stage.stopsWorker = false →
      capture.stage.stopsWorker = false)
    (idle : application.flight.stage.offers = false →
      application.flight.link.pendingKind ≠ .measurement) :
    ({ capture with
        application
        worker := capture.worker.map fun worker =>
          { worker with stop := worker.stop || application.flight.stage.stopsWorker } } :
      FlightCapture R).Handoff config := by
  have works {worker : CaptureWorker R} (there : capture.worker = some worker) :
      capture.stage.works = true := by
    by_contra outside
    rw [free (Bool.not_eq_true _ ▸ outside)] at there
    cases there
  refine ⟨gates, delivering, sampled, ?_, ?_, ?_, ?_, ?_, idle⟩
  · exact fun empty => handoff.emptied (Option.map_eq_none_iff.mp empty)
  · intro worker mapped
    obtain ⟨before, there, rfl⟩ := Option.map_eq_some_iff.mp mapped
    obtain ⟨value, session⟩ := generation (works there)
    rw [link, value, session]
    exact handoff.owned before there
  · intro estimate mail
    cases there : capture.worker with
    | none =>
        have none := handoff.emptied there
        rw [none] at mail
        cases mail
    | some worker =>
        rw [(generation (works there)).1]
        exact handoff.mailed estimate mail
  · exact fun inside => Option.map_eq_none_iff.trans (launched inside)
  · intro goes worker mapped
    obtain ⟨before, there, rfl⟩ := Option.map_eq_some_iff.mp mapped
    have unstopped := handoff.running (running (works there) goes) before there
    have goes : application.flight.stage.stopsWorker = false := goes
    simp only [unstopped, goes, Bool.or_false]

/-- A move of the loop keeps what it took out of the mailbox. -/
theorem Handoff.main (packs : PacksFit R) (handoff : capture.Handoff config)
    {action : FlightApplicationAction R} (moved : capture.step (.main action) = some next) :
    next.Handoff config := by
  obtain ⟨read, application, free, given, stepped, rfl⟩ := step_main moved
  have gates := handoff.gates.step packs stepped
  cases FlightApplication.step_setup stepped with
  | worker options acquiring streaming same working =>
      have launched : capture.workerAfter .worker application = some { options } := by
        unfold workerAfter
        rw [working]
      rw [launched]
      exact handoff.worker packs stepped acquiring streaming same working
  | prepare other same unlaunched =>
      have kept : application.flight.link = capture.link := congrArg Flight.link same
      rw [workerAfter_other other]
      refine handoff.keep free gates ?_ ?_ ?_ ?_ ?_ ?_
      · rw [kept]
        exact handoff.delivering
      · rw [kept]
        exact handoff.sampled
      · exact fun _ => ⟨congrArg Flight.generation same, congrArg (·.session.generation) kept⟩
      · rw [same]
        intro inside
        refine (handoff.launched inside).trans (and_congr_right fun acquiring => ?_)
        exact iff_of_true (unlaunched acquiring).1 (unlaunched acquiring).2
      · rw [same]
        exact fun _ => id
      · rw [same]
        exact handoff.idle
  | fly other flown moved asked acquired idle =>
      have hand := Flight.step_hands moved
      have buffered := handoff.gates.flight.sound.buffered
      rw [workerAfter_other other]
      refine handoff.keep free gates (hand.delivering packs buffered handoff.delivering) ?_ ?_ ?_ ?_
        (hand.idle packs buffered handoff.idle)
      · refine hand.sampled packs buffered (fun estimate now later same => ?_) (fun starting => ?_)
          handoff.sampled
        · obtain rfl := asked (by rw [same]; nofun)
          rw [same] at given
          exact reads_publish given
        · exact handoff.emptied (free (by rw [stage, starting]; rfl))
      · refine fun inside => hand.generation packs buffered fun starting => ?_
        rw [stage, starting] at inside
        cases inside
      · exact fun inside => hand.launched handoff.launched free acquired idle inside
      · exact fun inside goes => hand.running inside goes

/-- The loop, the worker and the mailbox keep to one session. -/
theorem Handoff.step (packs : PacksFit R) (handoff : capture.Handoff config)
    {action : FlightCaptureAction R} (moved : capture.step action = some next) :
    next.Handoff config := by
  cases action with
  | main action => exact handoff.main packs moved
  | store timestamp positionWorldM velocityWorldMps worldFromImu =>
      simp only [FlightCapture.step] at moved
      split at moved
      · rename_i options stop there
        obtain rfl := Option.some.inj moved
        refine ⟨handoff.gates, handoff.delivering, handoff.sampled.store _, ?_, handoff.owned, ?_,
          handoff.launched, handoff.running, handoff.idle⟩
        · intro empty
          rw [there] at empty
          cases empty
        · rintro estimate ⟨⟩
          exact ⟨rfl, (handoff.owned _ there).1⟩
      · cases moved
  | done error =>
      simp only [FlightCapture.step] at moved
      split at moved
      · rename_i options stop there
        obtain rfl := Option.some.inj moved
        have launched (inside : capture.stage.works = true) := handoff.launched inside
        simp only [there, reduceCtorEq, false_iff] at launched
        refine ⟨handoff.gates, handoff.delivering, handoff.sampled, nofun, ?_, handoff.mailed,
          fun inside => iff_of_false nofun (launched inside), ?_, handoff.idle⟩
        · rintro worker ⟨⟩
          exact handoff.owned ⟨options, stop, none⟩ there
        · rintro goes worker ⟨⟩
          exact handoff.running goes ⟨options, stop, none⟩ there
      · cases moved
  | join =>
      simp only [FlightCapture.step] at moved
      split at moved
      · split at moved
        · cases moved
        rename_i outside
        obtain rfl := Option.some.inj moved
        exact ⟨handoff.gates, handoff.delivering, handoff.sampled.clear _, fun _ => rfl, nofun, nofun,
          fun inside => absurd inside outside, nofun, handoff.idle⟩
      · cases moved

theorem Handoff.run (packs : PacksFit R) {actions : List (FlightCaptureAction R)}
    (handoff : capture.Handoff config) (ran : capture.run actions = some next) :
    next.Handoff config := by
  refine PartialRun.invariant (·.Handoff config) ?_ ran handoff
  intro before action after moved handoff
  exact handoff.step packs moved

/-- The loop begins at its condition, with a new link. -/
theorem application_launched {store : SessionStore} {owner : OwnerFates} {fates : ReserveFates}
    {stream : Bool} {config : FlightConfig R} {calibration : Matrix3 R}
    {application : FlightApplication R}
    (launched : FlightApplication.launch store owner fates stream config calibration =
      some application) :
    application.flight.stage = .looping ∧ ∃ transform byte,
      MavlinkLink.create stream config.link transform byte = .ok application.flight.link := by
  unfold FlightApplication.launch at launched
  split at launched
  · cases launched
  rename_i transform _
  obtain ⟨flight, begun, rfl⟩ := Option.map_eq_some_iff.mp launched
  obtain ⟨_, byte, created⟩ := Flight.launch_sound begun
  refine ⟨?_, transform, byte, created⟩
  unfold Flight.launch at begun
  split at begun
  · cases begun
  split at begun
  · cases begun
  split at begun
  · cases begun
  · obtain rfl := Option.some.inj begun
    rfl

/-- The loop begins without a worker. -/
theorem launch_handoff {store : SessionStore} {owner : OwnerFates} {fates : ReserveFates}
    {stream : Bool} {config : FlightConfig R} {calibration : Matrix3 R}
    (launched : launch store owner fates stream config calibration = some capture) :
    capture.Handoff config.link := by
  obtain ⟨application, begun, rfl⟩ := Option.map_eq_some_iff.mp launched
  have gates := FlightApplication.launch_gates begun
  obtain ⟨looping, _, _, created⟩ := application_launched begun
  have fresh := MavlinkLink.create_fresh created
  refine ⟨gates, fresh.delivering, ?_, fun _ => rfl, nofun, nofun, fun inside => ?_, nofun,
    fun _ => ?_⟩
  · change Sampled [] (heard _ application.flight.link.history) none _
    rw [fresh.history]
    exact ⟨.refl _, nofun⟩
  · change application.flight.stage.works = true at inside
    rw [looping] at inside
    cases inside
  · change application.flight.link.pendingKind ≠ .measurement
    rw [fresh.pendingKind]
    nofun

/-- In every run of the two threads, with any traffic, snapshots and failures: the estimates that were
completely written are stored snapshots, each at most once and in the order in which the estimators
stored them; the loop only loads snapshots of the running session; and a measurement is in the buffer
only while the estimator of the session was not told to stop. -/
theorem written_in_store_order (packs : PacksFit R) {store : SessionStore} {owner : OwnerFates}
    {fates : ReserveFates} {stream : Bool} {config : FlightConfig R} {calibration : Matrix3 R}
    {first capture : FlightCapture R} {actions : List (FlightCaptureAction R)}
    (launched : launch store owner fates stream config calibration = some first)
    (ran : first.run actions = some capture) :
    (delivered capture.link.history).Sublist capture.stored ∧
    (∀ started estimate, capture.stage = .loading started → capture.estimates = some estimate →
      estimate.status = .ready ∧ capture.link.session.generation = some estimate.generation) ∧
    (capture.link.pendingKind = .measurement → ∃ worker, capture.worker = some worker ∧
      worker.stop = false ∧ capture.link.session.generation = some worker.options.generation) := by
  have handoff := (launch_handoff launched).run packs ran
  refine ⟨handoff.delivering.published.trans handoff.sampled.sublist, ?_, fun pending => ?_⟩
  · intro started estimate loading mail
    cases there : capture.worker with
    | none =>
        rw [handoff.emptied there] at mail
        cases mail
    | some worker =>
        obtain ⟨ready, generation⟩ := handoff.mailed estimate mail
        rw [generation]
        exact ⟨ready, (handoff.owned worker there).2⟩
  · have offers : capture.stage.offers = true := by
      by_contra outside
      exact handoff.idle (Bool.not_eq_true _ ▸ outside) pending
    have inside := offers_works offers
    cases there : capture.worker with
    | none => exact absurd ((handoff.launched inside.1).mp there).1 inside.2.1
    | some worker =>
        obtain ⟨value, session⟩ := handoff.owned worker there
        refine ⟨worker, rfl, handoff.running inside.2.2 worker there, ?_⟩
        rw [value]
        exact session

end FlightCapture

namespace SampleHandoff
open SampleFlight SampleApplication

/-- The camera looks along the y axis of the IMU, whose z axis points up. -/
def calibration : Matrix3 Exact := ⟨⟨1.0, 0.0, 0.0⟩, ⟨0.0, 0.0, -1.0⟩, ⟨0.0, 1.0, 0.0⟩⟩

def store (timestamp : Int) : FlightCaptureAction Exact :=
  let snapshot := estimate timestamp
  .store timestamp snapshot.positionWorldM snapshot.velocityWorldMps snapshot.worldFromImu

/-- The loop reads the mailbox after the second snapshot, and a third one comes too late. -/
def actions : List (FlightCaptureAction Exact) :=
  [FlightApplicationAction.flight (.stopping false), .flight .start,
    .flight (SampleCaptures.pump 1 (heartbeat false 0)), .flight (.stopping false),
    .cameraFromImu calibration, .makeCamera, .flight .proceed,
    .flight (SampleCaptures.pump 2 []), .prepareRecording ⟨"run-native-2", true⟩,
    .imuDevices (some (device, [])), .saveMetadata, .startCamera, .worker, .flight (.clock 3),
    .flight (SampleCaptures.pump 4 [])].map .main ++
  [store 5, store 6, .main (.flight (.publish (estimate 0) 7 8)), store 8] ++
  [FlightApplicationAction.flight (.pump
      { now := 9, transport := ⟨.ok [], .ok 300⟩, stopping := true, clock := 9 }),
    .flight (.stopping true), .flight (.endSession false)].map .main ++
  [.done false, .main (.flight (.joined true)), .join, .main (.flight .proceed)]

def launched : Option (FlightCapture Exact) :=
  FlightCapture.launch SampleCaptures.store {} {} true SampleApplication.config calibration

theorem ran : (launched.bind fun first => first.run actions).map (fun capture =>
    ((delivered capture.link.history).map (·.timestamp), capture.stored.map (·.timestamp))) =
      some ([6], [5, 6, 8]) := by
  decide +kernel

end SampleHandoff

open SampleHandoff in
/-- The one estimate that went out is the second of three snapshots. -/
theorem FlightCapture.written_in_store_order_newest : ∃ capture : FlightCapture Exact,
    (delivered capture.link.history).map (·.timestamp) = [6] ∧
      capture.stored.map (·.timestamp) = [5, 6, 8] ∧
      (delivered capture.link.history).Sublist capture.stored := by
  obtain ⟨capture, reached, times⟩ := Option.map_eq_some_iff.mp SampleHandoff.ran
  obtain ⟨first, begun, reached⟩ := Option.bind_eq_some_iff.mp reached
  obtain ⟨written, stored⟩ := Prod.mk.inj times
  exact ⟨capture, written, stored,
    (FlightCapture.written_in_store_order MavlinkCodec.packsFit begun reached).1⟩

end Vio
