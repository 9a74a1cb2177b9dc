import Vio.Construction.MavlinkCodec
import Vio.Proof.Link.Ledger

namespace Vio
open Mavlink History

namespace MavlinkLink
variable {R : Type} [Mavlink R]

/-- The buffer holds packets of one estimate of the running session. -/
structure Carries (link : MavlinkLink R) (now : Int) (estimate : EstimatorEstimate R)
    (pose : VisionPositionEstimate R) (speed : Option (VisionSpeedEstimate R)) : Prop where
  queued : ∃ status, behind link.history = some ⟨status, .measurement estimate pose speed⟩
  running : link.started = true
  generation : link.session.generation = some estimate.generation
  timestamp : link.pendingTimestamp = estimate.timestamp
  deadline : link.pendingDeadline = estimate.timestamp + link.session.config.maxEstimateAge
  notFuture : estimate.timestamp ≤ now
  resetCounter : pose.resetCounter = link.session.resetCounter
  stamp : pose.usec = usec estimate.timestamp

/-- A pending measurement is backed by an estimate of the running session. -/
def Backed (now : Int) (link : MavlinkLink R) : Prop :=
  link.pendingKind = .measurement → ∃ estimate pose speed, link.Carries now estimate pose speed

/-- The pending transmission and the identity of the session stay as they are. -/
structure SamePending (link next : MavlinkLink R) : Prop where
  kind : next.pendingKind = link.pendingKind
  timestamp : next.pendingTimestamp = link.pendingTimestamp
  deadline : next.pendingDeadline = link.pendingDeadline
  started : next.started = link.started
  generation : next.session.generation = link.session.generation
  resetCounter : next.session.resetCounter = link.session.resetCounter
  limits : next.session.config = link.session.config
  behind : behind next.history = behind link.history

/-- A step that leaves the pending transmission leaves its estimate. -/
theorem Backed.keep {now : Int} {link next : MavlinkLink R} (backed : link.Backed now)
    (same : link.SamePending next) : next.Backed now := by
  intro kind
  obtain ⟨estimate, pose, speed, queued, running, generation, timestamp, deadline, notFuture, reset,
    stamp⟩ := backed (same.kind.symm.trans kind)
  exact ⟨estimate, pose, speed, by rwa [same.behind], same.started.trans running,
    same.generation.trans generation, same.timestamp.trans timestamp,
    by rw [same.deadline, same.limits, deadline], notFuture, by rw [same.resetCounter, reset], stamp⟩

theorem Backed.idle {now : Int} {link : MavlinkLink R} (other : link.pendingKind ≠ .measurement) :
    link.Backed now := fun kind => absurd kind other

variable [Scalar R]

/-- A queued measurement expires exactly when its estimate grows too old. -/
theorem Publishable.carries {now : Int} {link : MavlinkLink R} {estimate : EstimatorEstimate R}
    {measurement : ArduPilotMeasurement R} (checks : link.Publishable estimate measurement now) :
    ∃ estimate' pose speed, (link.published estimate measurement now).Carries now estimate' pose speed := by
  obtain ⟨generation, current, valid⟩ := checks.valid
  have positive := link.session.timeouts_positive.2.2.2
  obtain ⟨same, _, notFuture, _⟩ := validateEstimate_none (by omega) valid
  have stamp := (FrameTransform.transform_stamp checks.converted).1
  refine ⟨estimate, link.posePacket measurement, _, ⟨link.transmitStatus, latest_cons_some rfl⟩,
    checks.running, by rw [same]; exact current, stamp, ?_, notFuture, rfl,
    congrArg usec stamp⟩
  change now + (link.session.config.maxEstimateAge - (now - measurement.timestamp)) =
    estimate.timestamp + link.session.config.maxEstimateAge
  omega

/-- A measurement in the buffer stays the one of its estimate, and a new one was checked. -/
theorem Backed.step {now : Int} {link next : MavlinkLink R} (moved : LinkStep now link next)
    (backed : link.Backed now) : next.Backed now := by
  cases moved with
  | tick =>
      exact backed.keep ⟨rfl, rfl, rfl, rfl, (link.session.tick_controller now).generation,
        (link.session.tick_same now).resetCounter, link.session.tick_config now, tick_behind link now⟩
  | observe armed ticked =>
      exact backed.keep ⟨rfl, rfl, rfl, rfl, (link.session.observe_controller armed now).2.2,
        (link.session.observe_same armed now).resetCounter, link.session.observe_config armed now,
        latest_cons_none rfl⟩
  | reply result =>
      exact backed.keep ⟨rfl, rfl, rfl, rfl, (link.session.reply_controller result now).generation,
        (link.session.reply_same result now).resetCounter, link.session.reply_config result now,
        latest_cons_none rfl⟩
  | note parser stats => exact backed.keep ⟨rfl, rfl, rfl, rfl, rfl, rfl, rfl, rfl⟩
  | part accepted allowed short =>
      exact backed.keep ⟨rfl, rfl, rfl, rfl, rfl, rfl, rfl, latest_cons_none rfl⟩
  | publish estimate measurement checks => exact fun _ => checks.carries
  | withdraw =>
      rcases link.endSession_cases with ⟨_, same⟩ | ⟨_, same⟩ <;> rw [same]
      all_goals exact .idle (fun same => by cases same)
  | close | drop | restart | request | beat | sentMeasurement | sentAlignment | sentHeartbeat =>
      exact .idle (fun same => by cases same)

/-- The ledger and the estimate behind the buffer are kept together, for the second needs the first. -/
theorem backed_inductive (config : MavlinkLinkConfig) :
    Inductive (· ≤ ·) (fun now (link : MavlinkLink R) => link.Ledger config ∧ link.Backed now) := by
  refine (ledger_inductive config (· ≤ ·)).and ?_ fun _ _ _ _ moved _ _ backed => backed.step moved
  intro time later link order _ backed kind
  obtain ⟨estimate, pose, speed, carries⟩ := backed kind
  exact ⟨estimate, pose, speed, { carries with notFuture := Int.le_trans carries.notFuture order }⟩

/-- The bytes of a write call come from a fresh estimate of the running session. -/
structure CurrentMeasurement (config : MavlinkLinkConfig) (call : WriteCall)
    (past : List (LinkEvent R)) (estimate : EstimatorEstimate R) : Prop where
  /-- The bytes end the packets of the newest queued transmission, which the estimate filled. -/
  bytes : ∃ transmission pose speed, behind past = some transmission ∧
    transmission.content = .measurement estimate pose speed ∧
    pose.usec = usec estimate.timestamp ∧
    call.bytes <:+ transmission.bytes config.source
  /-- The last session boundary is the start of the estimate's generation. -/
  running : latest LinkEvent.boundary past = some (some estimate.generation)
  generation : call.session.generation = some estimate.generation
  notFuture : estimate.timestamp ≤ call.now
  notStale : call.now - estimate.timestamp ≤ config.session.maxEstimateAge
  permitted : call.session.canPublish call.now = true

omit [Scalar R] in
/-- A measurement that goes out is of an estimate that is still current. -/
theorem Backed.measurement {config : MavlinkLinkConfig} {link : MavlinkLink R} {now : Int}
    (buffered : link.Buffered) (ledger : link.Ledger config) (backed : link.Backed now)
    (allowed : link.Sendable now) (kind : link.pendingKind = .measurement) (accepted : Nat) :
    ∃ estimate, CurrentMeasurement config (link.writeCall accepted now) link.history estimate := by
  obtain ⟨estimate, pose, speed, carries⟩ := backed kind
  obtain ⟨status, queued⟩ := carries.queued
  obtain ⟨transmission, same, _, bytes⟩ := buffered.filled allowed.busy
  have permitted := allowed.permitted
  rw [eligible, kind] at permitted
  have timely := allowed.timely
  rw [carries.deadline, ledger.limits] at timely
  obtain ⟨generation, started, current⟩ := ledger.running carries.running
  have same_generation := Option.some.inj (current.symm.trans carries.generation)
  refine ⟨estimate, ⟨_, pose, speed, queued, rfl, carries.stamp, ?_⟩, by rw [started, same_generation],
    carries.generation, carries.notFuture, ?_, permitted⟩
  · have filled := Option.some.inj (same.symm.trans queued)
    rw [← filled, ← ledger.configured, bytes]
    exact List.drop_suffix _ _
  · change now - estimate.timestamp ≤ _
    omega

/-- Each write of measurement bytes is one of a fresh estimate. -/
theorem handed_current (packs : PacksFit R) {stream : Bool} {config : MavlinkLinkConfig}
    {transform : FrameTransform R} {counter : UInt8} {link : MavlinkLink R}
    (created : create stream config transform counter = .ok link) {operations : List (Operation R)}
    (ordered : NonDecreasing operations) {recent past : List (LinkEvent R)} {call : WriteCall}
    (handed : (link.run operations).history = recent ++ .handed call :: past)
    (measurement : call.kind = .measurement) :
    ∃ estimate, CurrentMeasurement config call past estimate := by
  have fresh := create_fresh created
  have lawful := (backed_inductive (R := R) config).handed
    (fun call past => call.kind = .measurement →
      ∃ estimate, CurrentMeasurement config call past estimate)
    (fun now link accepted buffered held allowed kind =>
      held.2.measurement buffered held.1 allowed kind accepted)
  obtain ⟨_, _, always⟩ := lawful.run_ordered packs fresh.buffered
    (fun _ => ⟨⟨fresh.ledger, .idle (by simp [fresh.pendingKind])⟩,
      by rw [fresh.history]; exact always_nil⟩) ordered
  exact always recent _ past handed call rfl measurement

end MavlinkLink
end Vio
