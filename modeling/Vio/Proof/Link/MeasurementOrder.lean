import Vio.Proof.Link.Freshness
import Vio.Proof.Link.InputFirst
import Vio.Proof.Link.TransmitFraming

namespace Vio
open Mavlink History

section Delivered
variable {R : Type} [Mavlink R]

/-- The estimate whose last bytes an event writes, by the transmission behind the buffer. -/
def deliveredBy (event : LinkEvent R) (past : List (LinkEvent R)) : Option (EstimatorEstimate R) :=
  match event with
  | .handed call =>
      if call.kind = .measurement ∧ call.Complete then
        match behind past with
        | some ⟨_, .measurement estimate _ _⟩ => some estimate
        | _ => none
      else none
  | _ => none

/-- The estimates that were completely written, in order. -/
def delivered : List (LinkEvent R) → List (EstimatorEstimate R)
  | [] => []
  | event :: past => delivered past ++ (deliveredBy event past).toList

/-- The estimates that were completely written since the last start of a session, in order. -/
def sessionDelivered : List (LinkEvent R) → List (EstimatorEstimate R)
  | [] => []
  | .started _ :: _ => []
  | event :: past => sessionDelivered past ++ (deliveredBy event past).toList

theorem delivered_cons_none {event : LinkEvent R} {past : List (LinkEvent R)}
    (none : deliveredBy event past = none) : delivered (event :: past) = delivered past := by
  rw [delivered, none]
  exact List.append_nil _

theorem sessionDelivered_cons {event : LinkEvent R} {past : List (LinkEvent R)}
    (same : event.generation = none) : sessionDelivered (event :: past) =
      sessionDelivered past ++ (deliveredBy event past).toList := by
  cases event with
  | started => cases same
  | ended | revoked | heartbeat | acknowledged | queued | handed => rfl

theorem sessionDelivered_cons_none {event : LinkEvent R} {past : List (LinkEvent R)}
    (same : event.generation = none) (none : deliveredBy event past = none) :
    sessionDelivered (event :: past) = sessionDelivered past := by
  rw [sessionDelivered_cons same, none]
  exact List.append_nil _

theorem deliveredBy_other {event : LinkEvent R} {past : List (LinkEvent R)}
    (other : event.call = none) : deliveredBy event past = none := by
  cases event with
  | handed => cases other
  | started | ended | revoked | heartbeat | acknowledged | queued => rfl

end Delivered

namespace MavlinkLink
variable {R : Type} [Mavlink R]

/-- What was written is in order and counted, and the buffer holds the newest estimate or none. -/
structure Delivering (link : MavlinkLink R) : Prop where
  ordered : (sessionDelivered link.history).Pairwise fun earlier later =>
    earlier.timestamp < later.timestamp
  bounded : ∀ estimate ∈ sessionDelivered link.history,
    ∃ last, link.lastEstimateTime = some last ∧ estimate.timestamp ≤ last
  published : (delivered link.history).Sublist (heard LinkEvent.publication link.history)
  counted : link.stats.measurementsSent = (delivered link.history).length
  pending : link.pendingKind = .measurement → ∃ status estimate pose speed before,
    behind link.history = some ⟨status, .measurement estimate pose speed⟩ ∧
    pose.usec = usec estimate.timestamp ∧ link.lastEstimateTime = some estimate.timestamp ∧
    (∀ earlier ∈ sessionDelivered link.history, earlier.timestamp < estimate.timestamp) ∧
    heard LinkEvent.publication link.history = before ++ [estimate] ∧
    (delivered link.history).Sublist before

/-- The event writes nothing and starts nothing, and it queues no estimate. -/
structure Calm (event : LinkEvent R) (past : List (LinkEvent R)) : Prop where
  generation : event.generation = none
  publication : event.publication = none
  delivered : deliveredBy event past = none

theorem Calm.delivered_cons {event : LinkEvent R} {past : List (LinkEvent R)} (calm : Calm event past) :
    Vio.delivered (event :: past) = Vio.delivered past ∧
      sessionDelivered (event :: past) = sessionDelivered past ∧
      heard LinkEvent.publication (event :: past) = heard LinkEvent.publication past :=
  ⟨delivered_cons_none calm.delivered, sessionDelivered_cons_none calm.generation calm.delivered,
    heard_cons_none calm.publication⟩

variable {link next : MavlinkLink R}

/-- The written estimates stay, and so does the pending one, or it leaves the buffer. -/
theorem Delivering.keep (delivering : link.Delivering)
    (history : next.history = link.history ∨
      ∃ event, Calm event link.history ∧ next.history = event :: link.history)
    (last : next.lastEstimateTime = link.lastEstimateTime)
    (sent : next.stats.measurementsSent = link.stats.measurementsSent)
    (pending : next.pendingKind = .measurement →
      link.pendingKind = .measurement ∧ behind next.history = behind link.history) :
    next.Delivering := by
  obtain ⟨all, session, publications⟩ : delivered next.history = delivered link.history ∧
      sessionDelivered next.history = sessionDelivered link.history ∧
      heard LinkEvent.publication next.history = heard LinkEvent.publication link.history := by
    rcases history with same | ⟨event, calm, same⟩ <;> rw [same]
    · exact ⟨rfl, rfl, rfl⟩
    · exact calm.delivered_cons
  refine ⟨?_, ?_, ?_, ?_, fun kind => ?_⟩
  · rw [session]
    exact delivering.ordered
  · rw [session, last]
    exact delivering.bounded
  · rw [all, publications]
    exact delivering.published
  · rw [sent, all]
    exact delivering.counted
  · obtain ⟨before, newest⟩ := pending kind
    rw [newest, last, session, publications, all]
    exact delivering.pending before

/-- A fresh link has delivered nothing. -/
theorem Fresh.delivering {config : MavlinkLinkConfig} (fresh : link.Fresh config) :
    link.Delivering where
  ordered := by rw [fresh.history]; exact .nil
  bounded := by rw [fresh.history]; exact fun _ member => by cases member
  published := by rw [fresh.history]; exact List.Sublist.refl _
  counted := by rw [fresh.history]; exact fresh.stats
  pending kind := by
    rw [fresh.pendingKind] at kind
    cases kind

/-- The last bytes of the pending measurement go out. -/
theorem Delivering.sent (delivering : link.Delivering) (kind : link.pendingKind = .measurement)
    (call : WriteCall) (measurement : call.kind = .measurement) (complete : call.Complete)
    (history : next.history = .handed call :: link.history)
    (last : next.lastEstimateTime = link.lastEstimateTime)
    (counted : next.stats.measurementsSent = link.stats.measurementsSent + 1)
    (idle : next.pendingKind = .none) : next.Delivering := by
  obtain ⟨status, estimate, pose, speed, before, newest, _, time, later, published, sublist⟩ :=
    delivering.pending kind
  have written : deliveredBy (.handed call) link.history = some estimate := by
    simp only [deliveredBy, measurement, complete, newest, and_self, if_true]
  have all : delivered next.history = delivered link.history ++ [estimate] := by
    rw [history, delivered, written]
    rfl
  have session : sessionDelivered next.history = sessionDelivered link.history ++ [estimate] := by
    rw [history, sessionDelivered_cons rfl, written]
    rfl
  refine ⟨?_, ?_, ?_, ?_, fun again => ?_⟩
  · rw [session]
    apply List.pairwise_append.mpr
    refine ⟨delivering.ordered, List.pairwise_singleton .., fun earlier member other same => ?_⟩
    rw [List.mem_singleton.mp same]
    exact later earlier member
  · rw [session, last]
    intro other member
    rcases List.mem_append.mp member with member | member
    · exact delivering.bounded other member
    · rw [List.mem_singleton.mp member]
      exact ⟨_, time, Int.le_refl _⟩
  · rw [all, history, heard_cons_none rfl, published]
    exact sublist.append (List.Sublist.refl _)
  · rw [counted, all, delivering.counted, List.length_append]
    rfl
  · rw [idle] at again
    cases again

variable [Scalar R]

/-- A delivery takes the newest queued estimate, which no earlier delivery took. -/
theorem Delivering.step {now : Int} (moved : LinkStep now link next) (delivering : link.Delivering) :
    next.Delivering := by
  -- An event without a write call and without a transmission.
  have plain (event : LinkEvent R) (generation : event.generation = none)
      (publication : event.publication = none) (call : event.call = none) :
      Calm event link.history := ⟨generation, publication, deliveredBy_other call⟩
  have handed {accepted : Nat} (unfinished : ¬ (link.writeCall accepted now).Complete ∨
      link.pendingKind ≠ .measurement) : Calm (.handed (link.writeCall accepted now)) link.history := by
    refine ⟨rfl, rfl, ?_⟩
    unfold deliveredBy
    dsimp only
    rw [if_neg]
    rintro ⟨kind, complete⟩
    rcases unfinished with short | other
    · exact short complete
    · exact other kind
  cases moved with
  | tick =>
      refine delivering.keep ?_ rfl rfl fun kind => ⟨kind, tick_behind link now⟩
      simp only [tick]
      split
      · exact .inr ⟨_, plain _ rfl rfl rfl, rfl⟩
      · exact .inl rfl
  | observe | reply =>
      exact delivering.keep (.inr ⟨_, plain _ rfl rfl rfl, rfl⟩) rfl rfl
        fun kind => ⟨kind, latest_cons_none rfl⟩
  | note parser stats unsent =>
      exact delivering.keep (.inl rfl) rfl unsent fun kind => ⟨kind, rfl⟩
  | close | drop => exact delivering.keep (.inl rfl) rfl rfl fun kind => by cases kind
  | restart session generation whole allowed =>
      refine ⟨.nil, (fun _ member => by cases member), ?_, ?_, (fun kind => by cases kind)⟩
      · show (delivered (_ :: link.history)).Sublist (heard _ (_ :: link.history))
        rw [delivered_cons_none rfl, heard_cons_none rfl]
        exact delivering.published
      · show link.stats.measurementsSent = (delivered (_ :: link.history)).length
        rw [delivered_cons_none rfl]
        exact delivering.counted
  | withdraw =>
      rcases link.endSession_cases with ⟨_, same⟩ | ⟨_, same⟩ <;> rw [same] <;>
        exact delivering.keep (.inr ⟨_, plain .ended rfl rfl rfl, rfl⟩) rfl rfl fun kind => by cases kind
  | publish estimate measurement checks =>
      have newer : ∀ earlier ∈ sessionDelivered link.history, earlier.timestamp < estimate.timestamp := by
        intro earlier member
        obtain ⟨last, known, before⟩ := delivering.bounded earlier member
        exact Int.lt_of_le_of_lt before (checks.newer last known)
      have same : delivered (link.published estimate measurement now).history = delivered link.history ∧
          sessionDelivered (link.published estimate measurement now).history =
            sessionDelivered link.history :=
        ⟨delivered_cons_none rfl, sessionDelivered_cons_none rfl rfl⟩
      have queued : heard LinkEvent.publication (link.published estimate measurement now).history =
          heard LinkEvent.publication link.history ++ [estimate] := heard_cons_some rfl
      refine ⟨?_, ?_, ?_, ?_, fun _ => ?_⟩
      · rw [same.2]
        exact delivering.ordered
      · rw [same.2]
        exact fun earlier member => ⟨_, rfl, Int.le_of_lt (newer earlier member)⟩
      · rw [same.1, queued]
        exact delivering.published.trans (List.sublist_append_left _ _)
      · rw [same.1]
        exact delivering.counted
      · rw [same.2, same.1, queued]
        refine ⟨_, estimate, _, _, _, latest_cons_some rfl, ?_, rfl, newer, rfl,
          delivering.published⟩
        show usec measurement.timestamp = _
        rw [(FrameTransform.transform_stamp checks.converted).1]
  | request | beat =>
      exact delivering.keep (.inr ⟨_, plain _ rfl rfl rfl, rfl⟩) rfl rfl fun kind => by cases kind
  | part accepted allowed short =>
      exact delivering.keep (.inr ⟨_, handed (.inl (writeCall_short now short)), rfl⟩) rfl rfl
        fun kind => ⟨kind, latest_cons_none rfl⟩
  | sentMeasurement stats accepted allowed whole kind counted =>
      exact delivering.sent kind (link.writeCall accepted now) kind
        (writeCall_complete now whole) rfl rfl counted rfl
  | sentAlignment session accepted allowed whole kind counted =>
      exact delivering.keep (.inr ⟨_, handed (.inr (by simp [kind])), rfl⟩) rfl rfl
        fun again => by cases again
  | sentHeartbeat accepted allowed whole kind =>
      exact delivering.keep (.inr ⟨_, handed (.inr (by simp [kind])), rfl⟩) rfl rfl
        fun again => by cases again

/-- The estimates of the publications of a run that returned `Queued`, in order. -/
def publishedIn : MavlinkLink R → List (Operation R) → List (EstimatorEstimate R)
  | _, [] => []
  | link, operation :: rest =>
      (link.queuedBy operation).toList ++ publishedIn (link.apply operation) rest

/-- The estimates that entered the buffer are those of the successful calls of `publish`. -/
theorem run_publications (packs : PacksFit R) (buffered : link.Buffered)
    (operations : List (Operation R)) :
    heard LinkEvent.publication (link.run operations).history =
      heard LinkEvent.publication link.history ++ link.publishedIn operations := by
  induction operations generalizing link with
  | nil => exact (List.append_nil _).symm
  | cons operation operations inductionHypothesis =>
      refine (inductionHypothesis (apply_buffered packs buffered operation)).trans ?_
      rw [apply_publications packs buffered operation, publishedIn, List.append_assoc]

/-- In every run in the order of time, each write of measurement bytes belongs to the running
session, to a fresh estimate of its generation that a publication of the run queued, and to a moment
that permits publication. -/
theorem no_stale_measurement (packs : PacksFit R) {stream : Bool} {config : MavlinkLinkConfig}
    {transform : FrameTransform R} {counter : UInt8} {link : MavlinkLink R}
    (created : create stream config transform counter = .ok link) {operations : List (Operation R)}
    (ordered : NonDecreasing operations) {recent past : List (LinkEvent R)} {call : WriteCall}
    (handed : (link.run operations).history = recent ++ .handed call :: past)
    (measurement : call.kind = .measurement) :
    ∃ estimate, CurrentMeasurement config call past estimate ∧
      estimate ∈ link.publishedIn operations := by
  obtain ⟨estimate, current⟩ := handed_current packs created ordered handed measurement
  refine ⟨estimate, current, ?_⟩
  have fresh := create_fresh created
  have published := run_publications packs fresh.buffered operations
  rw [fresh.history, heard_nil, List.nil_append] at published
  obtain ⟨transmission, pose, speed, newest, content, _⟩ := current.bytes
  obtain ⟨event, member, queued⟩ := List.exists_of_findSome?_eq_some newest
  have inside : event ∈ (link.run operations).history := by
    rw [handed]
    exact List.mem_append_right _ (List.mem_cons_of_mem _ member)
  have found : event.publication = some estimate := by
    cases event with
    | queued other =>
        obtain rfl := Option.some.inj queued
        obtain ⟨status, filled⟩ := other
        cases content
        rfl
    | _ => cases queued
  rw [← published]
  exact List.mem_reverse.mpr (List.mem_filterMap.mpr ⟨event, inside, found⟩)

open SampleFlight in
/-- The flight ends with a part of a fresh measurement, the second one of its publications. -/
theorem no_stale_measurement_flight : ∃ call past,
    (SampleFlight.link.run flight).history = .handed call :: past ∧ call.kind = .measurement ∧
      ∃ estimate, CurrentMeasurement {} call past estimate ∧
        estimate ∈ SampleFlight.link.publishedIn flight := by
  obtain ⟨call, past, split, measurement⟩ := LinkEvent.newest_handed
    (fun call => call.kind = .measurement) (SampleFlight.link.run flight).history (by decide +kernel)
  have measurement : call.kind = .measurement := of_decide_eq_true measurement
  exact ⟨call, past, split, measurement, no_stale_measurement MavlinkCodec.packsFit created
    (show NonDecreasing flight by unfold NonDecreasing; decide)
    (by rw [split]; exact (List.nil_append _).symm) measurement⟩

omit [Mavlink R] [Scalar R] in
/-- The microseconds of a packet follow the sensor time. -/
theorem usec_mono {earlier later : Int} (order : earlier ≤ later) : usec earlier ≤ usec later := by
  have := Int.tdiv_le_tdiv (show (0 : Int) < 1000 by decide) order
  unfold usec
  omega

/-- A completed write of measurement bytes ends with the packets of one estimate on the wire. -/
def Written (config : MavlinkLinkConfig) (call : WriteCall) (past : List (LinkEvent R)) : Prop :=
  call.kind = .measurement → call.Complete → ∃ status estimate pose speed,
    behind past = some ⟨status, .measurement estimate pose speed⟩ ∧
    deliveredBy (.handed call) past = some estimate ∧ pose.usec = usec estimate.timestamp ∧
    (speed.isSome = config.sendVelocity ∧ ∀ packet ∈ speed, packet.usec = pose.usec) ∧
    (⟨status, .measurement estimate pose speed⟩ : Transmission R).bytes config.source <:+
      wire (.handed call :: past)

omit [Scalar R] in
/-- A measurement that is completely written leaves its packets at the end of the wire. -/
theorem Delivering.written {config : MavlinkLinkConfig} {now : Int} (delivering : link.Delivering)
    (followed : link.Followed config) (buffered : link.Buffered) (allowed : link.Sendable now)
    (accepted : Nat) : Written config (link.writeCall accepted now) link.history := by
  intro kind complete
  obtain ⟨status, estimate, pose, speed, _, newest, stamp, _⟩ := delivering.pending kind
  obtain ⟨sender, writes, sound, _⟩ := followed
  obtain ⟨transmission, loaded, bytes, same, taken⟩ :=
    writes.handed buffered allowed.busy accepted now
  obtain rfl := Option.some.inj (same.symm.trans newest)
  have lawful := (sound.current _ _ loaded).1
  have accepts : (link.writeCall accepted now).accepted = (link.pending.drop link.pendingOffset).length :=
    complete
  have unsent := buffered.unsent allowed.busy
  refine ⟨status, estimate, pose, speed, newest, ?_, stamp, ?_, ?_⟩
  · simp only [deliveredBy, kind, complete, newest, and_self, if_true]
  · exact ⟨lawful.1, fun packet member => (lawful.2 packet member).1⟩
  · rw [taken, accepts, List.length_drop, List.take_of_length_le (by omega), ← bytes]
    exact List.suffix_append _ _

/-- The publication changes nothing of what goes out. -/
structure Untouched (link next : MavlinkLink R) : Prop where
  pending : next.pending = link.pending
  pendingOffset : next.pendingOffset = link.pendingOffset
  pendingKind : next.pendingKind = link.pendingKind
  pendingTimestamp : next.pendingTimestamp = link.pendingTimestamp
  pendingDeadline : next.pendingDeadline = link.pendingDeadline
  transmitStatus : next.transmitStatus = link.transmitStatus
  nextHeartbeat : next.nextHeartbeat = link.nextHeartbeat
  lastEstimateTime : next.lastEstimateTime = link.lastEstimateTime

/-- A publication that is refused changes nothing of what goes out. -/
theorem publish_untouched (packs : PacksFit R) (buffered : link.Buffered)
    (estimate : EstimatorEstimate R) (now : Int) (rejected : (link.publish estimate now).2 ≠ .ok .queued) :
    link.Untouched (link.publish estimate now).1 := by
  rcases publish_cases packs buffered estimate now with
    ⟨_, _, same⟩ | ⟨_, _, same⟩ | ⟨_, _, same⟩
  · rw [same]
    exact ⟨rfl, rfl, rfl, rfl, rfl, rfl, rfl, rfl⟩
  · rw [same]
    exact ⟨rfl, rfl, rfl, rfl, rfl, rfl, rfl, rfl⟩
  · rw [same] at rejected
    exact absurd rfl rejected

/-- Each estimate goes out at most once and in order: within one session the completely written
ones have increasing times, and they are among the publications that returned `Queued`, in order.
A publication that is not queued leaves the buffer, the transmit state and the order check alone. -/
theorem measurements_in_order (packs : PacksFit R) {stream : Bool} {config : MavlinkLinkConfig}
    {transform : FrameTransform R} {counter : UInt8} {link : MavlinkLink R}
    (created : create stream config transform counter = .ok link) (operations : List (Operation R)) :
    (∀ recent past, (link.run operations).history = recent ++ past →
      (sessionDelivered past).Pairwise fun earlier later =>
        earlier.timestamp < later.timestamp ∧ usec earlier.timestamp ≤ usec later.timestamp) ∧
    (∀ recent call past, (link.run operations).history = recent ++ .handed call :: past →
      Written config call past) ∧
    (delivered (link.run operations).history).Sublist (link.publishedIn operations) ∧
    (link.run operations).stats.measurementsSent =
      (delivered (link.run operations).history).length ∧
    ∀ estimate now, ((link.run operations).publish estimate now).2 ≠ .ok .queued →
      (link.run operations).Untouched ((link.run operations).publish estimate now).1 := by
  have fresh := create_fresh created
  have kept : Inductive AnyOrder
      (fun _ (link : MavlinkLink R) => link.Delivering ∧ link.Followed config) :=
    .of_state fun _ _ _ buffered moved held =>
      ⟨held.1.step moved, held.2.step packs moved buffered⟩
  have initial (_ : Int) : link.Delivering ∧ link.Followed config := ⟨fresh.delivering, fresh.followed⟩
  obtain ⟨_, ⟨delivering, _⟩, moments⟩ :=
    (kept.moments (fun past => (sessionDelivered past).Pairwise fun earlier later =>
      earlier.timestamp < later.timestamp) fun _ _ held => held.1.ordered).run packs fresh.buffered
      (fun clock => ⟨initial clock, fun recent past split => by
        rw [fresh.history] at split
        rw [(List.append_eq_nil_iff.mp split.symm).2]
        exact .nil⟩) operations
  obtain ⟨_, _, always⟩ :=
    (kept.handed (Written config) fun _ _ accepted buffered held allowed =>
      held.1.written held.2 buffered allowed accepted).run packs fresh.buffered
      (fun clock => ⟨initial clock, by rw [fresh.history]; exact always_nil⟩) operations
  refine ⟨fun recent past split => ?_, fun recent call past split => ?_, ?_, delivering.counted, ?_⟩
  · exact (moments recent past split).imp fun order => ⟨order, usec_mono (Int.le_of_lt order)⟩
  · exact always recent _ past split call rfl
  · have published := run_publications packs fresh.buffered operations
    rw [fresh.history, heard_nil, List.nil_append] at published
    rw [← published]
    exact delivering.published
  · intro estimate now rejected
    exact publish_untouched packs (run_buffered packs fresh.buffered operations) estimate now rejected

open SampleFlight in
/-- The flight writes one of the two estimates that it queued, and a second one is held back. -/
theorem measurements_in_order_flight :
    (delivered (SampleFlight.link.run flight).history).Sublist
      (SampleFlight.link.publishedIn flight) ∧
    (SampleFlight.link.run flight).stats.measurementsSent =
      (delivered (SampleFlight.link.run flight).history).length ∧
    (SampleFlight.link.run flight).stats.measurementsSent = 1 ∧
    (SampleFlight.link.run flight).Untouched
      ((SampleFlight.link.run flight).publish (estimate 6) 7).1 := by
  obtain ⟨_, _, sublist, counted, untouched⟩ :=
    measurements_in_order MavlinkCodec.packsFit created flight
  have rejected : ((SampleFlight.link.run flight).publish (estimate 6) 7).2 ≠ .ok .queued := by
    decide +kernel
  exact ⟨sublist, counted, by decide +kernel, untouched _ _ rejected⟩

end MavlinkLink
end Vio
