import Mathlib.Tactic.Common
import Vio.Construction.MavlinkLink
import Vio.Library.History
import Vio.Library.Timed

namespace Vio
open Mavlink History

namespace MavlinkLink
variable {R : Type} [Mavlink R]

/-- The part of `heartbeat` between its two ticks, on record. -/
def observe (link : MavlinkLink R) (armed : Bool) (now : Int) : MavlinkLink R :=
  { link with
    session := link.session.observe armed now
    history := .heartbeat armed now :: link.history }

/-- The part of `acknowledge` after its tick, on record. -/
def reply (link : MavlinkLink R) (result : AlignmentResult) (now : Int) : MavlinkLink R :=
  { link with
    session := link.session.reply result now
    history := .acknowledged result now :: link.history }

/-- The status after consecutive packs. -/
def statusAfter (source : MavlinkAddress) (status : Status R) (messages : List (Outgoing R)) :
    Status R :=
  messages.foldl (fun status message => (pack source status message).2) status

/-- The idle buffer after one transmission was queued. -/
def filled (link : MavlinkLink R) (content : Content R) (deadline now : Int) : MavlinkLink R :=
  { link with
    transmitStatus := statusAfter link.config.source link.transmitStatus content.messages
    pending := encode link.config.source link.transmitStatus content.messages
    pendingKind := content.kind
    pendingDeadline := deadline
    history := .queued ⟨link.transmitStatus, content⟩ now :: link.history }

/-- The link after a successful `start_session`. -/
def restarted (link : MavlinkLink R) (session : FlightSession) (generation : SessionGeneration) :
    MavlinkLink R :=
  { link.clearPending with
    session
    lastEstimateTime := none
    started := true
    history := .started generation :: link.history }

/-- The link after a write that left a rest. -/
def partly (link : MavlinkLink R) (accepted : Nat) (now : Int) : MavlinkLink R :=
  { link.record (.handed (link.writeCall accepted now)) with
    pendingOffset := link.pendingOffset + (link.writeCall accepted now).accepted }

/-- The link after the write of the last bytes of a transmission. -/
def sent (link : MavlinkLink R) (session : FlightSession) (stats : MavlinkLinkStats) (accepted : Nat)
    (now : Int) : MavlinkLink R :=
  { (link.record (.handed (link.writeCall accepted now))).clearPending with session, stats }

/-- The poll may hand the pending transmission to the stream. -/
structure Sendable (link : MavlinkLink R) (now : Int) : Prop where
  connected : link.stream = true
  busy : link.pendingKind ≠ .none
  permitted : link.eligible now = true
  timely : now ≤ link.pendingDeadline

/-- The checks that `publish` makes before it queues an estimate. -/
structure Publishable [Scalar R] (link : MavlinkLink R) (estimate : EstimatorEstimate R)
    (measurement : ArduPilotMeasurement R) (now : Int) : Prop where
  connected : link.stream = true
  running : link.started = true
  idle : link.pendingKind = .none
  permitted : link.session.canPublish now = true
  valid : ∃ generation, link.session.generation = some generation ∧
    validateEstimate estimate generation now link.session.config.maxEstimateAge = .ok .none
  newer : ∀ last, link.lastEstimateTime = some last → last < estimate.timestamp
  converted : link.transform.transform estimate = .ok measurement

section Queued
variable [Scalar R]

def measurementContent (link : MavlinkLink R) (estimate : EstimatorEstimate R)
    (measurement : ArduPilotMeasurement R) : Content R :=
  .measurement estimate (link.posePacket measurement)
    (if link.config.sendVelocity then some (link.speedPacket measurement) else none)

/-- The link after `publish` returned `Queued`. -/
def published (link : MavlinkLink R) (estimate : EstimatorEstimate R)
    (measurement : ArduPilotMeasurement R) (now : Int) : MavlinkLink R :=
  { link.filled (link.measurementContent estimate measurement)
      (now + (link.session.config.maxEstimateAge - (now - measurement.timestamp))) now with
    pendingTimestamp := measurement.timestamp
    lastEstimateTime := some estimate.timestamp }

end Queued

end MavlinkLink

/-- What one primitive step of the link can do at the time `now`. -/
inductive LinkStep {R : Type} [Scalar R] [Mavlink R] (now : Int) :
    MavlinkLink R → MavlinkLink R → Prop
  | tick (link : MavlinkLink R) : LinkStep now link (link.tick now)
  | observe (link : MavlinkLink R) (armed : Bool)
      (ticked : link.session.generation ≠ none → link.session.state = .aligned →
        link.session.controllerFresh now = true) : LinkStep now link (link.observe armed now)
  | reply (link : MavlinkLink R) (result : AlignmentResult) :
      LinkStep now link (link.reply result now)
  /-- A received byte that completes no message for the session. -/
  | note (link : MavlinkLink R) (parser : Parser R) (stats : MavlinkLinkStats)
      (unsent : stats.measurementsSent = link.stats.measurementsSent) :
      LinkStep now link { link with parser, stats }
  | close (link : MavlinkLink R) (reason : String) : LinkStep now link (link.fail reason)
  | drop (link : MavlinkLink R) (unsent : link.pendingOffset = 0) :
      LinkStep now link link.clearPending
  | restart (link : MavlinkLink R) (session : FlightSession) (generation : SessionGeneration)
      (whole : link.pendingOffset = 0) (allowed : link.session.start generation = .ok session) :
      LinkStep now link (link.restarted session generation)
  | withdraw (link : MavlinkLink R) : LinkStep now link link.endSession
  | publish (link : MavlinkLink R) (estimate : EstimatorEstimate R)
      (measurement : ArduPilotMeasurement R) (checks : link.Publishable estimate measurement now) :
      LinkStep now link (link.published estimate measurement now)
  | request (link : MavlinkLink R) (connected : link.stream = true) (running : link.started = true)
      (idle : link.pendingKind = .none) (due : link.session.alignmentDue now = true) :
      LinkStep now link (link.filled (.alignment link.alignmentCommand)
        (now + link.config.session.alignmentTimeout) now)
  | beat (link : MavlinkLink R) (connected : link.stream = true) (idle : link.pendingKind = .none) :
      LinkStep now link { link.filled (.heartbeat MavlinkLink.onboardHeartbeat)
        (now + 1000000000) now with nextHeartbeat := now + 1000000000 }
  | part (link : MavlinkLink R) (accepted : Nat) (allowed : link.Sendable now)
      (short : link.pendingOffset + accepted < link.pending.length) :
      LinkStep now link (link.partly accepted now)
  | sentMeasurement (link : MavlinkLink R) (stats : MavlinkLinkStats) (accepted : Nat)
      (allowed : link.Sendable now) (whole : link.pending.length ≤ link.pendingOffset + accepted)
      (kind : link.pendingKind = .measurement)
      (counted : stats.measurementsSent = link.stats.measurementsSent + 1) :
      LinkStep now link
        (link.sent (link.session.measurementSent link.pendingTimestamp) stats accepted now)
  | sentAlignment (link : MavlinkLink R) (session : FlightSession) (accepted : Nat)
      (allowed : link.Sendable now) (whole : link.pending.length ≤ link.pendingOffset + accepted)
      (kind : link.pendingKind = .alignment)
      (counted : link.session.alignmentSent now = .ok session) :
      LinkStep now link (link.sent session link.stats accepted now)
  | sentHeartbeat (link : MavlinkLink R) (accepted : Nat)
      (allowed : link.Sendable now) (whole : link.pending.length ≤ link.pendingOffset + accepted)
      (kind : link.pendingKind = .heartbeat) :
      LinkStep now link (link.sent link.session link.stats accepted now)

end Vio
