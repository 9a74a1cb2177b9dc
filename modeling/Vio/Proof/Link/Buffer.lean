import Vio.Proof.Link.Steps
import Vio.Proof.Session

namespace Vio
open Mavlink History

/-- The transmission that an event queued. -/
def LinkEvent.transmission {R : Type} [Mavlink R] : LinkEvent R → Option (Transmission R)
  | .queued transmission _ => some transmission
  | _ => none

/-- The transmission behind the bytes of the buffer. -/
def behind {R : Type} [Mavlink R] (history : List (LinkEvent R)) : Option (Transmission R) :=
  latest LinkEvent.transmission history

theorem Content.kind_ne_none {R : Type} (content : Content R) : content.kind ≠ .none := by
  cases content <;> simp [Content.kind]

namespace MavlinkLink
variable {R : Type} [Mavlink R]

/-- The fixed buffer is empty, or it holds the newest queued transmission with a rest to send. -/
structure Buffered (link : MavlinkLink R) : Prop where
  limits : link.config.session = link.session.config
  empty : link.pendingKind = .none → link.pending = [] ∧ link.pendingOffset = 0
  unsent : link.pendingKind ≠ .none → link.pendingOffset < link.pending.length
  filled : link.pendingKind ≠ .none → ∃ transmission, behind link.history = some transmission ∧
    transmission.content.kind = link.pendingKind ∧
    transmission.bytes link.config.source = link.pending
  closed : link.stream = false → link.pendingKind = .none

theorem bytes_ne_nil (packs : PacksFit R) (source : MavlinkAddress)
    (transmission : Transmission R) : transmission.bytes source ≠ [] := by
  unfold Transmission.bytes
  cases transmission.content <;> exact encode_ne_nil packs source _ _ _

section Updates

/-- A tick queues nothing. -/
theorem tick_behind (link : MavlinkLink R) (now : Int) :
    behind (link.tick now).history = behind link.history := by
  simp only [tick]
  split
  · exact latest_cons_none rfl
  · rfl

/-- The end of a session empties the buffer, or fails it where a packet went out in part. -/
theorem endSession_cases (link : MavlinkLink R) :
    link.pendingOffset = 0 ∧ link.endSession =
        ({ link with started := false, history := .ended :: link.history } : MavlinkLink R).clearPending ∨
      link.pendingOffset ≠ 0 ∧ link.endSession =
        ({ link with started := false, history := .ended :: link.history } : MavlinkLink R).fail
          "capture ended during partial transmission" := by
  by_cases whole : link.pendingOffset = 0
  · left; simp [endSession, whole]
  · right; simp [endSession, whole]

/-- A write of all remaining bytes is complete. -/
theorem writeCall_complete {link : MavlinkLink R} {accepted : Nat} (now : Int)
    (whole : link.pending.length ≤ link.pendingOffset + accepted) :
    (link.writeCall accepted now).Complete := by
  simp only [WriteCall.Complete, writeCall, List.length_drop]
  omega

/-- A write of a part of the buffer completes nothing. -/
theorem writeCall_short {link : MavlinkLink R} {accepted : Nat} (now : Int)
    (short : link.pendingOffset + accepted < link.pending.length) :
    ¬ (link.writeCall accepted now).Complete := by
  simp only [WriteCall.Complete, writeCall, List.length_drop]
  omega

end Updates

variable {link next : MavlinkLink R}

/-- An emptied buffer is in order. -/
theorem Buffered.clear (buffered : link.Buffered) : link.clearPending.Buffered where
  limits := buffered.limits
  empty := fun _ => ⟨rfl, rfl⟩
  unsent := fun busy => absurd rfl busy
  filled := fun busy => absurd rfl busy
  closed := fun _ => rfl

/-- A failed link has an empty buffer. -/
theorem Buffered.fail (buffered : link.Buffered) (reason : String) : (link.fail reason).Buffered where
  limits := buffered.limits
  empty := fun _ => ⟨rfl, rfl⟩
  unsent := fun busy => absurd rfl busy
  filled := fun busy => absurd rfl busy
  closed := fun _ => rfl

/-- A new transmission fits into the buffer, with all of it to send. -/
theorem Buffered.fill (packs : PacksFit R) (buffered : link.Buffered) (idle : link.pendingKind = .none)
    (connected : link.stream = true) (content : Content R) (deadline now : Int) :
    (link.filled content deadline now).Buffered where
  limits := buffered.limits
  empty := fun none => absurd none (content.kind_ne_none)
  unsent := fun _ => by
    have full := bytes_ne_nil packs link.config.source ⟨link.transmitStatus, content⟩
    change link.pendingOffset < (Transmission.bytes link.config.source ⟨_, content⟩).length
    rw [(buffered.empty idle).2]
    exact List.length_pos_iff.mpr full
  filled := fun _ => ⟨⟨link.transmitStatus, content⟩, latest_cons_some rfl, rfl, rfl⟩
  closed := fun disconnected => by
    change link.stream = false at disconnected
    rw [connected] at disconnected
    cases disconnected

/-- Every primitive step keeps the buffer in order. -/
theorem Buffered.step [Scalar R] (packs : PacksFit R) {now : Int} (moved : LinkStep now link next)
    (buffered : link.Buffered) : next.Buffered := by
  cases moved with
  | tick =>
      refine ⟨?_, buffered.empty, buffered.unsent, fun busy => ?_, buffered.closed⟩
      · exact buffered.limits.trans (link.session.tick_config now).symm
      · rw [tick_behind]
        exact buffered.filled busy
  | observe armed ticked =>
      refine ⟨?_, buffered.empty, buffered.unsent, fun busy => ?_, buffered.closed⟩
      · exact buffered.limits.trans (link.session.observe_config armed now).symm
      · exact buffered.filled busy
  | reply result =>
      refine ⟨?_, buffered.empty, buffered.unsent, fun busy => ?_, buffered.closed⟩
      · exact buffered.limits.trans (link.session.reply_config result now).symm
      · exact buffered.filled busy
  | note parser stats =>
      exact ⟨buffered.limits, buffered.empty, buffered.unsent, buffered.filled, buffered.closed⟩
  | close reason => exact buffered.fail reason
  | drop unsent => exact buffered.clear
  | restart session generation whole allowed =>
      obtain ⟨_, _, _, rfl⟩ := FlightSession.start_ok allowed
      have clear := buffered.clear
      exact ⟨clear.limits, clear.empty, clear.unsent, fun busy => absurd rfl busy, clear.closed⟩
  | withdraw =>
      rcases link.endSession_cases with ⟨_, same⟩ | ⟨_, same⟩ <;> rw [same]
      · exact ⟨buffered.limits, fun _ => ⟨rfl, rfl⟩, fun busy => absurd rfl busy,
          fun busy => absurd rfl busy, fun _ => rfl⟩
      · exact ⟨buffered.limits, fun _ => ⟨rfl, rfl⟩, fun busy => absurd rfl busy,
          fun busy => absurd rfl busy, fun _ => rfl⟩
  | publish estimate measurement checks =>
      have fill := buffered.fill packs checks.idle checks.connected
        (link.measurementContent estimate measurement)
        (now + (link.session.config.maxEstimateAge - (now - measurement.timestamp))) now
      exact ⟨fill.limits, fill.empty, fill.unsent, fill.filled, fill.closed⟩
  | request connected running idle due => exact buffered.fill packs idle connected _ _ _
  | beat connected idle =>
      have fill := buffered.fill packs idle connected (.heartbeat onboardHeartbeat)
        (now + 1000000000) now
      exact ⟨fill.limits, fill.empty, fill.unsent, fill.filled, fill.closed⟩
  | part accepted allowed short =>
      refine ⟨buffered.limits, fun none => absurd none allowed.busy, fun busy => ?_,
        buffered.filled, buffered.closed⟩
      change link.pendingOffset + min accepted _ < link.pending.length
      omega
  | sentMeasurement stats accepted allowed whole kind =>
      have clear := buffered.clear
      exact ⟨clear.limits, clear.empty, clear.unsent, fun busy => absurd rfl busy, clear.closed⟩
  | sentAlignment session accepted allowed whole kind counted =>
      obtain ⟨_, rfl⟩ := FlightSession.alignmentSent_ok counted
      have clear := buffered.clear
      exact ⟨clear.limits, clear.empty, clear.unsent, fun busy => absurd rfl busy, clear.closed⟩
  | sentHeartbeat accepted allowed whole kind =>
      have clear := buffered.clear
      exact ⟨clear.limits, clear.empty, clear.unsent, fun busy => absurd rfl busy, clear.closed⟩

end MavlinkLink
end Vio
