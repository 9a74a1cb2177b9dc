import Vio.Proof.Link.FailClosed
import Vio.Proof.Link.Ledger

namespace Vio
open Mavlink History

namespace FlightSession

/-- The alignment requests that the session can still make without another measurement. -/
def requests (session : FlightSession) : Nat :=
  if session.measurementTime = none then 0
  else session.config.alignmentAttempts - session.attempts

theorem requests_le (session : FlightSession) :
    session.requests ≤ session.config.alignmentAttempts := by
  unfold requests
  split <;> omega

/-- A tick adds no request. -/
theorem tick_requests (session : FlightSession) (now : Int) :
    (session.tick now).requests ≤ session.requests := by
  have spec := session.tick_spec now
  generalize session.tick now = next at spec
  cases spec with
  | keep | prime | retry => exact Nat.le_refl _
  -- A lost alignment gives the attempts back, but it forgets the measurement as well.
  | lose | revoke | wait | expire => exact Nat.zero_le _

/-- A heartbeat adds no request. -/
theorem observe_requests (session : FlightSession) (armed : Bool) (now : Int) :
    (session.observe armed now).requests ≤ session.requests := by
  have spec := session.observe_spec armed now
  generalize session.observe armed now = next at spec
  cases spec with
  | note => exact Nat.le_refl _
  | abort => exact Nat.zero_le _

/-- A reply adds no request. -/
theorem reply_requests (session : FlightSession) (result : AlignmentResult) (now : Int) :
    (session.reply result now).requests ≤ session.requests := by
  have spec := session.reply_spec result now
  generalize session.reply result now = next at spec
  cases spec with
  | ignore | align | progress | retry => exact Nat.le_refl _
  | refuse => exact Nat.zero_le _

/-- A request that was sent uses up one of them. -/
theorem alignmentSent_requests {session next : FlightSession} {now : Int}
    (counted : session.alignmentSent now = .ok next) : next.requests + 1 ≤ session.requests := by
  obtain ⟨due, rfl⟩ := alignmentSent_ok counted
  obtain ⟨_, _, _, left, _, fresh⟩ := (session.alignmentDue_iff now).mp due
  obtain ⟨last, known, _⟩ := (session.measurementFresh_iff now).mp fresh
  simp only [requests, known, reduceCtorEq, if_false]
  omega

end FlightSession

/-- The input is below the limit of one poll, and the stream takes a whole buffer. -/
def Transport.roomy (transport : Transport) : Bool :=
  match transport.waiting, transport.accept with
  | .ok waiting, .ok accepted => waiting.length < inputCapacity && pendingCapacity ≤ accepted
  | _, _ => false

def Operation.roomy {R : Type} : Operation R → Bool
  | .poll _ transport => transport.roomy
  | _ => false

namespace MavlinkLink
variable {R : Type} [Mavlink R]

/-- The link only listened: its buffer and its schedule are as before, and it wrote nothing. -/
structure Listened (link next : MavlinkLink R) : Prop where
  stream : next.stream = link.stream
  pending : next.pending = link.pending
  pendingOffset : next.pendingOffset = link.pendingOffset
  pendingKind : next.pendingKind = link.pendingKind
  pendingDeadline : next.pendingDeadline = link.pendingDeadline
  nextHeartbeat : next.nextHeartbeat = link.nextHeartbeat
  limits : next.session.config = link.session.config
  requests : next.session.requests ≤ link.session.requests
  calls : heard LinkEvent.call next.history = heard LinkEvent.call link.history

namespace Listened
variable {link middle next : MavlinkLink R}

theorem refl (link : MavlinkLink R) : link.Listened link :=
  ⟨rfl, rfl, rfl, rfl, rfl, rfl, rfl, Nat.le_refl _, rfl⟩

/-- A link that listens twice only listened. -/
theorem trans (first : link.Listened middle) (second : middle.Listened next) : link.Listened next where
  stream := second.stream.trans first.stream
  pending := second.pending.trans first.pending
  pendingOffset := second.pendingOffset.trans first.pendingOffset
  pendingKind := second.pendingKind.trans first.pendingKind
  pendingDeadline := second.pendingDeadline.trans first.pendingDeadline
  nextHeartbeat := second.nextHeartbeat.trans first.nextHeartbeat
  limits := second.limits.trans first.limits
  requests := second.requests.trans first.requests
  calls := second.calls.trans first.calls

end Listened

section Listen
variable (link : MavlinkLink R)

theorem tick_listened (now : Int) : link.Listened (link.tick now) :=
  ⟨rfl, rfl, rfl, rfl, rfl, rfl, link.session.tick_config now, link.session.tick_requests now,
    (link.tick_silent now).calls⟩

theorem observe_listened (armed : Bool) (now : Int) : link.Listened (link.observe armed now) :=
  ⟨rfl, rfl, rfl, rfl, rfl, rfl, link.session.observe_config armed now,
    link.session.observe_requests armed now, heard_cons_none rfl⟩

theorem reply_listened (result : AlignmentResult) (now : Int) :
    link.Listened (link.reply result now) :=
  ⟨rfl, rfl, rfl, rfl, rfl, rfl, link.session.reply_config result now,
    link.session.reply_requests result now, heard_cons_none rfl⟩

theorem note_listened (parser : Parser R) (stats : MavlinkLinkStats) :
    link.Listened { link with parser, stats } :=
  ⟨rfl, rfl, rfl, rfl, rfl, rfl, rfl, Nat.le_refl _, rfl⟩

/-- A message from the controller changes what the session knows, and nothing of what goes out. -/
theorem receive_listened (message : Message) (now : Int) :
    link.Listened (link.receive message now) := by
  unfold receive
  split
  · exact .refl link
  split
  · split
    · rw [heartbeat_eq]
      exact ((link.tick_listened now).trans (observe_listened _ _ now)).trans (tick_listened _ now)
    · exact .refl link
  · split
    · exact .refl link
    · exact (link.tick_listened now).trans (reply_listened _ _ now)
  · exact .refl link

/-- A byte of input writes nothing. -/
theorem receiveByte_listened (byte : UInt8) (now : Int) :
    link.Listened (receiveByte now link byte) := by
  unfold receiveByte
  have parsed := link.note_listened (frameChar (R := R) link.parser byte).1 link.stats
  dsimp only
  split
  · exact parsed.trans (receive_listened _ _ now)
  · exact link.note_listened _ _
  · exact link.note_listened _ _
  · exact parsed

/-- Input of any kind leaves the buffer and the schedule alone. -/
theorem receiveBytes_listened (input : List UInt8) (now : Int) :
    link.Listened (link.receiveBytes input now) := by
  induction input generalizing link with
  | nil => exact .refl link
  | cons byte rest inductionHypothesis =>
      exact (link.receiveByte_listened byte now).trans (inductionHypothesis _)

end Listen

/-- A heartbeat is due, or it lies in the buffer until its own deadline. -/
structure Owed (link : MavlinkLink R) (now : Int) : Prop where
  queued : link.pendingKind = .heartbeat → link.nextHeartbeat = link.pendingDeadline
  due : link.pendingKind ≠ .heartbeat → link.nextHeartbeat ≤ now

/-- The roomy polls that the owed heartbeat can still wait: for a measurement in the buffer, for the
requests that a measurement allows, and for itself. -/
def effort (link : MavlinkLink R) : Nat :=
  if link.pendingKind = .measurement then link.session.config.alignmentAttempts + 2
  else link.session.requests + 1

/-- Between the two moments the last byte of a heartbeat was handed to the stream. -/
def Beaten (link next : MavlinkLink R) : Prop :=
  ∃ calls, heard LinkEvent.call next.history = heard LinkEvent.call link.history ++ calls ∧
    ∃ call ∈ calls, call.kind = .heartbeat ∧ call.Complete

/-- The stream is closed, a heartbeat went out, or the owed one waits for so many polls less. -/
def Progress (link : MavlinkLink R) (now : Int) (polls : Nat) (next : MavlinkLink R) : Prop :=
  next.stream = false ∨ link.Beaten next ∨
    next.Owed now ∧ next.effort + polls ≤ link.effort

section Effort
variable {link middle next : MavlinkLink R} {now : Int}

theorem effort_bounds (link : MavlinkLink R) :
    1 ≤ link.effort ∧ link.effort ≤ link.session.config.alignmentAttempts + 2 := by
  have requests := link.session.requests_le
  unfold effort
  split <;> omega

/-- An idle buffer never makes the heartbeat wait longer. -/
theorem effort_idle (idle : next.pendingKind = .none)
    (requests : next.session.requests ≤ link.session.requests) : next.effort ≤ link.effort := by
  have most := link.session.requests_le
  unfold effort
  rw [if_neg (by simp [idle])]
  split <;> omega

theorem Owed.wait {later : Int} (owed : link.Owed now) (order : now ≤ later) : link.Owed later :=
  ⟨owed.queued, fun other => Int.le_trans (owed.due other) order⟩

theorem Owed.idle (idle : next.pendingKind = .none) (due : next.nextHeartbeat ≤ now) : next.Owed now :=
  ⟨fun queued => by simp [idle] at queued, fun _ => due⟩

/-- A heartbeat that is owed stays owed while the link listens. -/
theorem Listened.owed (listened : link.Listened next) (owed : link.Owed now) : next.Owed now where
  queued := by
    rw [listened.pendingKind, listened.nextHeartbeat, listened.pendingDeadline]
    exact owed.queued
  due := by
    rw [listened.pendingKind, listened.nextHeartbeat]
    exact owed.due

/-- Listening brings no heartbeat further away. -/
theorem Listened.effort (listened : link.Listened next) : next.effort ≤ link.effort := by
  have requests := listened.requests
  unfold MavlinkLink.effort
  rw [listened.pendingKind, listened.limits]
  split <;> omega

/-- A heartbeat that went out later went out since the first moment too. -/
theorem Beaten.after (begins : heard LinkEvent.call link.history <+: heard LinkEvent.call middle.history)
    (beaten : middle.Beaten next) : link.Beaten next := by
  obtain ⟨calls, more, call, member, beat⟩ := beaten
  obtain ⟨early, split⟩ := begins
  refine ⟨early ++ calls, ?_, call, List.mem_append_right _ member, beat⟩
  rw [more, ← split, List.append_assoc]

/-- A heartbeat that went out earlier went out until the last moment too. -/
theorem Beaten.before (beaten : link.Beaten middle)
    (begins : heard LinkEvent.call middle.history <+: heard LinkEvent.call next.history) :
    link.Beaten next := by
  obtain ⟨calls, more, call, member, beat⟩ := beaten
  obtain ⟨later, split⟩ := begins
  refine ⟨calls ++ later, ?_, call, List.mem_append_left _ member, beat⟩
  rw [← split, more, List.append_assoc]

/-- What came before the progress wrote nothing and cost nothing. -/
theorem Progress.after {polls : Nat}
    (same : heard LinkEvent.call middle.history = heard LinkEvent.call link.history)
    (less : middle.effort ≤ link.effort) (progress : middle.Progress now polls next) :
    link.Progress now polls next := by
  rcases progress with closed | beaten | ⟨owed, spent⟩
  · exact .inl closed
  · exact .inr (.inl (beaten.after (same ▸ List.prefix_rfl)))
  · exact .inr (.inr ⟨owed, by omega⟩)

theorem Listened.progress (listened : link.Listened next) (owed : link.Owed now) :
    link.Progress now 0 next := .inr (.inr ⟨listened.owed owed, listened.effort⟩)

end Effort

/-- The packets of one transmission fit the fixed buffer. -/
theorem encode_length_le (packs : PacksFit R) (source : MavlinkAddress) (status : Status R)
    (messages : List (Outgoing R)) :
    (encode source status messages).length ≤ messages.length * maxPacketLen := by
  induction messages generalizing status with
  | nil => exact Nat.zero_le _
  | cons message rest inductionHypothesis =>
      have first := (packs source status message).2
      have later := inductionHypothesis (pack source status message).2
      rw [encode, List.length_append, List.length_cons, Nat.add_mul]
      omega

/-- A pending transmission fits into a stream that takes a whole buffer. -/
theorem Buffered.fits (packs : PacksFit R) {link : MavlinkLink R} (buffered : link.Buffered) :
    link.pending.length ≤ pendingCapacity := by
  by_cases idle : link.pendingKind = .none
  · rw [(buffered.empty idle).1]
    exact Nat.zero_le _
  · obtain ⟨transmission, _, _, bytes⟩ := buffered.filled idle
    rw [← bytes, Transmission.bytes]
    refine Nat.le_trans (encode_length_le packs _ _ _) (Nat.mul_le_mul_right _ ?_)
    cases transmission.content with
    | measurement estimate pose speed => cases speed <;> simp [Content.messages]
    | alignment | heartbeat => simp [Content.messages]

section Poll
variable {link : MavlinkLink R} {now : Int}

/-- What the expiry check leaves of an open link: all of it, or an idle buffer and the schedule. -/
theorem expire_cases (alive : (link.expire now).stream = true) :
    link.expire now = link ∨ (link.eligible now = false ∨ now > link.pendingDeadline) ∧
      (link.expire now).pendingKind = .none ∧
      (link.expire now).nextHeartbeat = link.nextHeartbeat := by
  revert alive
  unfold expire
  split
  · rename_i expired
    have same : link.countDropped.nextHeartbeat = link.nextHeartbeat := by
      unfold countDropped
      split <;> rfl
    dsimp only
    split
    · exact fun alive => by cases alive
    · exact fun _ => .inr ⟨expired.2, rfl, same⟩
  · exact fun _ => .inl rfl

/-- An expired heartbeat is due again, and any other transmission leaves the schedule alone. -/
theorem expire_owed (owed : link.Owed now) (alive : (link.expire now).stream = true) :
    (link.expire now).Owed now ∧ (link.expire now).effort ≤ link.effort ∧
      heard LinkEvent.call (link.expire now).history = heard LinkEvent.call link.history := by
  obtain ⟨silent, session⟩ := link.expire_silent now
  have session := session alive
  rcases expire_cases alive with same | ⟨expired, idle, schedule⟩
  · rw [same]
    exact ⟨owed, Nat.le_refl _, rfl⟩
  · refine ⟨.idle idle ?_, effort_idle idle (by rw [session]), silent.calls⟩
    rw [schedule]
    by_cases heartbeat : link.pendingKind = .heartbeat
    · have permitted : link.eligible now = true := by simp [eligible, heartbeat]
      have late := expired.resolve_left (by simp [permitted])
      have deadline := owed.queued heartbeat
      omega
    · exact owed.due heartbeat

/-- The end of a transmission is worth one poll: a measurement allows all requests at most, a request
uses one of them up, and a heartbeat ends the wait. -/
theorem finish_progress (owed : link.Owed now) (busy : link.pendingKind ≠ .none) {call : WriteCall}
    (same : call.kind = link.pendingKind) (complete : call.Complete) {offset : Nat}
    {next : MavlinkLink R} (done : finish { link.record (.handed call) with
      pendingOffset := offset } now = (next, .ok ())) {polls : Nat} (once : polls ≤ 1) :
    link.Progress now polls next := by
  unfold finish at done
  split at done
  · rename_i kind
    change link.pendingKind = .measurement at kind
    cases done
    have most : (link.session.measurementSent link.pendingTimestamp).requests ≤
        link.session.config.alignmentAttempts := FlightSession.requests_le _
    refine .inr (.inr ⟨.idle rfl (owed.due (by simp [kind])), ?_⟩)
    change (link.session.measurementSent link.pendingTimestamp).requests + 1 + polls ≤ link.effort
    rw [effort, if_pos kind]
    omega
  · rename_i kind
    change link.pendingKind = .alignment at kind
    split at done
    · cases done
    · rename_i session counted
      cases done
      have used : session.requests + 1 ≤ link.session.requests :=
        FlightSession.alignmentSent_requests counted
      refine .inr (.inr ⟨.idle rfl (owed.due (by simp [kind])), ?_⟩)
      change session.requests + 1 + polls ≤ link.effort
      rw [effort, if_neg (by simp [kind])]
      omega
  · rename_i notMeasurement notAlignment
    have kind : link.pendingKind = .heartbeat := by
      cases shape : link.pendingKind with
      | none => exact absurd shape busy
      | measurement => exact absurd shape notMeasurement
      | alignment => exact absurd shape notAlignment
      | heartbeat => rfl
    cases done
    exact .inr (.inl ⟨[call], heard_cons_some rfl, call, List.mem_singleton.mpr rfl,
      same.trans kind, complete⟩)

/-- A write ends the wait by one poll where the stream takes the whole rest. -/
theorem transmit_progress (packs : PacksFit R) (buffered : link.Buffered) (owed : link.Owed now)
    (sendable : link.Sendable now) {accept : Except String Nat} {next : MavlinkLink R}
    (done : link.transmit now accept = (next, .ok ())) {polls : Nat}
    (room : polls = 0 ∨
      polls = 1 ∧ ∃ accepted, accept = .ok accepted ∧ pendingCapacity ≤ accepted) :
    link.Progress now polls next := by
  have busy := sendable.busy
  have unsent := buffered.unsent busy
  have fits := buffered.fits packs
  unfold transmit at done
  rw [if_neg busy] at done
  cases accept with
  | error what => cases done
  | ok accepted =>
      dsimp only at done
      split at done
      · rename_i rest
        change link.pendingOffset + min accepted (link.pending.length - link.pendingOffset) ≠
          link.pending.length at rest
        -- A roomy poll leaves no rest.
        obtain rfl : polls = 0 := by
          rcases room with none | ⟨_, _, same, whole⟩
          · exact none
          · cases same
            omega
        cases done
        exact .inr (.inr ⟨⟨owed.queued, owed.due⟩, Nat.le_refl _⟩)
      · rename_i whole
        change ¬ link.pendingOffset + min accepted (link.pending.length - link.pendingOffset) ≠
          link.pending.length at whole
        have complete : (link.writeCall accepted now).Complete := writeCall_complete now (by omega)
        exact finish_progress owed busy rfl complete done (by omega)

end Poll

section Advance
variable [Scalar R] {link next : MavlinkLink R} {now : Int}

/-- After its input a poll sends what is in the buffer, an alignment request, or the heartbeat. -/
theorem advance_progress (packs : PacksFit R) (buffered : link.Buffered)
    (connected : link.stream = true) (owed : link.Owed now) {full : Bool}
    {accept : Except String Nat} (done : link.advance now full accept = (next, .ok ())) {polls : Nat}
    (room : polls = 0 ∨ polls = 1 ∧ full = false ∧
      ∃ accepted, accept = .ok accepted ∧ pendingCapacity ≤ accepted) :
    link.Progress now polls next := by
  unfold advance at done
  split at done
  · cases done
    exact .inl rfl
  obtain ⟨steps, sendable⟩ := expire_steps link now connected
  have buffered := buffered.steps packs (Steps.links steps)
  dsimp only at done
  split at done
  · rename_i closed
    rw [Bool.not_eq_true'] at closed
    cases done
    exact .inl closed
  rename_i alive
  rw [Bool.not_eq_true', Bool.not_eq_false] at alive
  have sendable := sendable alive
  obtain ⟨owed, less, calls⟩ := expire_owed owed alive
  refine .after calls less ?_
  generalize link.expire now = middle at *
  split at done
  · rename_i flooded
    cases done
    have silent : polls = 0 := by
      rcases room with silent | ⟨_, drained, _⟩
      · exact silent
      · rw [drained] at flooded
        cases flooded
    subst silent
    exact .inr (.inr ⟨owed, Nat.le_refl _⟩)
  have room := room.imp_right fun found => (⟨found.1, found.2.2⟩ : polls = 1 ∧ _)
  split at done
  · cases done
  · rename_i queued
    split at queued
    · rename_i idle
      have empty := (buffered.empty idle).1
      have other : middle.pendingKind ≠ .heartbeat := by simp [idle]
      have waits : middle.effort = middle.session.requests + 1 := by
        rw [effort, if_neg (by simp [idle])]
      split at queued
      · rename_i due
        rw [Bool.and_eq_true] at due
        rw [queueAlignment, queue_idle packs empty] at queued
        cases queued
        have moved : QuietStep now middle _ := .request middle alive due.1 idle due.2
        have timeout := middle.session.timeouts_positive.2.1
        rw [← buffered.limits] at timeout
        refine .after ?_ ?_ (transmit_progress packs (buffered.step packs moved.1)
          ⟨(fun same => by cases same), fun _ => owed.due other⟩
          ⟨alive, (fun same => by cases same), due.2, ?_⟩ done room)
        · exact heard_cons_none rfl
        · rw [waits]
          exact Nat.le_refl _
        · change now ≤ now + _
          omega
      · split at queued
        · rw [queueHeartbeat_idle packs empty] at queued
          cases queued
          have moved : QuietStep now middle _ := .beat middle alive idle
          refine .after ?_ ?_ (transmit_progress packs (buffered.step packs moved.1)
            ⟨fun _ => rfl, fun none => absurd rfl none⟩
            ⟨alive, (fun same => by cases same), rfl, ?_⟩ done room)
          · exact heard_cons_none rfl
          · rw [waits]
            exact Nat.le_refl _
          · change now ≤ now + _
            omega
        · rename_i early
          exact absurd (owed.due other) early
    · rename_i busy
      cases queued
      exact transmit_progress packs buffered owed (sendable busy) done room

/-- A roomy poll brings the owed heartbeat nearer, or closes the stream. -/
theorem poll_progress (packs : PacksFit R) (buffered : link.Buffered) (connected : link.stream = true)
    (owed : link.Owed now) (transport : Transport) :
    link.Progress now transport.roomy.toNat (link.poll now transport).1 := by
  have returned := (poll_steps packs buffered now transport).2
  unfold poll at returned ⊢
  rw [if_neg (by simp [connected])] at returned ⊢
  cases reads : transport.waiting with
  | error what =>
      simp only [service, reads]
      exact .inl rfl
  | ok waiting =>
      simp only [service, reads] at returned ⊢
      have heard := (link.tick_listened now).trans
        (receiveBytes_listened _ (waiting.take inputCapacity) now)
      have steps := tick_receiveBytes_steps link (waiting.take inputCapacity) now
      have buffered := buffered.steps packs (Steps.links steps)
      generalize (link.tick now).receiveBytes (waiting.take inputCapacity) now = middle at *
      split at returned
      · exact .inl rfl
      · have done : middle.advance now _ transport.accept = (_, .ok ()) := Prod.ext rfl returned
        refine .after heard.calls heard.effort
          (advance_progress packs buffered (heard.stream.trans connected) (heard.owed owed) done ?_)
        cases roomy : transport.roomy with
        | false => exact .inl rfl
        | true =>
            unfold Transport.roomy at roomy
            rw [reads] at roomy
            cases takes : transport.accept with
            | error what => simp [takes] at roomy
            | ok accepted =>
                rw [takes] at roomy
                obtain ⟨short, whole⟩ := Bool.and_eq_true_iff.mp roomy
                have short := of_decide_eq_true short
                refine .inr ⟨rfl, decide_eq_false ?_, accepted, rfl, of_decide_eq_true whole⟩
                rw [List.length_take]
                omega

end Advance

section Window
variable [Scalar R] {link middle next : MavlinkLink R} {now : Int}

/-- A publication finds the link busy while the heartbeat is owed. -/
theorem publish_owed (owed : link.Owed now) (estimate : EstimatorEstimate R) :
    (link.publish estimate now).1 = link.tick now := by
  have owed := (link.tick_listened now).owed owed
  unfold publish
  generalize link.tick now = ticked at owed
  dsimp only
  split
  · rfl
  split
  · rfl
  split
  · rfl
  split
  · rfl
  split
  · rfl
  have control : (ticked.pendingKind ≠ .none || ticked.session.alignmentDue now ||
      now ≥ ticked.nextHeartbeat) = true := by
    by_cases idle : ticked.pendingKind = .none
    · simp [owed.due (by simp [idle])]
    · simp [idle]
  rw [if_pos control]

/-- Every operation at the time of the heartbeat keeps or makes progress. -/
theorem apply_progress (packs : PacksFit R) (buffered : link.Buffered) (owed : link.Owed now)
    {operation : Operation R} (timed : operation.time = some now) :
    link.Progress now operation.roomy.toNat (link.apply operation) := by
  cases operation with
  | startSession generation => cases timed
  | endSession => cases timed
  | publish estimate time =>
      cases timed
      change link.Progress now 0 (link.publish estimate now).1
      rw [publish_owed owed]
      exact (link.tick_listened now).progress owed
  | poll time transport =>
      cases timed
      by_cases connected : link.stream = true
      · exact poll_progress packs buffered connected owed transport
      · refine .inl ?_
        rw [Bool.not_eq_true] at connected
        simp only [apply, poll, connected, Bool.not_false, if_true]

/-- No step opens a closed stream. -/
theorem LinkStep.stays_closed (moved : LinkStep now link next) (closed : link.stream = false) :
    next.stream = false := by
  cases moved with
  | withdraw =>
      rcases link.endSession_cases with ⟨_, same⟩ | ⟨_, same⟩ <;> rw [same]
      · exact closed
      · rfl
  | close => rfl
  | tick | observe | reply | note | drop | restart | publish | request | beat | part
  | sentMeasurement | sentAlignment | sentHeartbeat => exact closed

theorem steps_closed (steps : Relation.ReflTransGen (LinkStep now) link next)
    (closed : link.stream = false) : next.stream = false := by
  induction steps with
  | refl => exact closed
  | tail _ moved inductionHypothesis => exact LinkStep.stays_closed moved inductionHypothesis

/-- The earlier writes stay on record, and a closed stream stays closed. -/
theorem run_onward (packs : PacksFit R) (buffered : link.Buffered) (operations : List (Operation R)) :
    (link.stream = false → (link.run operations).stream = false) ∧
      heard LinkEvent.call link.history <+: heard LinkEvent.call (link.run operations).history := by
  induction operations generalizing link with
  | nil => exact ⟨id, List.prefix_rfl⟩
  | cons operation operations inductionHypothesis =>
      obtain ⟨time, timed⟩ : ∃ time, ∀ other, operation.time = some other → other = time := by
        cases known : operation.time with
        | none => exact ⟨0, fun _ same => by cases same⟩
        | some time => exact ⟨time, fun _ same => (Option.some.inj same).symm⟩
      have steps := apply_steps packs buffered operation time timed
      obtain ⟨stays, begins⟩ := inductionHypothesis (Buffered.steps packs steps buffered)
      refine ⟨fun closed => stays (steps_closed steps closed), .trans ?_ begins⟩
      · rcases apply_calls packs buffered operation with
          same | ⟨_, _, _, call, _, _, _, _, more, _⟩
        · rw [same]
        · rw [more]
          exact List.prefix_append _ _

/-- Publications and polls in the order of time bring the owed heartbeat forward. -/
theorem run_progress (packs : PacksFit R) (buffered : link.Buffered) {clock : Int}
    (owed : link.Owed clock) {operations : List (Operation R)}
    (within : ∀ operation ∈ operations, operation.time ≠ none)
    (after : ∀ time ∈ operations.filterMap Operation.time, clock ≤ time)
    (ordered : (operations.filterMap Operation.time).Pairwise (· ≤ ·)) :
    (link.run operations).stream = false ∨ link.Beaten (link.run operations) ∨
      (link.run operations).effort + operations.countP Operation.roomy ≤ link.effort := by
  induction operations generalizing link clock with
  | nil => exact .inr (.inr (Nat.le_refl _))
  | cons operation operations inductionHypothesis =>
      obtain ⟨time, timed⟩ := Option.ne_none_iff_exists'.mp (within operation List.mem_cons_self)
      rw [List.filterMap_cons_some timed] at after ordered
      obtain ⟨following, ordered⟩ := List.pairwise_cons.mp ordered
      have kept := apply_buffered packs buffered operation
      have calls := (run_onward packs buffered [operation]).2
      obtain ⟨stays, begins⟩ := run_onward packs kept operations
      change _ <+: heard LinkEvent.call (link.apply operation).history at calls
      rcases apply_progress packs buffered (owed.wait (after time List.mem_cons_self)) timed with
        closed | beaten | ⟨owed, spent⟩
      · exact .inl (stays closed)
      · exact .inr (.inl (beaten.before begins))
      · rcases inductionHypothesis kept owed (fun other member => within other (.tail _ member))
          following ordered with closed | beaten | used
        · exact .inl closed
        · exact .inr (.inl (beaten.after calls))
        · refine .inr (.inr ?_)
          change ((link.apply operation).run operations).effort + _ ≤ _
          rw [List.countP_cons]
          cases roomy : operation.roomy <;> simp [roomy] at spent ⊢ <;> omega

/-- The deadline of a heartbeat in the buffer is the time of the next one. -/
theorem deadline_inductive : Inductive AnyOrder (fun _ (link : MavlinkLink R) =>
    link.pendingKind = .heartbeat → link.nextHeartbeat = link.pendingDeadline) := by
  refine .of_state fun now link next _ moved held => ?_
  cases moved with
  | withdraw =>
      rcases link.endSession_cases with ⟨_, same⟩ | ⟨_, same⟩ <;> rw [same] <;>
        exact fun kind => by cases kind
  | tick | observe | reply | note | part => exact held
  | beat => exact fun _ => rfl
  | close | drop | restart | publish | request | sentMeasurement | sentAlignment | sentHeartbeat =>
      exact fun kind => by cases kind

/-- Control traffic is never starved. Once the heartbeat is due, publications and polls in the order of
time, with as many roomy polls among them as there are alignment attempts and two more, hand a whole
heartbeat to the stream or close it, whatever is published and whatever the other polls do. -/
theorem heartbeat_not_starved (packs : PacksFit R) {stream : Bool} {config : MavlinkLinkConfig}
    {transform : FrameTransform R} {counter : UInt8} {link : MavlinkLink R}
    (created : create stream config transform counter = .ok link)
    (earlier : List (Operation R)) {later : List (Operation R)}
    (within : ∀ operation ∈ later, operation.time ≠ none) (ordered : NonDecreasing later)
    (due : ∀ time ∈ later.filterMap Operation.time, (link.run earlier).nextHeartbeat ≤ time)
    (polls : config.session.alignmentAttempts + 2 ≤ later.countP Operation.roomy) :
    (link.run (earlier ++ later)).stream = false ∨
      (link.run earlier).Beaten (link.run (earlier ++ later)) := by
  have fresh := create_fresh created
  obtain ⟨_, ledger⟩ := (ledger_inductive config AnyOrder).run packs fresh.buffered
    (fun _ => fresh.ledger) earlier
  obtain ⟨_, deadline⟩ := deadline_inductive.run packs fresh.buffered
    (fun _ kind => absurd kind (by simp [fresh.pendingKind])) earlier
  have limits : (link.run earlier).session.config = config.session := ledger.limits
  have most := (link.run earlier).effort_bounds.2
  have least := ((link.run earlier).run later).effort_bounds.1
  rw [limits] at most
  rw [run_append]
  rcases run_progress packs (run_buffered packs fresh.buffered earlier)
    ⟨deadline, fun _ => Int.le_refl _⟩ within due ordered with closed | beaten | used
  · exact .inl closed
  · exact .inr beaten
  · omega

end Window

section Example
open SampleFlight

/-- A measurement waits in the buffer when the heartbeat gets due. -/
def measuring : List (Operation Exact) :=
  [.startSession ⟨1⟩, SampleFlight.poll 1 (SampleFlight.heartbeat false 0) 300,
    .publish (estimate 999999990) 999999990]

/-- The measurement, the alignment request and the heartbeat go out, while the estimator offers its
snapshots. -/
def busyLoop : List (Operation Exact) :=
  let polled (now : Int) (accepted : Nat) : Operation Exact := SampleFlight.poll now [] accepted
  [polled 1000000001 560, .publish (estimate 1000000002) 1000000002, polled 1000000003 560,
    .publish (estimate 1000000004) 1000000004, polled 1000000005 0, polled 1000000006 560,
    polled 1000000007 560, polled 1000000008 560]

/-- A loop that publishes at every turn still sends its heartbeat. -/
theorem heartbeat_not_starved_busy :
    (SampleFlight.link.run measuring).Beaten (SampleFlight.link.run (measuring ++ busyLoop)) := by
  have due : ∀ time ∈ busyLoop.filterMap Operation.time,
      (SampleFlight.link.run measuring).nextHeartbeat ≤ time := by decide +kernel
  have opened : (SampleFlight.link.run (measuring ++ busyLoop)).stream = true := by decide +kernel
  have polls : 3 + 2 ≤ busyLoop.countP Operation.roomy := by decide
  refine (heartbeat_not_starved MavlinkCodec.packsFit created measuring (by decide)
    (show NonDecreasing busyLoop by unfold NonDecreasing; decide) due polls).resolve_left ?_
  rw [opened]
  exact fun closed => by cases closed

end Example

end MavlinkLink
end Vio
