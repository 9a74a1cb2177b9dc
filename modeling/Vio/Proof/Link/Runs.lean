import Vio.Proof.Link.Buffer

namespace Vio
open Mavlink History

namespace MavlinkLink
variable {R : Type} [Scalar R] [Mavlink R]

/-- A primitive step within one session. -/
def QuietStep (now : Int) (link next : MavlinkLink R) : Prop :=
  LinkStep now link next ∧ link.session.Same next.session

namespace QuietStep
variable {now : Int} (link : MavlinkLink R)

theorem tick : QuietStep now link (link.tick now) := ⟨.tick link, link.session.tick_same now⟩

theorem observe (armed : Bool) (ticked : link.session.generation ≠ none →
    link.session.state = .aligned → link.session.controllerFresh now = true) :
    QuietStep now link (link.observe armed now) :=
  ⟨.observe link armed ticked, link.session.observe_same armed now⟩

theorem reply (result : AlignmentResult) : QuietStep now link (link.reply result now) :=
  ⟨.reply link result, link.session.reply_same result now⟩

theorem note (parser : Parser R) (stats : MavlinkLinkStats)
    (unsent : stats.measurementsSent = link.stats.measurementsSent) :
    QuietStep now link { link with parser, stats } := ⟨.note link parser stats unsent, .refl _⟩

theorem close (reason : String) : QuietStep now link (link.fail reason) :=
  ⟨.close link reason, ⟨rfl, rfl⟩⟩

theorem drop (unsent : link.pendingOffset = 0) : QuietStep now link link.clearPending :=
  ⟨.drop link unsent, .refl _⟩

theorem withdraw : QuietStep now link link.endSession := by
  refine ⟨.withdraw link, ?_⟩
  rcases link.endSession_cases with ⟨_, same⟩ | ⟨_, same⟩ <;> rw [same] <;> exact ⟨rfl, rfl⟩

theorem publish (estimate : EstimatorEstimate R) (measurement : ArduPilotMeasurement R)
    (checks : link.Publishable estimate measurement now) :
    QuietStep now link (link.published estimate measurement now) :=
  ⟨.publish link estimate measurement checks, .refl _⟩

theorem request (connected : link.stream = true) (running : link.started = true)
    (idle : link.pendingKind = .none) (due : link.session.alignmentDue now = true) :
    QuietStep now link (link.filled (.alignment link.alignmentCommand)
      (now + link.config.session.alignmentTimeout) now) :=
  ⟨.request link connected running idle due, .refl _⟩

theorem beat (connected : link.stream = true) (idle : link.pendingKind = .none) :
    QuietStep now link { link.filled (.heartbeat MavlinkLink.onboardHeartbeat)
      (now + 1000000000) now with nextHeartbeat := now + 1000000000 } :=
  ⟨.beat link connected idle, .refl _⟩

theorem part (accepted : Nat) (allowed : link.Sendable now)
    (short : link.pendingOffset + accepted < link.pending.length) :
    QuietStep now link (link.partly accepted now) := ⟨.part link accepted allowed short, .refl _⟩

theorem sentMeasurement (stats : MavlinkLinkStats) (accepted : Nat) (allowed : link.Sendable now)
    (whole : link.pending.length ≤ link.pendingOffset + accepted)
    (kind : link.pendingKind = .measurement)
    (counted : stats.measurementsSent = link.stats.measurementsSent + 1) :
    QuietStep now link
      (link.sent (link.session.measurementSent link.pendingTimestamp) stats accepted now) :=
  ⟨.sentMeasurement link stats accepted allowed whole kind counted, ⟨rfl, rfl⟩⟩

theorem sentAlignment (session : FlightSession) (accepted : Nat) (allowed : link.Sendable now)
    (whole : link.pending.length ≤ link.pendingOffset + accepted)
    (kind : link.pendingKind = .alignment) (counted : link.session.alignmentSent now = .ok session) :
    QuietStep now link (link.sent session link.stats accepted now) := by
  refine ⟨.sentAlignment link session accepted allowed whole kind counted, ?_⟩
  obtain ⟨_, rfl⟩ := FlightSession.alignmentSent_ok counted
  exact ⟨rfl, rfl⟩

theorem sentHeartbeat (accepted : Nat) (allowed : link.Sendable now)
    (whole : link.pending.length ≤ link.pendingOffset + accepted)
    (kind : link.pendingKind = .heartbeat) :
    QuietStep now link (link.sent link.session link.stats accepted now) :=
  ⟨.sentHeartbeat link accepted allowed whole kind, .refl _⟩

end QuietStep

/-- A finite sequence of primitive steps at one time, within one session. -/
abbrev Steps (now : Int) : MavlinkLink R → MavlinkLink R → Prop :=
  Relation.ReflTransGen (QuietStep now)

theorem Buffered.steps (packs : PacksFit R) {now : Int} {link next : MavlinkLink R}
    (steps : Relation.ReflTransGen (LinkStep now) link next) (buffered : link.Buffered) :
    next.Buffered := by
  induction steps with
  | refl => exact buffered
  | tail _ moved ih => exact ih.step packs moved

theorem Steps.links {now : Int} {link next : MavlinkLink R} (steps : Steps now link next) :
    Relation.ReflTransGen (LinkStep now) link next :=
  Relation.ReflTransGen.mono (fun _ _ moved => moved.1) link next steps

/-- A call took primitive steps, and it threw nothing but an I/O error. -/
structure Settles (now : Int) (link : MavlinkLink R) (result : Call R Unit) : Prop where
  steps : Steps now link result.1
  thrown : result.2 = .ok () ∨ ∃ what, result.2 = .error (.runtimeError what)

theorem Settles.done {now : Int} {link next : MavlinkLink R} (steps : Steps now link next) :
    Settles now link (next, .ok ()) := ⟨steps, .inl rfl⟩

theorem Settles.after {now : Int} {link middle : MavlinkLink R} {result : Call R Unit}
    (steps : Steps now link middle) (settles : Settles now middle result) :
    Settles now link result := ⟨steps.trans settles.steps, settles.thrown⟩

section Receive

omit [Scalar R] [Mavlink R] in
/-- A heartbeat that was just observed keeps an alignment through its second tick. -/
theorem observe_tick_aligned (session : FlightSession) (armed : Bool) (now : Int)
    (aligned : (session.observe armed now).state = .aligned) :
    ((session.observe armed now).tick now).state = .aligned := by
  have fresh : (session.observe armed now).controllerFresh now = true := by
    rw [FlightSession.controllerFresh_iff, FlightSession.observe_config]
    refine ⟨now, ?_, Int.le_refl now, by have := session.timeouts_positive.1; omega⟩
    have spec := session.observe_spec armed now
    generalize session.observe armed now = next at spec
    cases spec <;> rfl
  generalize session.observe armed now = next at aligned fresh
  have spec := next.tick_spec now
  generalize next.tick now = later at spec
  cases spec <;> simp_all

omit [Scalar R] [Mavlink R] in
/-- An alignment that survives a tick has a fresh controller. -/
theorem tick_aligned_fresh (session : FlightSession) (now : Int)
    (known : (session.tick now).generation ≠ none) (aligned : (session.tick now).state = .aligned) :
    (session.tick now).controllerFresh now = true := by
  have spec := session.tick_spec now
  generalize session.tick now = next at spec known aligned
  cases spec with
  | keep quiet =>
      rcases quiet with unknown | failed | active
      · exact absurd unknown known
      · rw [aligned] at failed
        cases failed
      · exact active.1
  | lose | revoke | wait | prime | expire | retry => cases aligned

omit [Scalar R] in
/-- A heartbeat is a tick, the observation and a second tick that takes nothing back. -/
theorem heartbeat_eq (link : MavlinkLink R) (armed : Bool) (now : Int) :
    link.heartbeat armed now = ((link.tick now).observe armed now).tick now := by
  have kept := observe_tick_aligned (link.session.tick now) armed now
  simp only [heartbeat, observe, tick, FlightSession.heartbeat] at kept ⊢
  by_cases aligned : ((link.session.tick now).observe armed now).state = .aligned
  · simp [kept aligned]
  · simp [aligned]

/-- A message is a sequence of primitive steps. -/
theorem receive_steps (link : MavlinkLink R) (message : Message) (now : Int) :
    Steps now link (link.receive message now) := by
  unfold receive
  split
  · exact .refl
  split
  · split
    · rw [heartbeat_eq]
      exact ((Relation.ReflTransGen.single (.tick link)).tail
        (.observe _ _ (tick_aligned_fresh link.session now))).tail (.tick _)
    · exact .refl
  · split
    · exact .refl
    · exact (Relation.ReflTransGen.single (.tick link)).tail (.reply _ _)
  · exact .refl

/-- A byte of input is a sequence of primitive steps. -/
theorem receiveByte_steps (link : MavlinkLink R) (byte : UInt8) (now : Int) :
    Steps now link (link.receiveByte now byte) := by
  unfold receiveByte
  have parsed : Steps now link { link with parser := (frameChar (R := R) link.parser byte).1 } :=
    .single (.note link _ link.stats rfl)
  dsimp only
  split
  · exact parsed.trans (receive_steps _ _ now)
  · exact .single (.note link _ _ rfl)
  · exact .single (.note link _ _ rfl)
  · exact parsed

theorem receiveBytes_steps (link : MavlinkLink R) (input : List UInt8) (now : Int) :
    Steps now link (link.receiveBytes input now) := by
  induction input generalizing link with
  | nil => exact .refl
  | cons byte rest ih => exact (receiveByte_steps link byte now).trans (ih _)

/-- The part of a poll before anything is queued. -/
theorem tick_receiveBytes_steps (link : MavlinkLink R) (input : List UInt8) (now : Int) :
    Steps now link ((link.tick now).receiveBytes input now) :=
  (Relation.ReflTransGen.single (.tick link)).trans (receiveBytes_steps (link.tick now) input now)

end Receive

section Queue

omit [Scalar R] in
/-- A packet is appended where there is room for the longest one. -/
theorem append_room (link : MavlinkLink R) (message : Outgoing R)
    (room : link.pending.length ≤ maxPacketLen) :
    link.append message =
      ({ link with
          transmitStatus := (pack link.config.source link.transmitStatus message).2
          pending := link.pending ++
            toSendBuffer (pack link.config.source link.transmitStatus message).1 }, .ok ()) := by
  have fits : ¬ link.pending.length + maxPacketLen > pendingCapacity := by
    unfold pendingCapacity
    omega
  simp only [append, if_neg fits]

omit [Scalar R] in
/-- The buffer holds every transmission that the link queues. -/
theorem queue_idle (packs : PacksFit R) {link : MavlinkLink R} (empty : link.pending = [])
    (content : Content R) (deadline now : Int) :
    link.queue content deadline now = (link.filled content deadline now, .ok ()) := by
  have one (message : Outgoing R) := append_room link message (by simp [empty])
  -- A pose packet leaves room for its velocity packet.
  have two (pose : VisionPositionEstimate R) (speed : VisionSpeedEstimate R) :=
    append_room _ (.visionSpeedEstimate speed) (show ({ link with
        transmitStatus :=
          (pack link.config.source link.transmitStatus (.visionPositionEstimate pose)).2
        pending := link.pending ++ toSendBuffer
          (pack link.config.source link.transmitStatus (.visionPositionEstimate pose)).1 } :
          MavlinkLink R).pending.length ≤ maxPacketLen by
      simpa [empty] using (packs link.config.source link.transmitStatus
        (.visionPositionEstimate pose)).2)
  cases content with
  | measurement estimate pose speed =>
      cases speed with
      | none =>
          simp only [queue, Content.messages, Option.map_none, Option.toList_none, appendAll, one]
          simp [filled, Content.messages, Content.kind, encode, statusAfter, empty]
      | some speed =>
          simp only [queue, Content.messages, Option.map_some, Option.toList_some, appendAll, one, two]
          simp [filled, Content.messages, Content.kind, encode, statusAfter, empty]
  | alignment command =>
      simp only [queue, Content.messages, appendAll, one]
      simp [filled, Content.messages, Content.kind, encode, statusAfter, empty]
  | heartbeat message =>
      simp only [queue, Content.messages, appendAll, one]
      simp [filled, Content.messages, Content.kind, encode, statusAfter, empty]

theorem queueMeasurement_idle (packs : PacksFit R) {link : MavlinkLink R} (empty : link.pending = [])
    (estimate : EstimatorEstimate R) (measurement : ArduPilotMeasurement R) (now : Int) :
    link.queueMeasurement estimate measurement now =
      (link.published estimate measurement now, .ok .queued) := by
  simp only [queueMeasurement]
  rw [queue_idle packs empty]
  rfl

omit [Scalar R] in
theorem queueHeartbeat_idle (packs : PacksFit R) {link : MavlinkLink R} (empty : link.pending = [])
    (now : Int) :
    link.queueHeartbeat now =
      ({ link.filled (.heartbeat onboardHeartbeat) (now + 1000000000) now with
        nextHeartbeat := now + 1000000000 }, .ok ()) := by
  simp only [queueHeartbeat]
  rw [queue_idle packs empty]
  rfl

end Queue

section Poll

/-- After the expiry check a pending transmission may be sent. -/
theorem expire_steps (link : MavlinkLink R) (now : Int) (connected : link.stream = true) :
    Steps now link (link.expire now) ∧ ((link.expire now).stream = true →
      (link.expire now).pendingKind ≠ .none → (link.expire now).Sendable now) := by
  unfold expire
  split
  · have counted : Steps now link link.countDropped := by
      unfold countDropped
      split
      · exact .single (.note link link.parser _ rfl)
      · exact .refl
    dsimp only
    split
    · exact ⟨counted.tail (.close _ _), fun open_ => by cases open_⟩
    · rename_i unsent
      exact ⟨counted.tail (.drop _ (not_not.mp unsent)), fun _ busy => absurd rfl busy⟩
  · rename_i sendable
    refine ⟨.refl, fun _ busy => ⟨connected, busy, ?_, ?_⟩⟩
    · by_contra revoked
      exact sendable ⟨busy, .inl (by simpa using revoked)⟩
    · by_contra late
      exact sendable ⟨busy, .inr (by omega)⟩

/-- A transmission is one write, and only the stream can make it fail. -/
theorem transmit_settles {link : MavlinkLink R} {now : Int} (buffered : link.Buffered)
    (sendable : link.pendingKind ≠ .none → link.Sendable now) (accept : Except String Nat) :
    Settles now link (link.transmit now accept) := by
  unfold transmit
  split
  · exact .done .refl
  rename_i busy
  have allowed := sendable busy
  have unsent := buffered.unsent busy
  cases accept with
  | error what =>
      exact ⟨.single (.part link 0 allowed (by omega)), .inr ⟨what, rfl⟩⟩
  | ok accepted =>
      dsimp only
      split
      · rename_i rest
        change link.pendingOffset + min accepted (link.pending.length - link.pendingOffset) ≠
          link.pending.length at rest
        exact .done (.single (.part link accepted allowed (by omega)))
      · rename_i whole
        change ¬ link.pendingOffset + min accepted (link.pending.length - link.pendingOffset) ≠
          link.pending.length at whole
        have whole : link.pending.length ≤ link.pendingOffset + accepted := by omega
        unfold finish
        split
        · exact .done (.single (.sentMeasurement link _ accepted allowed whole ‹_› rfl))
        · rename_i kind
          have due : link.session.alignmentDue now = true := by
            have permitted := allowed.permitted
            rwa [eligible, show link.pendingKind = .alignment from kind] at permitted
          split
          · rename_i thrown refused
            change link.session.alignmentSent now = .error thrown at refused
            rw [FlightSession.alignmentSent, if_pos due] at refused
            cases refused
          · rename_i session counted
            exact .done (.single (.sentAlignment link session accepted allowed whole kind counted))
        · rename_i notMeasurement notAlignment
          have kind : link.pendingKind = .heartbeat := by
            cases shape : link.pendingKind with
            | none => exact absurd shape busy
            | measurement => exact absurd shape notMeasurement
            | alignment => exact absurd shape notAlignment
            | heartbeat => rfl
          exact .done (.single (.sentHeartbeat link accepted allowed whole kind))

/-- The sending part of a poll throws nothing but an I/O error. -/
theorem advance_settles (packs : PacksFit R) {link : MavlinkLink R} {now : Int}
    (buffered : link.Buffered) (connected : link.stream = true) (full : Bool)
    (accept : Except String Nat) : Settles now link (link.advance now full accept) := by
  unfold advance
  split
  · exact .done (.single (.close link _))
  obtain ⟨steps, sendable⟩ := expire_steps link now connected
  have buffered := buffered.steps packs (Steps.links steps)
  refine .after steps ?_
  generalize link.expire now = link at buffered sendable ⊢
  dsimp only
  split
  · exact .done .refl
  rename_i open_
  rw [Bool.not_eq_true', Bool.not_eq_false] at open_
  split
  · exact .done .refl
  split
  · rename_i error
    split at error
    · rename_i idle
      have empty := (buffered.empty idle).1
      split at error
      · rw [queueAlignment, queue_idle packs empty] at error
        cases error
      · split at error
        · rw [queueHeartbeat_idle packs empty] at error
          cases error
        · cases error
    · cases error
  · rename_i queued
    split at queued
    · rename_i idle
      have empty := (buffered.empty idle).1
      split at queued
      · rename_i due
        rw [Bool.and_eq_true] at due
        rw [queueAlignment, queue_idle packs empty] at queued
        cases queued
        have moved : QuietStep now link _ := .request link open_ due.1 idle due.2
        refine .after (.single moved) (transmit_settles (buffered.step packs moved.1) ?_ accept)
        have timeout := link.session.timeouts_positive.2.1
        rw [← buffered.limits] at timeout
        exact fun busy => ⟨open_, busy, due.2, by change now ≤ now + _; omega⟩
      · split at queued
        · rw [queueHeartbeat_idle packs empty] at queued
          cases queued
          have moved : QuietStep now link _ := .beat link open_ idle
          refine .after (.single moved) (transmit_settles (buffered.step packs moved.1) ?_ accept)
          exact fun busy => ⟨open_, busy, rfl, by change now ≤ now + _; omega⟩
        · cases queued
          exact transmit_settles buffered (fun busy => absurd idle busy) accept
    · cases queued
      exact transmit_settles buffered (sendable open_) accept

omit [Scalar R] in
/-- Input leaves the stream open. -/
theorem receiveBytes_stream (link : MavlinkLink R) (input : List UInt8) (now : Int) :
    (link.receiveBytes input now).stream = link.stream := by
  induction input generalizing link with
  | nil => rfl
  | cons byte rest ih =>
      refine (ih _).trans ?_
      unfold receiveByte receive
      dsimp only
      repeat' split
      all_goals rfl

/-- A poll of an open stream throws nothing but an I/O error. -/
theorem service_settles (packs : PacksFit R) {link : MavlinkLink R} (buffered : link.Buffered)
    (connected : link.stream = true) (now : Int) (transport : Transport) :
    Settles now link (link.service now transport) := by
  unfold service
  have ticked : Steps now link (link.tick now) := .single (.tick link)
  cases transport.waiting with
  | error what => exact ⟨ticked, .inr ⟨what, rfl⟩⟩
  | ok waiting =>
      have steps := ticked.trans (receiveBytes_steps (link.tick now) (waiting.take inputCapacity) now)
      refine .after steps (advance_settles packs (buffered.steps packs (Steps.links steps)) ?_ _ _)
      rw [receiveBytes_stream]
      exact connected

/-- A poll is a sequence of primitive steps, and it throws nothing. -/
theorem poll_steps (packs : PacksFit R) {link : MavlinkLink R} (buffered : link.Buffered)
    (now : Int) (transport : Transport) :
    Steps now link (link.poll now transport).1 ∧ (link.poll now transport).2 = .ok () := by
  unfold poll
  split
  · exact ⟨.refl, rfl⟩
  rename_i connected
  rw [Bool.not_eq_true', Bool.not_eq_false] at connected
  obtain ⟨steps, thrown⟩ := service_settles packs buffered connected now transport
  split
  · rename_i reason result
    rw [result] at steps
    exact ⟨steps.tail (.close _ _), rfl⟩
  · rename_i noError
    refine ⟨steps, ?_⟩
    rcases thrown with done | ⟨what, failed⟩
    · exact done
    · exact (noError _ what (Prod.ext rfl failed)).elim

end Poll

/-- What a publication does: a tick, and the queueing where every check passed. It throws at
negative times only. -/
theorem publish_cases (packs : PacksFit R) {link : MavlinkLink R} (buffered : link.Buffered)
    (estimate : EstimatorEstimate R) (now : Int) :
    (∃ result, result ≠ .queued ∧ link.publish estimate now = (link.tick now, .ok result)) ∨
    (∃ thrown, now < 0 ∧ link.publish estimate now = (link.tick now, .error thrown)) ∨
    ∃ measurement, (link.tick now).Publishable estimate measurement now ∧
      link.publish estimate now =
        ((link.tick now).published estimate measurement now, .ok .queued) := by
  have ticked : Steps now link (link.tick now) := .single (.tick link)
  have buffered := buffered.steps packs (Steps.links ticked)
  unfold publish
  generalize link.tick now = middle at buffered
  dsimp only
  split
  · exact .inl ⟨_, by simp, rfl⟩
  rename_i allowed
  simp only [Bool.or_eq_true, Bool.not_eq_true', not_or, Bool.not_eq_false] at allowed
  split
  · rename_i unknown
    exact absurd unknown ((middle.session.canPublish_iff now).mp allowed.2).1
  rename_i generation current
  split
  · rename_i thrown refused
    have positive := middle.session.timeouts_positive.2.2.2
    exact .inr (.inl ⟨thrown, by have := validateEstimate_error refused; omega, rfl⟩)
  rename_i rejection valid
  split
  · exact .inl ⟨_, by simp, rfl⟩
  rename_i clean
  rw [not_not] at clean
  split
  · exact .inl ⟨_, by simp, rfl⟩
  rename_i newer
  split
  · exact .inl ⟨_, by simp, rfl⟩
  rename_i room
  simp only [Bool.or_eq_true, not_or] at room
  have valid : validateEstimate estimate generation now middle.session.config.maxEstimateAge =
      .ok .none := clean ▸ valid
  obtain ⟨measurement, converted⟩ := middle.transform.transform_ok valid
  simp only [converted]
  split
  · exact .inl ⟨_, by simp, rfl⟩
  have idle : middle.pendingKind = .none := by simpa using room.1.1
  rw [queueMeasurement_idle packs (buffered.empty idle).1]
  refine .inr (.inr ⟨measurement, ?_, rfl⟩)
  refine ⟨allowed.1.2, allowed.1.1, idle, allowed.2, ⟨generation, current, valid⟩, ?_, converted⟩
  intro last known
  simpa [known] using newer

/-- A publication is a sequence of primitive steps. -/
theorem publish_steps (packs : PacksFit R) {link : MavlinkLink R} (buffered : link.Buffered)
    (estimate : EstimatorEstimate R) (now : Int) :
    Steps now link (link.publish estimate now).1 := by
  have ticked : Steps now link (link.tick now) := .single (.tick link)
  rcases publish_cases packs buffered estimate now with
    ⟨_, _, same⟩ | ⟨_, _, same⟩ | ⟨measurement, checks, same⟩
  · rw [same]
    exact ticked
  · rw [same]
    exact ticked
  · rw [same]
    exact ticked.tail (.publish _ estimate measurement checks)

/-- A start of a session is a sequence of primitive steps, even if it throws. -/
theorem startSession_steps (link : MavlinkLink R) (generation : SessionGeneration) (now : Int) :
    Relation.ReflTransGen (LinkStep now) link (link.startSession generation).1 := by
  unfold startSession
  split
  · exact .single (.close link _)
  rename_i whole
  split
  · exact .refl
  · exact .single (.restart link _ generation (not_not.mp whole) ‹_›)

/-- Every other call keeps the session. -/
theorem apply_quiet (packs : PacksFit R) {link : MavlinkLink R} (buffered : link.Buffered)
    (operation : Operation R) (now : Int) (timed : ∀ time, operation.time = some time → time = now)
    (other : ∀ generation, operation ≠ .startSession generation) :
    Steps now link (link.apply operation) := by
  cases operation with
  | startSession generation => exact absurd rfl (other generation)
  | endSession => exact .single (.withdraw link)
  | publish estimate time =>
      obtain rfl := timed time rfl
      exact publish_steps packs buffered estimate time
  | poll time transport =>
      obtain rfl := timed time rfl
      exact (poll_steps packs buffered time transport).1

/-- Every call of the loop is a sequence of primitive steps at its time. -/
theorem apply_steps (packs : PacksFit R) {link : MavlinkLink R} (buffered : link.Buffered)
    (operation : Operation R) (now : Int) (timed : ∀ time, operation.time = some time → time = now) :
    Relation.ReflTransGen (LinkStep now) link (link.apply operation) := by
  by_cases start : ∃ generation, operation = .startSession generation
  · obtain ⟨generation, rfl⟩ := start
    exact startSession_steps link generation now
  · exact Steps.links (apply_quiet packs buffered operation now timed (not_exists.mp start))

end MavlinkLink
end Vio
