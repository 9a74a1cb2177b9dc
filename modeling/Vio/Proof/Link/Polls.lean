import Vio.Proof.Link.Ledger
import Vio.Proof.Link.Runs

namespace Vio
open Mavlink History

/-- The estimate whose packets an event queues. -/
def LinkEvent.publication {R : Type} [Mavlink R] : LinkEvent R → Option (EstimatorEstimate R)
  | .queued ⟨_, .measurement estimate _ _⟩ _ => some estimate
  | _ => none

namespace MavlinkLink
variable {R : Type} [Mavlink R]

/-- The armed flag of a heartbeat of the configured controller. -/
def controllerHeartbeat (config : MavlinkLinkConfig) (message : Message) : Option Bool :=
  if message.sysid ≠ config.controller.system ∨ message.compid ≠ config.controller.component then none
  else
    match message.body with
    | .heartbeat heartbeat =>
        if heartbeat.autopilot = autopilotArdupilotmega ∧ heartbeat.type ≠ typeGcs then
          some (heartbeat.baseMode &&& modeFlagSafetyArmed ≠ 0)
        else none
    | _ => none

/-- The controller's heartbeat that a byte completes. -/
def completedHeartbeat (config : MavlinkLinkConfig) : Framing → Option Bool
  | .ok message => controllerHeartbeat config message
  | _ => none

/-- The parser after some input. -/
def parserAfter (parser : Parser R) (input : List UInt8) : Parser R :=
  input.foldl (fun parser byte => (frameChar (R := R) parser byte).1) parser

/-- The armed flags of the controller's heartbeats that the input completes, in order. -/
def heartbeatsIn (config : MavlinkLinkConfig) : Parser R → List UInt8 → List Bool
  | _, [] => []
  | parser, byte :: rest =>
      (completedHeartbeat config (frameChar (R := R) parser byte).2).toList ++
        heartbeatsIn config (frameChar (R := R) parser byte).1 rest

/-- The parser goes on where the first bytes leave it. -/
theorem heartbeatsIn_append (config : MavlinkLinkConfig) (parser : Parser R)
    (first second : List UInt8) :
    heartbeatsIn config parser (first ++ second) =
      heartbeatsIn config parser first ++ heartbeatsIn config (parserAfter parser first) second := by
  induction first generalizing parser with
  | nil => rfl
  | cons byte first inductionHypothesis =>
      rw [List.cons_append, heartbeatsIn, inductionHypothesis, heartbeatsIn, List.append_assoc]
      rfl

/-- The link heard the same heartbeats, queued the same estimates and handed the same writes to the
stream. -/
structure Silent (link next : MavlinkLink R) : Prop where
  parser : next.parser = link.parser
  config : next.config = link.config
  controller : heard LinkEvent.controller next.history = heard LinkEvent.controller link.history
  calls : heard LinkEvent.call next.history = heard LinkEvent.call link.history
  publications : heard LinkEvent.publication next.history = heard LinkEvent.publication link.history

namespace Silent
variable {link middle next : MavlinkLink R}

theorem refl (link : MavlinkLink R) : link.Silent link := ⟨rfl, rfl, rfl, rfl, rfl⟩

/-- Two silent parts make a silent whole. -/
theorem trans (first : link.Silent middle) (second : middle.Silent next) : link.Silent next where
  parser := second.parser.trans first.parser
  config := second.config.trans first.config
  controller := second.controller.trans first.controller
  calls := second.calls.trans first.calls
  publications := second.publications.trans first.publications

/-- An event of another kind is silent. -/
theorem event (event : LinkEvent R) (parser : next.parser = link.parser)
    (config : next.config = link.config) (history : next.history = event :: link.history)
    (controller : event.controller = none) (call : event.call = none)
    (publication : event.publication = none) : link.Silent next where
  parser := parser
  config := config
  controller := by rw [history, heard_cons_none controller]
  calls := by rw [history, heard_cons_none call]
  publications := by rw [history, heard_cons_none publication]

theorem same (parser : next.parser = link.parser) (config : next.config = link.config)
    (history : next.history = link.history) : link.Silent next :=
  ⟨parser, config, by rw [history], by rw [history], by rw [history]⟩

end Silent

theorem tick_silent (link : MavlinkLink R) (now : Int) : link.Silent (link.tick now) := by
  by_cases lost : link.session.state = .aligned ∧ (link.session.tick now).state ≠ .aligned
  · exact .event (.revoked now) rfl rfl (if_pos lost) rfl rfl rfl
  · exact .same rfl rfl (if_neg lost)

section Receive
variable (link : MavlinkLink R)

/-- A heartbeat is heard, and it writes and queues nothing. -/
theorem heartbeat_heard (armed : Bool) (now : Int) :
    heard LinkEvent.controller (link.heartbeat armed now).history =
      heard LinkEvent.controller link.history ++ [(armed, now)] ∧
    heard LinkEvent.call (link.heartbeat armed now).history = heard LinkEvent.call link.history ∧
    heard LinkEvent.publication (link.heartbeat armed now).history =
      heard LinkEvent.publication link.history := by
  have ticked := link.tick_silent now
  refine ⟨?_, ?_, ?_⟩
  · rw [← ticked.controller]
    exact heard_cons_some rfl
  · rw [← ticked.calls]
    exact heard_cons_none rfl
  · rw [← ticked.publications]
    exact heard_cons_none rfl

theorem acknowledge_silent (result : AlignmentResult) (now : Int) :
    link.Silent (link.acknowledge result now) :=
  (link.tick_silent now).trans
    (.event (.acknowledged result now) rfl rfl rfl rfl rfl rfl)

/-- The link heard the given heartbeats, and nothing else of note happened. -/
structure Hears (heartbeats : List (Bool × Int)) (parser : Parser R) (next : MavlinkLink R) : Prop where
  parser : next.parser = parser
  config : next.config = link.config
  controller : heard LinkEvent.controller next.history =
    heard LinkEvent.controller link.history ++ heartbeats
  calls : heard LinkEvent.call next.history = heard LinkEvent.call link.history
  publications : heard LinkEvent.publication next.history = heard LinkEvent.publication link.history

variable {link} in
/-- A silent part hears no heartbeat. -/
theorem Silent.hears {next : MavlinkLink R} (silent : link.Silent next) :
    link.Hears [] link.parser next where
  parser := silent.parser
  config := silent.config
  controller := silent.controller.trans (List.append_nil _).symm
  calls := silent.calls
  publications := silent.publications

/-- A message adds the heartbeat that it carries. -/
theorem receive_hears (message : Message) (now : Int) :
    link.Hears ((controllerHeartbeat link.config message).map fun armed => (armed, now)).toList
      link.parser (link.receive message now) := by
  unfold receive controllerHeartbeat
  split
  · exact (Silent.refl link).hears
  cases message.body with
  | heartbeat heartbeat =>
      dsimp only
      split
      · obtain ⟨heartbeats, calls, publications⟩ :=
          link.heartbeat_heard (heartbeat.baseMode &&& modeFlagSafetyArmed ≠ 0) now
        exact ⟨rfl, rfl, heartbeats, calls, publications⟩
      · exact (Silent.refl link).hears
  | commandAck ack =>
      dsimp only
      split
      · exact (Silent.refl link).hears
      · exact (link.acknowledge_silent _ now).hears
  | other msgid => exact (Silent.refl link).hears

/-- A byte hears the heartbeat that it completes, if it does. -/
theorem receiveByte_hears (byte : UInt8) (now : Int) :
    link.Hears ((completedHeartbeat link.config (frameChar (R := R) link.parser byte).2).toList.map
        fun armed => (armed, now)) (frameChar (R := R) link.parser byte).1
      (receiveByte now link byte) := by
  unfold receiveByte completedHeartbeat
  dsimp only
  cases (frameChar (R := R) link.parser byte).2 with
  | ok message =>
      have hears :=
        receive_hears { link with parser := (frameChar (R := R) link.parser byte).1 } message now
      refine ⟨hears.parser, hears.config, hears.controller.trans ?_, hears.calls, hears.publications⟩
      rw [Option.toList_map]
  | incomplete | badCrc | badSignature => exact ⟨rfl, rfl, (List.append_nil _).symm, rfl, rfl⟩

/-- The input loop hears every heartbeat of the input. -/
theorem receiveBytes_hears (input : List UInt8) (now : Int) :
    link.Hears ((heartbeatsIn link.config link.parser input).map fun armed => (armed, now))
      (parserAfter link.parser input) (link.receiveBytes input now) := by
  induction input generalizing link with
  | nil => exact (Silent.refl link).hears
  | cons byte rest inductionHypothesis =>
      have first := receiveByte_hears link byte now
      have later := inductionHypothesis (receiveByte now link byte)
      rw [first.config, first.parser] at later
      refine ⟨later.parser, later.config.trans first.config, later.controller.trans ?_,
        later.calls.trans first.calls, later.publications.trans first.publications⟩
      rw [first.controller, heartbeatsIn, List.map_append, List.append_assoc]

end Receive

/-- A write call of a poll whose input left the given link. -/
structure Permits (link : MavlinkLink R) (now : Int) (call : WriteCall) : Prop where
  time : call.now = now
  session : call.session = link.session
  open_ : link.session.state ≠ .failed
  measurement : call.kind = .measurement → link.session.canPublish now = true
  alignment : call.kind = .alignment → link.session.alignmentDue now = true

/-- After its input a poll hands nothing, or one write call that the session permits. -/
structure Advances (link : MavlinkLink R) (now : Int) (full : Bool) (next : MavlinkLink R) : Prop where
  parser : next.parser = link.parser
  config : next.config = link.config
  controller : heard LinkEvent.controller next.history = heard LinkEvent.controller link.history
  publications : heard LinkEvent.publication next.history = heard LinkEvent.publication link.history
  calls : heard LinkEvent.call next.history = heard LinkEvent.call link.history ∨
    full = false ∧ ∃ call, heard LinkEvent.call next.history =
      heard LinkEvent.call link.history ++ [call] ∧ link.Permits now call

theorem Silent.advances {link next : MavlinkLink R} (silent : link.Silent next) (now : Int)
    (full : Bool) : link.Advances now full next :=
  ⟨silent.parser, silent.config, silent.controller, silent.publications, .inl silent.calls⟩

/-- A silent part before the writes of a poll changes nothing of them. -/
theorem Silent.then_advances {link middle next : MavlinkLink R} {now : Int} {full : Bool}
    (silent : link.Silent middle) (session : middle.session = link.session)
    (advances : middle.Advances now full next) : link.Advances now full next := by
  refine ⟨advances.parser.trans silent.parser, advances.config.trans silent.config,
    advances.controller.trans silent.controller,
    advances.publications.trans silent.publications, ?_⟩
  rcases advances.calls with same | ⟨room, call, more, permits⟩
  · exact .inl (same.trans silent.calls)
  · rw [silent.calls] at more
    refine .inr ⟨room, call, more, permits.time, permits.session.trans session, ?_, ?_, ?_⟩
    · rw [← session]
      exact permits.open_
    · rw [← session]
      exact permits.measurement
    · rw [← session]
      exact permits.alignment

/-- A silent part after the writes of a poll changes nothing of them. -/
theorem Advances.then_silent {link middle next : MavlinkLink R} {now : Int} {full : Bool}
    (advances : link.Advances now full middle) (silent : middle.Silent next) :
    link.Advances now full next where
  parser := silent.parser.trans advances.parser
  config := silent.config.trans advances.config
  controller := silent.controller.trans advances.controller
  publications := silent.publications.trans advances.publications
  calls := by
    rw [silent.calls]
    exact advances.calls

theorem fail_silent (link : MavlinkLink R) (reason : String) : link.Silent (link.fail reason) :=
  .same rfl rfl rfl

/-- A deadline that runs out writes nothing. -/
theorem expire_silent (link : MavlinkLink R) (now : Int) :
    link.Silent (link.expire now) ∧
      ((link.expire now).stream = true → (link.expire now).session = link.session) := by
  unfold expire
  split
  · have counted : link.Silent link.countDropped ∧ link.countDropped.session = link.session := by
      unfold countDropped
      split <;> exact ⟨.same rfl rfl rfl, rfl⟩
    dsimp only
    split
    · exact ⟨counted.1.trans (fail_silent _ _), fun connected => by cases connected⟩
    · exact ⟨counted.1.trans (.same rfl rfl rfl), fun _ => counted.2⟩
  · exact ⟨.refl link, fun _ => rfl⟩

/-- The write hands one call, whatever the stream does. -/
theorem transmit_advances {link : MavlinkLink R} {now : Int} (open_ : link.session.state ≠ .failed)
    (sendable : link.pendingKind ≠ .none → link.Sendable now) (accept : Except String Nat) :
    link.Advances now false (link.transmit now accept).1 := by
  unfold transmit
  split
  · exact (Silent.refl link).advances now false
  rename_i busy
  have allowed := (sendable busy).permitted
  have handed (accepted : Nat) (next : MavlinkLink R) (parser : next.parser = link.parser)
      (config : next.config = link.config)
      (history : next.history = .handed (link.writeCall accepted now) :: link.history) :
      link.Advances now false next := by
    refine ⟨parser, config, by rw [history, heard_cons_none rfl], by rw [history, heard_cons_none rfl],
      .inr ⟨rfl, link.writeCall accepted now, ?_, rfl, rfl, open_, ?_, ?_⟩⟩
    · rw [history]
      exact heard_cons_some rfl
    · intro kind
      rwa [eligible, show link.pendingKind = .measurement from kind] at allowed
    · intro kind
      rwa [eligible, show link.pendingKind = .alignment from kind] at allowed
  cases accept with
  | error what => exact handed 0 _ rfl rfl rfl
  | ok accepted =>
      dsimp only
      split
      · exact handed accepted _ rfl rfl rfl
      · unfold finish
        split
        · exact handed accepted _ rfl rfl rfl
        · split
          · exact handed accepted _ rfl rfl rfl
          · exact handed accepted _ rfl rfl rfl
        · exact handed accepted _ rfl rfl rfl

section Poll
variable [Scalar R]

/-- After the input at most one write is made, and the session permits it. -/
theorem advance_advances (packs : PacksFit R) {link : MavlinkLink R} (buffered : link.Buffered)
    (connected : link.stream = true) (now : Int) (full : Bool) (accept : Except String Nat) :
    link.Advances now full (link.advance now full accept).1 := by
  unfold advance
  split
  · exact (fail_silent link _).advances now full
  rename_i open_
  obtain ⟨steps, sendable⟩ := expire_steps link now connected
  obtain ⟨silent, session⟩ := link.expire_silent now
  have buffered := buffered.steps packs (Steps.links steps)
  generalize link.expire now = middle at buffered sendable silent session ⊢
  dsimp only
  split
  · exact silent.advances now full
  rename_i alive
  rw [Bool.not_eq_true', Bool.not_eq_false] at alive
  have same := session alive
  split
  · exact silent.advances now full
  rename_i room
  rw [Bool.not_eq_true] at room
  subst room
  rw [← same] at open_
  refine silent.then_advances same ?_
  have filled (content : Content R) (deadline : Int)
      (other : LinkEvent.publication (.queued ⟨middle.transmitStatus, content⟩ now) = none) :
      middle.Silent (middle.filled content deadline now) :=
    .event (.queued ⟨middle.transmitStatus, content⟩ now) rfl rfl rfl rfl rfl other
  split
  · rename_i error
    split at error
    · rename_i idle
      have empty := (buffered.empty idle).1
      split at error
      · rw [queueAlignment, queue_idle packs empty] at error
        cases error
      · split at error
        · rw [queueHeartbeat_idle packs empty] at error
          cases error
        · cases error
    · cases error
  · rename_i queued
    split at queued
    · rename_i idle
      have empty := (buffered.empty idle).1
      split at queued
      · rename_i due
        rw [Bool.and_eq_true] at due
        rw [queueAlignment, queue_idle packs empty] at queued
        cases queued
        refine (filled (.alignment middle.alignmentCommand)
          (now + middle.config.session.alignmentTimeout) rfl).then_advances rfl ?_
        refine transmit_advances (by exact open_) (fun busy => ?_) accept
        have timeout := middle.session.timeouts_positive.2.1
        rw [← buffered.limits] at timeout
        exact ⟨alive, busy, due.2, by change now ≤ now + _; omega⟩
      · split at queued
        · rw [queueHeartbeat_idle packs empty] at queued
          cases queued
          have beat : middle.Silent { middle.filled (.heartbeat onboardHeartbeat) (now + 1000000000) now with
              nextHeartbeat := now + 1000000000 } :=
            (filled (.heartbeat onboardHeartbeat) (now + 1000000000) rfl).trans (.same rfl rfl rfl)
          refine beat.then_advances rfl ?_
          refine transmit_advances (by exact open_) (fun busy => ?_) accept
          exact ⟨alive, busy, rfl, by change now ≤ now + _; omega⟩
        · cases queued
          exact transmit_advances open_ (fun busy => absurd idle busy) accept
    · cases queued
      exact transmit_advances open_ (sendable alive) accept

/-- What one poll reads, and what it may hand to the stream afterwards. -/
theorem poll_reads (packs : PacksFit R) {link : MavlinkLink R} (buffered : link.Buffered) (now : Int)
    (transport : Transport) :
    link.Silent (link.poll now transport).1 ∧
        (link.stream = false ∨ ∃ what, transport.waiting = .error what) ∨
      link.stream = true ∧ ∃ waiting, transport.waiting = .ok waiting ∧
        ((link.tick now).receiveBytes (waiting.take inputCapacity) now).Advances now
          ((waiting.take inputCapacity).length = inputCapacity) (link.poll now transport).1 := by
  unfold poll
  split
  · rename_i closed
    rw [Bool.not_eq_true'] at closed
    exact .inl ⟨.refl link, .inl closed⟩
  rename_i connected
  rw [Bool.not_eq_true', Bool.not_eq_false] at connected
  have ticked := link.tick_silent now
  cases reads : transport.waiting with
  | error what =>
      refine .inl ⟨?_, .inr ⟨what, rfl⟩⟩
      simp only [service, reads]
      exact ticked.trans (fail_silent _ _)
  | ok waiting =>
      refine .inr ⟨connected, waiting, rfl, ?_⟩
      have steps := tick_receiveBytes_steps link (waiting.take inputCapacity) now
      have buffered := buffered.steps packs (Steps.links steps)
      have open_ : ((link.tick now).receiveBytes (waiting.take inputCapacity) now).stream = true := by
        rw [receiveBytes_stream]
        exact connected
      have advanced := advance_advances packs buffered open_ now
        ((waiting.take inputCapacity).length = inputCapacity) transport.accept
      simp only [service, reads]
      split
      · rename_i reason result
        rw [result] at advanced
        exact advanced.then_silent (fail_silent _ _)
      · exact advanced

/-- The estimate that a call queued. -/
def queuedBy (link : MavlinkLink R) : Operation R → Option (EstimatorEstimate R)
  | .publish estimate now =>
      match (link.publish estimate now).2 with
      | .ok .queued => some estimate
      | _ => none
  | _ => none

/-- Every call but a poll hears nothing and hands nothing, and only a publication that returns
`Queued` queues an estimate. -/
theorem apply_hears (packs : PacksFit R) {link : MavlinkLink R} (buffered : link.Buffered)
    (operation : Operation R) (other : ∀ now transport, operation ≠ .poll now transport) :
    (link.apply operation).parser = link.parser ∧ (link.apply operation).config = link.config ∧
    heard LinkEvent.controller (link.apply operation).history =
      heard LinkEvent.controller link.history ∧
    heard LinkEvent.call (link.apply operation).history = heard LinkEvent.call link.history ∧
    heard LinkEvent.publication (link.apply operation).history =
      heard LinkEvent.publication link.history ++ (link.queuedBy operation).toList := by
  have quiet (none : link.queuedBy operation = none) (silent : link.Silent (link.apply operation)) :
      (link.apply operation).parser = link.parser ∧ (link.apply operation).config = link.config ∧
      heard LinkEvent.controller (link.apply operation).history =
        heard LinkEvent.controller link.history ∧
      heard LinkEvent.call (link.apply operation).history = heard LinkEvent.call link.history ∧
      heard LinkEvent.publication (link.apply operation).history =
        heard LinkEvent.publication link.history ++ (link.queuedBy operation).toList := by
    rw [none]
    exact ⟨silent.parser, silent.config, silent.controller, silent.calls,
      silent.publications.trans (List.append_nil _).symm⟩
  cases operation with
  | startSession generation =>
      refine quiet rfl ?_
      simp only [apply, startSession]
      split
      · exact fail_silent link _
      split
      · exact .refl link
      · exact .event (.started generation) rfl rfl rfl rfl rfl rfl
  | endSession =>
      refine quiet rfl ?_
      simp only [apply]
      rcases link.endSession_cases with ⟨_, same⟩ | ⟨_, same⟩ <;> rw [same] <;>
        exact .event .ended rfl rfl rfl rfl rfl rfl
  | publish estimate now =>
      have ticked := link.tick_silent now
      rcases publish_cases packs buffered estimate now with
        ⟨result, rejected, same⟩ | ⟨_, _, same⟩ | ⟨measurement, _, same⟩
      · refine quiet ?_ ?_
        · simp only [queuedBy, same]
          cases result with
          | queued => exact absurd rfl rejected
          | held | invalidEstimate | outOfOrder | busy => rfl
        · simp only [apply, same]
          exact ticked
      · refine quiet ?_ ?_
        · simp only [queuedBy, same]
        · simp only [apply, same]
          exact ticked
      · simp only [apply, queuedBy, same]
        refine ⟨rfl, rfl, (heard_cons_none rfl).trans ticked.controller,
          (heard_cons_none rfl).trans ticked.calls, ?_⟩
        rw [← ticked.publications]
        exact heard_cons_some rfl
  | poll now transport => exact absurd rfl (other now transport)

/-- Every call hands one permitted write at most, and only a poll that read all input does. -/
theorem apply_calls (packs : PacksFit R) {link : MavlinkLink R} (buffered : link.Buffered)
    (operation : Operation R) :
    heard LinkEvent.call (link.apply operation).history = heard LinkEvent.call link.history ∨
    ∃ now transport waiting call, operation = .poll now transport ∧ link.stream = true ∧
      transport.waiting = .ok waiting ∧ waiting.length < inputCapacity ∧
      heard LinkEvent.call (link.apply operation).history =
        heard LinkEvent.call link.history ++ [call] ∧
      ((link.tick now).receiveBytes waiting now).Permits now call := by
  by_cases poll : ∃ now transport, operation = .poll now transport
  · obtain ⟨now, transport, rfl⟩ := poll
    rcases poll_reads packs buffered now transport with
      ⟨silent, _⟩ | ⟨connected, waiting, reads, advances⟩
    · exact .inl silent.calls
    · have before : heard LinkEvent.call
          ((link.tick now).receiveBytes (waiting.take inputCapacity) now).history =
            heard LinkEvent.call link.history :=
        (receiveBytes_hears _ _ now).calls.trans (link.tick_silent now).calls
      rcases advances.calls with same | ⟨room, call, more, permits⟩
      · exact .inl (same.trans before)
      · have short : waiting.length < inputCapacity := by
          have := of_decide_eq_false room
          rw [List.length_take] at this
          omega
        rw [List.take_of_length_le (by omega)] at permits
        exact .inr ⟨now, transport, waiting, call, rfl, connected, reads, short,
          more.trans (by rw [before]), permits⟩
  · refine .inl (apply_hears packs buffered operation fun now transport same => ?_).2.2.2.1
    exact poll ⟨now, transport, same⟩

/-- The queued estimates are those of the publications that returned `Queued`. -/
theorem apply_publications (packs : PacksFit R) {link : MavlinkLink R} (buffered : link.Buffered)
    (operation : Operation R) :
    heard LinkEvent.publication (link.apply operation).history =
      heard LinkEvent.publication link.history ++ (link.queuedBy operation).toList := by
  by_cases poll : ∃ now transport, operation = .poll now transport
  · obtain ⟨now, transport, rfl⟩ := poll
    refine Eq.trans ?_ (List.append_nil _).symm
    rcases poll_reads packs buffered now transport with
      ⟨silent, _⟩ | ⟨connected, waiting, reads, advances⟩
    · exact silent.publications
    · exact advances.publications.trans
        ((receiveBytes_hears _ _ now).publications.trans (link.tick_silent now).publications)
  · refine (apply_hears packs buffered operation fun now transport same => ?_).2.2.2.2
    exact poll ⟨now, transport, same⟩

end Poll

end MavlinkLink
end Vio
