import Vio.Proof.Link.FailClosed

namespace Vio
open Mavlink History

namespace MavlinkLink
variable {R : Type} [Scalar R] [Mavlink R]

/-- What waits in the stream when a call reads it. -/
def waitingAt (link : MavlinkLink R) : Operation R → Option (List UInt8)
  | .poll _ transport => if link.stream then transport.waiting.toOption else none
  | _ => none

/-- The bytes that a call parses. -/
def parsedBy (link : MavlinkLink R) (operation : Operation R) : List UInt8 :=
  ((link.waitingAt operation).getD []).take inputCapacity

/-- The bytes that the calls parse, in order. -/
def parsed : MavlinkLink R → List (Operation R) → List UInt8
  | _, [] => []
  | link, operation :: rest => link.parsedBy operation ++ parsed (link.apply operation) rest

/-- The bytes that still wait after a call. -/
def unreadAfter (link : MavlinkLink R) (unread : List UInt8) (operation : Operation R) : List UInt8 :=
  match link.waitingAt operation with
  | some waiting => waiting.drop inputCapacity
  | none => unread

/-- The stream keeps what a read leaves, ahead of the bytes that come later. -/
def Keeps : MavlinkLink R → List UInt8 → List (Operation R) → Prop
  | _, _, [] => True
  | link, unread, operation :: rest =>
      (∀ waiting, link.waitingAt operation = some waiting → unread <+: waiting) ∧
        Keeps (link.apply operation) (link.unreadAfter unread operation) rest

/-- A call hears the heartbeats of the bytes that it parses. -/
theorem apply_heard (packs : PacksFit R) {link : MavlinkLink R} (buffered : link.Buffered)
    (operation : Operation R) :
    ((heard LinkEvent.controller (link.apply operation).history).map Prod.fst) =
      (heard LinkEvent.controller link.history).map Prod.fst ++
        heartbeatsIn link.config link.parser (link.parsedBy operation) ∧
    (link.apply operation).parser = parserAfter link.parser (link.parsedBy operation) ∧
    (link.apply operation).config = link.config := by
  have silent (none : link.waitingAt operation = none)
      (parser : (link.apply operation).parser = link.parser)
      (config : (link.apply operation).config = link.config)
      (controller : heard LinkEvent.controller (link.apply operation).history =
        heard LinkEvent.controller link.history) :
      ((heard LinkEvent.controller (link.apply operation).history).map Prod.fst) =
        (heard LinkEvent.controller link.history).map Prod.fst ++
          heartbeatsIn link.config link.parser (link.parsedBy operation) ∧
      (link.apply operation).parser = parserAfter link.parser (link.parsedBy operation) ∧
      (link.apply operation).config = link.config := by
    rw [parsedBy, none, controller]
    exact ⟨(List.append_nil _).symm, parser, config⟩
  by_cases poll : ∃ now transport, operation = .poll now transport
  · obtain ⟨now, transport, rfl⟩ := poll
    rcases poll_reads packs buffered now transport with
      ⟨quiet, closed | ⟨what, reads⟩⟩ | ⟨connected, waiting, reads, advances⟩
    · exact silent (by rw [waitingAt, if_neg (by simp [closed])]) quiet.parser quiet.config
        quiet.controller
    · refine silent ?_ quiet.parser quiet.config quiet.controller
      rw [waitingAt, reads]
      split <;> rfl
    · have ticked := link.tick_silent now
      obtain ⟨parser, config, heartbeats, _⟩ :=
        receiveBytes_hears (link.tick now) (waiting.take inputCapacity) now
      have read : link.parsedBy (.poll now transport) = waiting.take inputCapacity := by
        rw [parsedBy, waitingAt, if_pos connected, reads]
        rfl
      rw [ticked.config, ticked.parser] at heartbeats
      rw [read]
      refine ⟨?_, advances.parser.trans (parser.trans (by rw [ticked.parser])),
        advances.config.trans (config.trans ticked.config)⟩
      change (heard LinkEvent.controller (link.poll now transport).1.history).map Prod.fst = _
      rw [advances.controller, heartbeats, ticked.controller, List.map_append, List.map_map]
      congr 1
      exact List.map_id _
  · obtain ⟨parser, config, controller, _⟩ := apply_hears packs buffered operation
      fun now transport same => poll ⟨now, transport, same⟩
    refine silent ?_ parser config controller
    cases operation with
    | startSession | endSession | publish => rfl
    | poll now transport => exact absurd ⟨now, transport, rfl⟩ poll

/-- A run hears the heartbeats of the bytes that it parses. -/
theorem run_heard (packs : PacksFit R) {link : MavlinkLink R} (buffered : link.Buffered)
    (operations : List (Operation R)) :
    (heard LinkEvent.controller (link.run operations).history).map Prod.fst =
      (heard LinkEvent.controller link.history).map Prod.fst ++
        heartbeatsIn link.config link.parser (link.parsed operations) := by
  induction operations generalizing link with
  | nil => exact (List.append_nil _).symm
  | cons operation operations inductionHypothesis =>
      obtain ⟨heartbeats, parser, config⟩ := apply_heard packs buffered operation
      refine (inductionHypothesis (apply_buffered packs buffered operation)).trans ?_
      rw [heartbeats, parser, config, parsed, heartbeatsIn_append, List.append_assoc]

/-- One more operation parses its own input behind the earlier one. -/
theorem parsed_snoc (link : MavlinkLink R) (first : List (Operation R)) (operation : Operation R) :
    link.parsed (first ++ [operation]) = link.parsed first ++ (link.run first).parsedBy operation := by
  induction first generalizing link with
  | nil => exact List.append_nil _
  | cons earlier first inductionHypothesis =>
      rw [List.cons_append, parsed, inductionHypothesis, parsed, List.append_assoc]
      rfl

/-- The parsed bytes and the unread ones begin with what was unread at first. -/
theorem Keeps.prefix_parsed {link : MavlinkLink R} {unread : List UInt8} {first rest : List (Operation R)}
    (keeps : link.Keeps unread (first ++ rest)) :
    ∃ left, (link.run first).Keeps left rest ∧ unread <+: link.parsed first ++ left := by
  induction first generalizing link unread with
  | nil => exact ⟨unread, keeps, List.prefix_rfl⟩
  | cons operation first inductionHypothesis =>
      obtain ⟨ahead, later⟩ := keeps
      obtain ⟨left, still, begins⟩ := inductionHypothesis later
      refine ⟨left, still, ?_⟩
      rw [parsed, List.append_assoc]
      cases waits : link.waitingAt operation with
      | none =>
          rw [unreadAfter, waits] at begins
          rw [parsedBy, waits]
          exact begins
      | some waiting =>
          rw [unreadAfter, waits] at begins
          rw [parsedBy, waits]
          refine (ahead waiting waits).trans ?_
          obtain ⟨rest, same⟩ := begins
          refine ⟨rest, ?_⟩
          rw [← same]
          show waiting ++ rest = waiting.take inputCapacity ++ (waiting.drop inputCapacity ++ rest)
          rw [← List.append_assoc, List.take_append_drop]

/-- The armed flag after some input is that of the last heartbeat. -/
theorem armed_after {config : MavlinkLinkConfig} {link : MavlinkLink R} (ledger : link.Ledger config)
    (now : Int) {waiting : List UInt8}
    {armed : Bool} (last : ((heard LinkEvent.controller link.history).map Prod.fst ++
      heartbeatsIn link.config link.parser waiting).getLast? = some armed) :
    ((link.tick now).receiveBytes waiting now).session.armed = armed := by
  have ticked := link.tick_silent now
  have heartbeats := (receiveBytes_hears (link.tick now) waiting now).controller
  rw [ticked.config, ticked.parser, ticked.controller] at heartbeats
  have steps := tick_receiveBytes_steps link waiting now
  have kept : ∀ {next : MavlinkLink R}, Relation.ReflTransGen (LinkStep now) link next →
      next.Ledger config := by
    intro next steps
    induction steps with
    | refl => exact ledger
    | tail _ moved inductionHypothesis => exact inductionHypothesis.step moved
  have newest := (kept (Steps.links steps)).controller
  rw [latest_eq_getLast?, heartbeats] at newest
  have flags := congrArg (Option.map Prod.fst) newest
  rw [← List.getLast?_map, List.map_append, List.map_map] at flags
  change ((heard LinkEvent.controller link.history).map Prod.fst ++
    (heartbeatsIn link.config link.parser waiting).map id).getLast? = _ at flags
  rw [List.map_id, last, Option.map_map] at flags
  cases heard : ((link.tick now).receiveBytes waiting now).session.heartbeatTime with
  | none =>
      rw [heard] at flags
      cases flags
  | some time =>
      rw [heard] at flags
      exact (Option.some.inj flags).symm

/-- What waits at a poll is parsed before any later call hands a byte. -/
theorem Keeps.parsed_before (packs : PacksFit R) {link : MavlinkLink R} (buffered : link.Buffered)
    {unread : List UInt8} {later after : List (Operation R)} {operation : Operation R}
    (keeps : link.Keeps unread (later ++ operation :: after)) {call : WriteCall}
    (hands : heard LinkEvent.call (link.run (later ++ [operation])).history =
      heard LinkEvent.call (link.run later).history ++ [call]) :
    ∃ now transport waiting, operation = .poll now transport ∧
      transport.waiting = .ok waiting ∧ (link.run later).parsedBy operation = waiting ∧
      unread <+: link.parsed later ++ waiting ∧
      (((link.run later).tick now).receiveBytes waiting now).Permits now call := by
  obtain ⟨left, still, begins⟩ := keeps.prefix_parsed
  rw [run_append] at hands
  change heard LinkEvent.call ((link.run later).apply operation).history = _ at hands
  rcases apply_calls packs (run_buffered packs buffered later) operation with
    same | ⟨now, transport, waiting, other, rfl, connected, reads, short, more, permits⟩
  · rw [same] at hands
    have := congrArg List.length hands
    simp at this
  · rw [more] at hands
    obtain rfl : other = call := by simpa using hands
    have waits : (link.run later).waitingAt (.poll now transport) = some waiting := by
      rw [waitingAt, if_pos connected, reads]
      rfl
    refine ⟨now, transport, waiting, rfl, reads, ?_, ?_, permits⟩
    · rw [parsedBy, waits]
      exact List.take_of_length_le (Nat.le_of_lt short)
    · exact begins.trans (List.prefix_append_right_inj _ |>.mpr (still.1 waiting waits))

/-- A poll that hands any byte has parsed all that waited. After the waiting bytes of a poll whose
last heartbeat arms, no measurement and no alignment byte is handed before a disarmed heartbeat,
unless the session is aligned at the write. -/
theorem input_first (packs : PacksFit R) {stream : Bool} {config : MavlinkLinkConfig}
    {transform : FrameTransform R} {counter : UInt8} {link : MavlinkLink R}
    (created : create stream config transform counter = .ok link) {operations : List (Operation R)}
    (keeps : link.Keeps [] operations) :
    (∀ before operation after call, operations = before ++ operation :: after →
      heard LinkEvent.call (link.run (before ++ [operation])).history =
        heard LinkEvent.call (link.run before).history ++ [call] →
      ∃ now transport waiting, operation = .poll now transport ∧ transport.waiting = .ok waiting ∧
        (link.run before).parsedBy operation = waiting ∧
        call.session = (((link.run before).tick now).receiveBytes waiting now).session) ∧
    ∀ before now transport waiting tail later operation after call,
      operations = before ++ .poll now transport :: tail → (link.run before).stream = true →
      transport.waiting = .ok waiting →
      (heartbeatsIn config (link.run before).parser waiting).getLast? = some true →
      .poll now transport :: tail = later ++ operation :: after →
      heard LinkEvent.call (link.run (before ++ later ++ [operation])).history =
        heard LinkEvent.call (link.run (before ++ later)).history ++ [call] →
      call.kind = .measurement ∨ call.kind = .alignment →
      ∃ more, (heard LinkEvent.controller
          (link.run (before ++ later ++ [operation])).history).map Prod.fst =
        (heard LinkEvent.controller (link.run before).history).map Prod.fst ++
          heartbeatsIn config (link.run before).parser waiting ++ more ∧
        (false ∈ more ∨ call.session.state = .aligned) := by
  have fresh := create_fresh created
  refine ⟨?_, ?_⟩
  · intro before operation after call split hands
    rw [split] at keeps
    obtain ⟨now, transport, waiting, same, reads, parsed, _, permits⟩ :=
      Keeps.parsed_before packs fresh.buffered keeps hands
    exact ⟨now, transport, waiting, same, reads, parsed, permits.session⟩
  · intro before now transport waiting tail later operation after call split connected reads arms cut
      hands kind
    have buffered := run_buffered packs fresh.buffered before
    obtain ⟨ledger, configured⟩ : (link.run (before ++ later)).Ledger config ∧
        (link.run before).config = config := by
      have kept := ledger_inductive (R := R) config AnyOrder
      obtain ⟨_, ledger⟩ := kept.run packs fresh.buffered (fun _ => fresh.ledger) (before ++ later)
      obtain ⟨_, other⟩ := kept.run packs fresh.buffered (fun _ => fresh.ledger) before
      exact ⟨ledger, other.configured⟩
    -- From this poll on the unread bytes begin with what waits here.
    obtain ⟨left, still, _⟩ := (split ▸ keeps : link.Keeps [] (before ++ _)).prefix_parsed
    have waits : (link.run before).waitingAt (.poll now transport) = some waiting := by
      rw [waitingAt, if_pos connected, reads]
      rfl
    have here : (link.run before).Keeps waiting (.poll now transport :: tail) := by
      obtain ⟨_, rest⟩ := still
      refine ⟨fun other same => ?_, ?_⟩
      · rw [Option.some.inj (waits.symm.trans same)]
      · rw [unreadAfter, waits] at rest ⊢
        exact rest
    rw [cut] at here
    rw [List.append_assoc, run_append, run_append link before later] at hands
    obtain ⟨time, carried, input, rfl, _, read, ⟨rest, begins⟩, permits⟩ :=
      here.parsed_before packs buffered hands
    have all : (link.run before).parsed (later ++ [.poll time carried]) = waiting ++ rest := by
      rw [parsed_snoc, read, begins]
    have total := run_heard packs buffered (later ++ [.poll time carried])
    rw [all, configured, heartbeatsIn_append, ← List.append_assoc] at total
    rw [← run_append, ← List.append_assoc] at total
    refine ⟨_, total, ?_⟩
    by_cases calm : false ∈ heartbeatsIn config (parserAfter (link.run before).parser waiting) rest
    · exact .inl calm
    right
    have newest : (((heard LinkEvent.controller (link.run (before ++ later)).history).map Prod.fst ++
        heartbeatsIn (link.run (before ++ later)).config (link.run (before ++ later)).parser
          input).getLast?) = some true := by
      have heard := (apply_heard packs (run_buffered packs fresh.buffered (before ++ later))
        (.poll time carried)).1
      rw [run_append link before later] at heard ⊢
      rw [read] at heard
      rw [← heard, ← run_append link before later]
      rw [run_append link (before ++ later)] at total
      refine (congrArg List.getLast? total).trans ?_
      rw [List.getLast?_append]
      cases last : (heartbeatsIn config (parserAfter (link.run before).parser waiting) rest).getLast? with
      | none => rw [List.getLast?_append, arms]; rfl
      | some armed =>
          cases armed with
          | true => rfl
          | false => exact absurd (List.mem_of_getLast? last) calm
    have armed := armed_after ledger time newest
    rw [← run_append] at permits
    rw [permits.session]
    rcases kind with measurement | alignment
    · have allowed := permits.measurement measurement
      obtain ⟨_, _, _, aligned | disarmed⟩ := (FlightSession.canPublish_iff _ _).mp allowed
      · exact aligned
      · rw [armed] at disarmed
        cases disarmed
    · have due := permits.alignment alignment
      have disarmed := ((FlightSession.alignmentDue_iff _ _).mp due).2.2.1
      rw [armed] at disarmed
      cases disarmed

section Example
open SampleFlight

/-- Whatever waits at the call fits in one read. -/
def Operation.fits : Operation R → Bool
  | .poll _ ⟨.ok waiting, _⟩ => waiting.length ≤ inputCapacity
  | _ => true

/-- A stream whose input always fits has nothing to keep. -/
theorem keeps_of_fits (link : MavlinkLink R) (operations : List (Operation R))
    (fits : operations.all Operation.fits = true) : link.Keeps [] operations := by
  induction operations generalizing link with
  | nil => trivial
  | cons operation operations inductionHypothesis =>
      obtain ⟨here, later⟩ := List.forall_mem_cons.mp (List.all_eq_true.mp fits)
      refine ⟨fun waiting _ => List.nil_prefix, ?_⟩
      have none : link.unreadAfter [] operation = [] := by
        unfold unreadAfter
        cases waits : link.waitingAt operation with
        | none => rfl
        | some waiting =>
            apply List.drop_eq_nil_of_le
            unfold waitingAt at waits
            split at waits
            · rename_i now transport
              split at waits
              · cases reads : transport.waiting with
                | error what =>
                    rw [reads] at waits
                    cases waits
                | ok other =>
                    rw [reads] at waits
                    obtain rfl := Option.some.inj waits
                    obtain ⟨_, _⟩ := transport
                    cases reads
                    exact of_decide_eq_true here
              · cases waits
            · cases waits
      rw [none]
      exact inductionHypothesis _ (List.all_eq_true.mpr later)

/-- The calls between the arming heartbeat and the measurement that is written after it. -/
def armedCalls : List (Operation Exact) :=
  [SampleFlight.poll 5 (SampleFlight.heartbeat true 2) 300, .publish (estimate 6) 6]

/-- The heartbeat in the input of the last poll is heard before its write. -/
theorem input_first_flight : ∃ call more,
    heard LinkEvent.call (SampleFlight.link.run
      (alignment ++ armedCalls ++ [SampleFlight.poll 6 [] 20])).history =
      heard LinkEvent.call (SampleFlight.link.run (alignment ++ armedCalls)).history ++ [call] ∧
    (heard LinkEvent.controller (SampleFlight.link.run
      (alignment ++ armedCalls ++ [SampleFlight.poll 6 [] 20])).history).map Prod.fst =
        (heard LinkEvent.controller (SampleFlight.link.run alignment).history).map Prod.fst ++
          heartbeatsIn {} (SampleFlight.link.run alignment).parser (SampleFlight.heartbeat true 2) ++
            more ∧
    (false ∈ more ∨ call.session.state = .aligned) := by
  have keeps : SampleFlight.link.Keeps [] flight :=
    keeps_of_fits _ _ (by decide +kernel)
  have cut : heard LinkEvent.call (SampleFlight.link.run
      (alignment ++ armedCalls ++ [SampleFlight.poll 6 [] 20])).history =
      heard LinkEvent.call (SampleFlight.link.run (alignment ++ armedCalls)).history ++
        (heard LinkEvent.call (SampleFlight.link.run
          (alignment ++ armedCalls ++ [SampleFlight.poll 6 [] 20])).history).drop 3 := by
    decide +kernel
  have measurement : ∀ call ∈ (heard LinkEvent.call (SampleFlight.link.run
      (alignment ++ armedCalls ++ [SampleFlight.poll 6 [] 20])).history).drop 3,
        call.kind = .measurement := by decide +kernel
  obtain ⟨call, last⟩ := List.length_eq_one_iff.mp (show ((heard LinkEvent.call
    (SampleFlight.link.run (alignment ++ armedCalls ++ [SampleFlight.poll 6 [] 20])).history).drop
      3).length = 1 by decide +kernel)
  rw [last] at cut measurement
  have connected : (SampleFlight.link.run alignment).stream = true := by decide +kernel
  have arms : (heartbeatsIn ({} : MavlinkLinkConfig) (SampleFlight.link.run alignment).parser
      (SampleFlight.heartbeat true 2)).getLast? = some true := by decide +kernel
  obtain ⟨more, heard, safe⟩ := (input_first MavlinkCodec.packsFit created keeps).2 alignment 5
    ⟨.ok (SampleFlight.heartbeat true 2), .ok 300⟩ _ _ armedCalls (SampleFlight.poll 6 [] 20) [] call
    rfl connected rfl arms rfl cut (.inl (measurement call (List.mem_singleton_self _)))
  exact ⟨call, more, cut, heard, safe⟩

end Example

end MavlinkLink
end Vio
