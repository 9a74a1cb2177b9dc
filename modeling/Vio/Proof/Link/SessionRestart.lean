import Vio.Proof.Link.AlignmentDiscipline

namespace Vio
open Mavlink History

namespace LinkEvent
variable {R : Type} [Mavlink R]

/-- The stream took a byte of an alignment command. -/
def AlignmentByte (event : LinkEvent R) : Prop :=
  ∃ call, event = .handed call ∧ call.kind = .alignment ∧ 0 < call.accepted

/-- What the event handed to the stream. -/
def kind : LinkEvent R → PendingKind
  | .handed call => call.kind
  | _ => .none

theorem not_alignmentByte {event : LinkEvent R} (other : event.kind ≠ .alignment) :
    ¬ event.AlignmentByte := by
  rintro ⟨call, rfl, kind, _⟩
  exact other kind

end LinkEvent

namespace MavlinkLink
variable {R : Type} [Mavlink R]

/-- The newest byte of an alignment command was the last one of its command. -/
def CommandComplete (history : List (LinkEvent R)) : Prop :=
  Since (fun event => ¬ event.AlignmentByte)
    (fun event _ => ∃ call, event = .handed call ∧ call.kind = .alignment ∧ call.Complete) history

/-- No alignment command was ever begun, or an acceptance was processed after the newest one had
been completely written. -/
def Resolved (history : List (LinkEvent R)) : Prop :=
  (∀ event ∈ history, ¬ event.AlignmentByte) ∨
    Since (fun event => ¬ event.AlignmentByte)
      (fun event past => (∃ now, event = .acknowledged .accepted now) ∧ CommandComplete past) history

theorem Resolved.cons {history : List (LinkEvent R)} {event : LinkEvent R}
    (quiet : ¬ event.AlignmentByte) (resolved : Resolved history) : Resolved (event :: history) := by
  rcases resolved with never | accepted
  · exact .inl (List.forall_mem_cons.mpr ⟨quiet, never⟩)
  · exact .inr (accepted.cons quiet)

end MavlinkLink

/-- The guard of `start` holds. -/
def FlightSession.Settled (session : FlightSession) : Prop :=
  session.state ≠ .failed ∧ (session.attempts = 0 ∨ session.state = .aligned)

theorem FlightSession.not_settled_failed {session : FlightSession} (failed : session.state = .failed) :
    ¬ session.Settled := fun settled => settled.1 failed

namespace MavlinkLink
variable {R : Type} [Mavlink R]

/-- What the guard of `start` and an outstanding request owe to the history. -/
structure Accounted (link : MavlinkLink R) : Prop where
  counted : link.session.state = .awaitingAlignment → link.session.attempts ≠ 0
  outstanding : link.session.state = .awaitingAlignment → CommandComplete link.history
  settled : link.session.Settled → (link.pendingKind = .alignment → link.pendingOffset = 0) →
    Resolved link.history

variable {link next : MavlinkLink R} {config : MavlinkLinkConfig}

theorem Fresh.accounted (fresh : link.Fresh config) : link.Accounted where
  counted := by simp [fresh.state]
  outstanding := by simp [fresh.state]
  settled := fun _ _ => .inl (by simp [fresh.history])

/-- A failed session owes nothing. -/
theorem Accounted.failed (failed : next.session.state = .failed) : next.Accounted where
  counted := by simp [failed]
  outstanding := by simp [failed]
  settled := fun settled => absurd settled (FlightSession.not_settled_failed failed)

/-- No byte of a command goes out, and no request is made or answered. -/
theorem Accounted.keep (accounted : link.Accounted)
    (attempts : next.session.state = .awaitingAlignment → next.session.attempts = link.session.attempts)
    (outstanding : next.session.state = .awaitingAlignment → link.session.state = .awaitingAlignment)
    (settled : next.session.Settled → link.session.Settled)
    (whole : (next.pendingKind = .alignment → next.pendingOffset = 0) →
      link.pendingKind = .alignment → link.pendingOffset = 0)
    (history : next.history = link.history ∨
      ∃ event, ¬ event.AlignmentByte ∧ next.history = event :: link.history) : next.Accounted := by
  refine ⟨fun state => ?_, fun state => ?_, fun guard buffer => ?_⟩
  · rw [attempts state]
    exact accounted.counted (outstanding state)
  · have complete := accounted.outstanding (outstanding state)
    rcases history with same | ⟨event, quiet, same⟩ <;> rw [same]
    · exact complete
    · exact complete.cons quiet
  · have resolved := accounted.settled (settled guard) (whole buffer)
    rcases history with same | ⟨event, quiet, same⟩ <;> rw [same]
    · exact resolved
    · exact resolved.cons quiet

/-- A tick answers no request. -/
theorem Accounted.tick (accounted : link.Accounted) (now : Int) : (link.tick now).Accounted := by
  have history : (link.tick now).history = link.history ∨ ∃ event : LinkEvent R,
      ¬ event.AlignmentByte ∧ (link.tick now).history = event :: link.history := by
    simp only [MavlinkLink.tick]
    split
    · exact .inr ⟨.revoked now, LinkEvent.not_alignmentByte (fun same => by cases same), rfl⟩
    · exact .inl rfl
  have spec := link.session.tick_spec now
  suffices changed : ((link.session.tick now).state = .awaitingAlignment →
      (link.session.tick now).attempts = link.session.attempts ∧
        link.session.state = .awaitingAlignment) ∧
      ((link.session.tick now).Settled → link.session.Settled) from
    accounted.keep (fun state => (changed.1 state).1) (fun state => (changed.1 state).2) changed.2
      id history
  generalize link.session.tick now = next at spec
  cases spec with
  | keep quiet => exact ⟨fun state => ⟨rfl, state⟩, id⟩
  | lose | expire => exact ⟨(fun same => by cases same), fun settled => absurd rfl settled.1⟩
  | revoke known stale aligned =>
      exact ⟨(fun same => by cases same), fun _ => ⟨by simp [aligned], .inr aligned⟩⟩
  | wait known stale waiting =>
      refine ⟨(fun same => by cases same), fun settled => ⟨?_, .inl ?_⟩⟩
      · rcases waiting with state | state <;> simp [state]
      · exact settled.2.resolve_right (fun same => by cases same)
  | prime known fresh waiting =>
      exact ⟨(fun same => by cases same), fun settled =>
        ⟨by simp [waiting], .inl (settled.2.resolve_right (fun same => by cases same))⟩⟩
  | retry fresh outstanding late left =>
      -- An outstanding request was counted, so the guard stays shut.
      exact ⟨(fun same => by cases same), fun settled =>
        absurd (settled.2.resolve_right (fun same => by cases same)) (accounted.counted outstanding)⟩

/-- A heartbeat answers no request. -/
theorem Accounted.observe (accounted : link.Accounted) (armed : Bool) (now : Int) :
    (link.observe armed now).Accounted := by
  have quiet : ¬ (LinkEvent.heartbeat armed now : LinkEvent R).AlignmentByte :=
    LinkEvent.not_alignmentByte (fun same => by cases same)
  have spec := link.session.observe_spec armed now
  suffices changed : ((link.session.observe armed now).state = .awaitingAlignment →
      (link.session.observe armed now).attempts = link.session.attempts ∧
        link.session.state = .awaitingAlignment) ∧
      ((link.session.observe armed now).Settled → link.session.Settled) from
    accounted.keep (fun state => (changed.1 state).1) (fun state => (changed.1 state).2) changed.2
      id (.inr ⟨_, quiet, rfl⟩)
  generalize link.session.observe armed now = next at spec
  cases spec with
  | note calm => exact ⟨fun state => ⟨rfl, state⟩, id⟩
  | abort outstanding arming => exact ⟨(fun same => by cases same), fun settled => absurd rfl settled.1⟩

/-- A reply settles a request only where its command was completely written. -/
theorem Accounted.reply (accounted : link.Accounted) (result : AlignmentResult) (now : Int) :
    (link.reply result now).Accounted := by
  have quiet : ¬ (LinkEvent.acknowledged result now : LinkEvent R).AlignmentByte :=
    LinkEvent.not_alignmentByte (fun same => by cases same)
  have spec := link.session.reply_spec result now
  have still : (link.reply result now).session = link.session.reply result now := rfl
  generalize link.session.reply result now = next at spec still
  cases spec with
  | ignore =>
      exact accounted.keep (fun _ => by rw [still]) (fun state => by rwa [still] at state)
        (fun settled => by rwa [still] at settled) id (.inr ⟨_, quiet, rfl⟩)
  | align outstanding fresh disarmed granted =>
      subst granted
      refine ⟨fun state => ?_, fun state => ?_, fun _ _ => ?_⟩
      · rw [still] at state
        cases state
      · rw [still] at state
        cases state
      · exact .inr (Since.now ⟨⟨now, rfl⟩, accounted.outstanding outstanding⟩)
  | progress outstanding =>
      exact accounted.keep (fun _ => by rw [still]) (fun _ => outstanding)
        (fun settled => by rwa [still] at settled) id (.inr ⟨_, quiet, rfl⟩)
  | retry outstanding left =>
      refine accounted.keep (fun state => ?_) (fun _ => outstanding) (fun settled => ?_) id
        (.inr ⟨_, quiet, rfl⟩)
      · rw [still] at state
        cases state
      · rw [still] at settled
        exact absurd (settled.2.resolve_right (fun same => by cases same)) (accounted.counted outstanding)
  | refuse outstanding => exact .failed (by rw [still]; rfl)

/-- The last bytes of another transmission go out. -/
theorem Accounted.sent (accounted : link.Accounted) (other : link.pendingKind ≠ .alignment)
    (session : FlightSession) (state : session.state = link.session.state)
    (attempts : session.attempts = link.session.attempts) (stats : MavlinkLinkStats)
    (accepted : Nat) (now : Int) : (link.sent session stats accepted now).Accounted := by
  have quiet : ¬ (LinkEvent.handed (link.writeCall accepted now) : LinkEvent R).AlignmentByte :=
    LinkEvent.not_alignmentByte other
  refine accounted.keep (fun _ => attempts) (fun awaiting => state ▸ awaiting) (fun settled => ?_)
    (fun _ kind => absurd kind other) (.inr ⟨_, quiet, rfl⟩)
  change session.Settled at settled
  rwa [FlightSession.Settled, state, attempts] at settled

variable [Scalar R]

/-- Each step keeps the guard of `start` in line with the commands on the wire. -/
theorem Accounted.step {now : Int} (moved : LinkStep now link next) (buffered : link.Buffered)
    (requesting : link.Requesting) (accounted : link.Accounted) : next.Accounted := by
  have unsent (idle : link.pendingKind = .none) : link.pendingOffset = 0 := (buffered.empty idle).2
  have ended : ¬ (LinkEvent.ended : LinkEvent R).AlignmentByte :=
    LinkEvent.not_alignmentByte (fun same => by cases same)
  have filled (transmission : Transmission R) : ¬ (LinkEvent.queued transmission now).AlignmentByte :=
    LinkEvent.not_alignmentByte (fun same => by cases same)
  cases moved with
  | tick => exact accounted.tick now
  | observe armed ticked => exact accounted.observe armed now
  | reply result => exact accounted.reply result now
  | note parser stats => exact ⟨accounted.counted, accounted.outstanding, accounted.settled⟩
  | close reason => exact .failed rfl
  | drop whole => exact accounted.keep (fun _ => rfl) id id (fun _ _ => whole) (.inl rfl)
  | restart session generation whole allowed =>
      obtain ⟨notFailed, resolved, _, rfl⟩ := FlightSession.start_ok allowed
      refine ⟨(fun same => by cases same), (fun same => by cases same), fun _ _ => ?_⟩
      exact (accounted.settled ⟨notFailed, resolved⟩ fun _ => whole).cons
        (LinkEvent.not_alignmentByte (fun same => by cases same))
  | withdraw =>
      rcases link.endSession_cases with ⟨whole, same⟩ | ⟨_, same⟩ <;> rw [same]
      · exact accounted.keep (fun _ => rfl) id id (fun _ _ => whole) (.inr ⟨_, ended, rfl⟩)
      · exact .failed rfl
  | publish estimate measurement checks =>
      exact accounted.keep (fun _ => rfl) id id (fun _ _ => unsent checks.idle)
        (.inr ⟨_, filled _, rfl⟩)
  | request connected running idle due =>
      exact accounted.keep (fun _ => rfl) id id (fun _ _ => unsent idle) (.inr ⟨_, filled _, rfl⟩)
  | beat connected idle =>
      exact accounted.keep (fun _ => rfl) id id (fun _ _ => unsent idle) (.inr ⟨_, filled _, rfl⟩)
  | part accepted allowed short =>
      by_cases byte : (LinkEvent.handed (link.writeCall accepted now) : LinkEvent R).AlignmentByte
      · -- A command that was begun is whole again only after its end.
        obtain ⟨_, same, kind, taken⟩ := byte
        cases same
        obtain ⟨_, awaiting, _⟩ := requesting kind
        refine ⟨fun state => absurd state awaiting, fun state => absurd state awaiting,
          fun _ whole => ?_⟩
        have started : link.pendingOffset + (link.writeCall accepted now).accepted = 0 := whole kind
        omega
      · refine accounted.keep (fun _ => rfl) id id (fun whole kind => ?_) (.inr ⟨_, byte, rfl⟩)
        have offset : link.pendingOffset + (link.writeCall accepted now).accepted = 0 := whole kind
        omega
  | sentMeasurement stats accepted allowed whole kind =>
      exact accounted.sent (by simp [kind]) (link.session.measurementSent _) rfl rfl stats accepted now
  | sentAlignment session accepted allowed whole kind counted =>
      obtain ⟨_, rfl⟩ := FlightSession.alignmentSent_ok counted
      refine ⟨fun _ => Nat.succ_ne_zero _, fun _ => Since.now ⟨_, rfl, kind, writeCall_complete now whole⟩,
        fun settled => ?_⟩
      exact absurd (settled.2.resolve_right (fun same => by cases same)) (Nat.succ_ne_zero _)
  | sentHeartbeat accepted allowed whole kind =>
      exact accounted.sent (by simp [kind]) link.session rfl rfl link.stats accepted now

omit [Scalar R] in
/-- A start that throws changes nothing unless a packet was partly written. -/
theorem startSession_error {generation : SessionGeneration} {thrown : Thrown}
    (failed : (link.startSession generation).2 = .error thrown) (whole : link.pendingOffset = 0) :
    (link.startSession generation).1 = link := by
  unfold startSession at failed ⊢
  rw [if_neg (not_not.mpr whole)] at failed ⊢
  split
  · rfl
  · rename_i session started
    rw [started] at failed
    cases failed

omit [Scalar R] in
/-- A start that succeeds found the guard open and no packet sent in part. -/
theorem startSession_ok {generation : SessionGeneration}
    (succeeded : (link.startSession generation).2 = .ok ()) :
    link.pendingOffset = 0 ∧ ∃ session, link.session.start generation = .ok session ∧
      (link.startSession generation).1 = link.restarted session generation := by
  unfold startSession at succeeded ⊢
  split at succeeded
  · cases succeeded
  rename_i whole
  split at succeeded
  · cases succeeded
  rename_i session started
  rw [if_neg whole, started]
  exact ⟨not_not.mp whole, session, rfl, rfl⟩

/-- In every run, a start that succeeds finds every alignment command resolved, and a start that
throws while no packet is partly written leaves the link as it was. -/
theorem session_restart_resolved (packs : PacksFit R) {stream : Bool} {config : MavlinkLinkConfig}
    {transform : FrameTransform R} {counter : UInt8} {link : MavlinkLink R}
    (created : create stream config transform counter = .ok link) (operations : List (Operation R))
    (generation : SessionGeneration) :
    (((link.run operations).startSession generation).2 = .ok () →
      Resolved (link.run operations).history) ∧
    (∀ thrown, ((link.run operations).startSession generation).2 = .error thrown →
      (link.run operations).pendingOffset = 0 →
        ((link.run operations).startSession generation).1 = link.run operations) := by
  have fresh := create_fresh created
  have kept : Inductive AnyOrder (fun _ (link : MavlinkLink R) => link.Requesting ∧ link.Accounted) :=
    (Inductive.of_state fun _ _ _ _ moved requesting => requesting.step moved).and
      (fun _ _ _ _ _ accounted => accounted)
      fun _ _ _ buffered moved requesting _ accounted => accounted.step moved buffered requesting
  obtain ⟨_, _, accounted⟩ :=
    kept.run packs fresh.buffered (fun _ => ⟨fresh.requesting, fresh.accounted⟩) operations
  refine ⟨fun succeeded => ?_, fun thrown failed whole => startSession_error failed whole⟩
  obtain ⟨whole, session, started, _⟩ := startSession_ok succeeded
  obtain ⟨notFailed, resolved, _, _⟩ := FlightSession.start_ok started
  exact accounted.settled ⟨notFailed, resolved⟩ fun _ => whole

open SampleFlight in
/-- After the acceptance the next session starts, and a repeated generation is turned away. -/
theorem session_restart_resolved_flight : Resolved (SampleFlight.link.run alignment).history ∧
    ((SampleFlight.link.run alignment).startSession ⟨1⟩).1 = SampleFlight.link.run alignment :=
  ⟨(session_restart_resolved MavlinkCodec.packsFit created alignment ⟨2⟩).1 (by decide +kernel),
    (session_restart_resolved MavlinkCodec.packsFit created alignment ⟨1⟩).2
      (.invalidArgument "estimator generations must increase") (by decide +kernel)
      (by decide +kernel)⟩

end MavlinkLink
end Vio
