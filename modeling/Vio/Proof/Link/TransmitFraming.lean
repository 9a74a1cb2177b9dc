import Vio.Construction.MavlinkCodec
import Vio.Library.Framing
import Vio.Proof.Link.Ledger

namespace Vio
open Mavlink History Framing

/-- The bytes that the stream took in one event. -/
def LinkEvent.taken {R : Type} [Mavlink R] : LinkEvent R → List UInt8
  | .handed call => call.bytes.take call.accepted
  | _ => []

/-- All bytes that the stream ever took, in order. -/
def wire {R : Type} [Mavlink R] (history : List (LinkEvent R)) : List UInt8 :=
  (history.reverse.map LinkEvent.taken).flatten

theorem wire_cons {R : Type} [Mavlink R] (event : LinkEvent R) (past : List (LinkEvent R)) :
    wire (event :: past) = wire past ++ event.taken := by
  simp [wire]

/-- A measurement is a pose packet and, where configured, a velocity packet of the same time and
reset counter; a command to the controller and a heartbeat stand alone. -/
def Content.WellFormed {R : Type} (config : MavlinkLinkConfig) : Content R → Prop
  | .measurement _ pose speed =>
      speed.isSome = config.sendVelocity ∧
        ∀ packet ∈ speed, packet.usec = pose.usec ∧ packet.resetCounter = pose.resetCounter
  | .alignment command =>
      command.command = cmdDoAuxFunction ∧
        (⟨command.targetSystem, command.targetComponent⟩ : MavlinkAddress) = config.controller
  | .heartbeat message => message = MavlinkLink.onboardHeartbeat

namespace MavlinkLink
variable {R : Type} [Mavlink R]

/-- The transmissions that the link may send. -/
def Allowed (config : MavlinkLinkConfig) (transmission : Transmission R) : Prop :=
  transmission.content.WellFormed config

abbrev FrameSender (R : Type) [Mavlink R] := Sender (Transmission R)

abbrev frameBytes (config : MavlinkLinkConfig) (transmission : Transmission R) : List UInt8 :=
  transmission.bytes config.source

/-- The buffer, the stream and the bytes on the wire are those of the sender. -/
structure Writes (config : MavlinkLinkConfig) (link : MavlinkLink R) (sender : FrameSender R) :
    Prop where
  configured : link.config = config
  wire : wire link.history = sender.wire (frameBytes config)
  opened : sender.opened = link.stream
  idle : link.stream = true → link.pendingKind = .none → sender.current = none
  busy : link.pendingKind ≠ .none → ∃ transmission, behind link.history = some transmission ∧
    sender.current = some (transmission, link.pendingOffset)

/-- The sender took its step with the link, or it needed none. -/
def Follows (config : MavlinkLinkConfig) (sender : FrameSender R) (next : MavlinkLink R) : Prop :=
  ∃ after, (after = sender ∨ Sender.Step (frameBytes config) (Allowed config) sender after) ∧
    next.Writes config after

variable {config : MavlinkLinkConfig} {link next : MavlinkLink R} {sender : FrameSender R}

/-- The sender of a constructed link. -/
theorem Fresh.writes (fresh : link.Fresh config) : link.Writes config ⟨[], none, true⟩ where
  configured := fresh.configured
  wire := by rw [fresh.history]; rfl
  opened := fresh.stream.symm
  idle := fun _ _ => rfl
  busy := fun busy => absurd fresh.pendingKind busy

/-- The pending transmission, the stream and the wire stay as they are. -/
theorem Writes.keep (writes : link.Writes config sender) (configured : next.config = link.config)
    (stream : next.stream = link.stream) (kind : next.pendingKind = link.pendingKind)
    (offset : next.pendingOffset = link.pendingOffset)
    (history : next.history = link.history ∨ ∃ event, event.taken = [] ∧
      event.transmission = none ∧ next.history = event :: link.history) :
    Follows config sender next := by
  have same : Vio.wire next.history = Vio.wire link.history ∧
      behind next.history = behind link.history := by
    rcases history with same | ⟨event, quiet, silent, same⟩ <;> rw [same]
    · exact ⟨rfl, rfl⟩
    · exact ⟨by rw [wire_cons, quiet, List.append_nil], latest_cons_none silent⟩
  refine ⟨sender, .inl rfl, configured.trans writes.configured, same.1.trans writes.wire,
    writes.opened.trans stream.symm, ?_, ?_⟩
  · rw [stream, kind]
    exact writes.idle
  · rw [kind, offset, same.2]
    exact writes.busy

/-- The buffer is cleared while none of its bytes is on the wire. -/
theorem Writes.clear (writes : link.Writes config sender) (configured : next.config = link.config)
    (unsent : link.pendingOffset = 0) (stream : next.stream = link.stream)
    (kind : next.pendingKind = .none) (same : Vio.wire next.history = Vio.wire link.history) :
    Follows config sender next := by
  by_cases idle : link.pendingKind = .none
  · refine ⟨sender, .inl rfl, configured.trans writes.configured, same.trans writes.wire,
      writes.opened.trans stream.symm, fun connected _ => ?_, fun busy => absurd kind busy⟩
    exact writes.idle (stream.symm.trans connected) idle
  · obtain ⟨transmission, _, loaded⟩ := writes.busy idle
    rw [unsent] at loaded
    refine ⟨_, .inr (.drop sender transmission loaded), configured.trans writes.configured, ?_,
      writes.opened.trans stream.symm, fun _ _ => rfl, fun busy => absurd kind busy⟩
    rw [same, writes.wire]
    simp [Sender.wire, Sender.part, loaded]

/-- The stream is closed, whatever the buffer holds. -/
theorem Writes.close (writes : link.Writes config sender) (configured : next.config = link.config)
    (stream : next.stream = false) (kind : next.pendingKind = .none)
    (same : Vio.wire next.history = Vio.wire link.history) : Follows config sender next := by
  refine ⟨_, .inr (.close sender), configured.trans writes.configured, same.trans writes.wire,
    stream.symm, fun connected => ?_, fun busy => absurd kind busy⟩
  rw [stream] at connected
  cases connected

/-- The empty buffer is filled with one transmission. -/
theorem Writes.fill (packs : PacksFit R) (writes : link.Writes config sender)
    (buffered : link.Buffered) (configured : next.config = link.config)
    (connected : link.stream = true) (idle : link.pendingKind = .none)
    (transmission : Transmission R) (now : Int) (lawful : transmission.content.WellFormed config)
    (stream : next.stream = link.stream) (offset : next.pendingOffset = link.pendingOffset)
    (kind : next.pendingKind ≠ .none)
    (history : next.history = .queued transmission now :: link.history) :
    Follows config sender next := by
  refine ⟨_, .inr (.load sender transmission (writes.opened.trans connected)
    (writes.idle connected idle) lawful (bytes_ne_nil packs config.source transmission)),
    configured.trans writes.configured, ?_, writes.opened.trans stream.symm,
    fun _ none => absurd none kind, fun _ => ⟨transmission, ?_, ?_⟩⟩
  · rw [history, wire_cons, show LinkEvent.taken (.queued transmission now) = [] from rfl,
      List.append_nil, writes.wire]
    simp [Sender.wire, Sender.part, writes.idle connected idle]
  · rw [history]
    exact latest_cons_some rfl
  · rw [offset, (buffered.empty idle).2]

/-- The bytes of a write call follow the part that the stream had. -/
theorem Writes.handed (writes : link.Writes config sender) (buffered : link.Buffered)
    (busy : link.pendingKind ≠ .none) (accepted : Nat) (now : Int) :
    ∃ transmission, sender.current = some (transmission, link.pendingOffset) ∧
      frameBytes config transmission = link.pending ∧
      behind link.history = some transmission ∧
      Vio.wire (.handed (link.writeCall accepted now) :: link.history) =
        (sender.sent.map (frameBytes config)).flatten ++
          link.pending.take (link.pendingOffset + (link.writeCall accepted now).accepted) := by
  obtain ⟨transmission, newest, loaded⟩ := writes.busy busy
  obtain ⟨other, same, _, bytes⟩ := buffered.filled busy
  obtain rfl := Option.some.inj (same.symm.trans newest)
  have filled : frameBytes config other = link.pending := by
    rw [← bytes, writes.configured]
  refine ⟨other, loaded, filled, newest, ?_⟩
  rw [wire_cons, writes.wire, Sender.wire, Sender.part, loaded]
  dsimp only
  rw [filled, List.append_assoc, List.take_add]
  rfl

/-- The last bytes of the pending transmission go out. -/
theorem Writes.finish (writes : link.Writes config sender) (buffered : link.Buffered) {now : Int}
    (allowed : link.Sendable now) {accepted : Nat}
    (whole : link.pending.length ≤ link.pendingOffset + accepted)
    (session : FlightSession) (stats : MavlinkLinkStats) :
    Follows config sender (link.sent session stats accepted now) := by
  obtain ⟨transmission, loaded, filled, _, same⟩ := writes.handed buffered allowed.busy accepted now
  refine ⟨_, .inr (.finish sender transmission link.pendingOffset
    (writes.opened.trans allowed.connected) loaded), writes.configured, ?_, writes.opened,
    fun _ _ => rfl, fun busy => absurd rfl busy⟩
  refine same.trans ?_
  have unsent := buffered.unsent allowed.busy
  rw [List.take_of_length_le (by simp only [writeCall]; omega), ← filled]
  simp [Sender.wire, Sender.part]

variable [Scalar R]

omit [Mavlink R] in
theorem measurementContent_wellFormed [Mavlink R] (link : MavlinkLink R)
    (estimate : EstimatorEstimate R) (measurement : ArduPilotMeasurement R) :
    (link.measurementContent estimate measurement).WellFormed link.config := by
  unfold measurementContent Content.WellFormed
  cases sends : link.config.sendVelocity <;> simp [posePacket, speedPacket]

/-- Every primitive step of the link is a step of the sender, or leaves it as it was. -/
theorem Writes.step (packs : PacksFit R) {now : Int} (moved : LinkStep now link next)
    (buffered : link.Buffered) (writes : link.Writes config sender) :
    Follows config sender next := by
  cases moved with
  | tick =>
      refine writes.keep rfl rfl rfl rfl ?_
      simp only [tick]
      split
      · exact .inr ⟨_, rfl, rfl, rfl⟩
      · exact .inl rfl
  | observe | reply => exact writes.keep rfl rfl rfl rfl (.inr ⟨_, rfl, rfl, rfl⟩)
  | note => exact writes.keep rfl rfl rfl rfl (.inl rfl)
  | close => exact writes.close rfl rfl rfl rfl
  | drop unsent => exact writes.clear rfl unsent rfl rfl rfl
  | restart session generation whole allowed =>
      exact writes.clear rfl whole rfl rfl ((wire_cons _ _).trans (List.append_nil _))
  | withdraw =>
      rcases link.endSession_cases with ⟨unsent, same⟩ | ⟨_, same⟩ <;> rw [same]
      · exact writes.clear rfl unsent rfl rfl ((wire_cons _ _).trans (List.append_nil _))
      · exact writes.close rfl rfl rfl ((wire_cons _ _).trans (List.append_nil _))
  | publish estimate measurement checks =>
      refine writes.fill packs buffered rfl checks.connected checks.idle
        ⟨link.transmitStatus, link.measurementContent estimate measurement⟩ now ?_ rfl rfl
        (fun same => by cases same) rfl
      rw [← writes.configured]
      exact measurementContent_wellFormed link estimate measurement
  | request connected running idle due =>
      refine writes.fill packs buffered rfl connected idle
        ⟨link.transmitStatus, .alignment link.alignmentCommand⟩ now ⟨rfl, ?_⟩ rfl rfl
        (fun same => by cases same) rfl
      rw [← writes.configured]
      rfl
  | beat connected idle =>
      exact writes.fill packs buffered rfl connected idle
        ⟨link.transmitStatus, .heartbeat onboardHeartbeat⟩ now rfl rfl rfl (fun same => by cases same) rfl
  | part accepted allowed short =>
      obtain ⟨transmission, loaded, filled, newest, same⟩ :=
        writes.handed buffered allowed.busy accepted now
      have room : link.pendingOffset + (link.writeCall accepted now).accepted <
          (frameBytes config transmission).length := by
        rw [filled]
        simp only [writeCall]
        omega
      refine ⟨_, .inr (.send sender transmission link.pendingOffset _
        (writes.opened.trans allowed.connected) loaded room), writes.configured, ?_, writes.opened,
        fun _ none => absurd none allowed.busy, fun _ => ⟨transmission, ?_, rfl⟩⟩
      · refine same.trans ?_
        rw [Sender.wire, Sender.part]
        dsimp only
        rw [filled]
      · exact (latest_cons_none rfl).trans newest
  | sentMeasurement stats accepted allowed whole kind =>
      exact writes.finish buffered allowed whole _ stats
  | sentAlignment session accepted allowed whole kind counted =>
      exact writes.finish buffered allowed whole session _
  | sentHeartbeat accepted allowed whole kind => exact writes.finish buffered allowed whole _ _

/-- A sender follows the link, and it had a state for each past of the link. -/
def Followed (config : MavlinkLinkConfig) (link : MavlinkLink R) : Prop :=
  ∃ sender, link.Writes config sender ∧ sender.Sound (frameBytes config) (Allowed config) ∧
    ∀ recent past, link.history = recent ++ past → ∃ earlier : FrameSender R,
      earlier.Sound (frameBytes config) (Allowed config) ∧
      earlier.wire (frameBytes config) = wire past ∧
      Sender.Run (frameBytes config) (Allowed config) earlier sender

omit [Scalar R] in
/-- A fresh link is followed by a sender that has sent nothing. -/
theorem Fresh.followed (fresh : link.Fresh config) : link.Followed config := by
  have sound : (⟨[], none, true⟩ : FrameSender R).Sound (frameBytes config) (Allowed config) :=
    ⟨List.forall_mem_nil _, fun _ _ loaded => by cases loaded⟩
  refine ⟨_, fresh.writes, sound, fun recent past split => ?_⟩
  rw [fresh.history] at split
  obtain ⟨rfl, rfl⟩ := List.append_eq_nil_iff.mp split.symm
  exact ⟨⟨[], none, true⟩, sound, rfl, .refl⟩

/-- Each step of the link is one of the sender, or none. -/
theorem Followed.step (packs : PacksFit R) {now : Int} (moved : LinkStep now link next)
    (buffered : link.Buffered) (followed : link.Followed config) : next.Followed config := by
  obtain ⟨sender, writes, sound, pasts⟩ := followed
  obtain ⟨after, taken, writes'⟩ := writes.step packs moved buffered
  have run : Sender.Run (frameBytes config) (Allowed config) sender after := by
    rcases taken with rfl | taken
    · exact .refl
    · exact .single taken
  have sound' : after.Sound (frameBytes config) (Allowed config) := by
    rcases taken with rfl | taken
    · exact sound
    · exact sound.step taken
  refine ⟨after, writes', sound', fun recent past split => ?_⟩
  have earlier (before : List (LinkEvent R)) (same : link.history = before ++ past) :
      ∃ earlier : FrameSender R, earlier.Sound (frameBytes config) (Allowed config) ∧
        earlier.wire (frameBytes config) = wire past ∧
        Sender.Run (frameBytes config) (Allowed config) earlier after := by
    obtain ⟨first, sound, same, before⟩ := pasts before past same
    exact ⟨first, sound, same, before.trans run⟩
  rcases moved.records with same | ⟨event, same, _⟩
  · exact earlier recent (same.symm.trans split)
  · cases recent with
    | nil =>
        obtain rfl : next.history = past := split
        exact ⟨after, sound', writes'.wire.symm, .refl⟩
    | cons first rest =>
        rw [same, List.cons_append, List.cons.injEq] at split
        exact earlier rest split.2

/-- At every moment of every run the bytes on the wire are complete transmissions and at most one
part of another; and after such a part the stream takes its rest, or a further part and no more. -/
theorem transmit_framing (packs : PacksFit R) {stream : Bool} {config : MavlinkLinkConfig}
    {transform : FrameTransform R} {counter : UInt8} {link : MavlinkLink R}
    (created : create stream config transform counter = .ok link) (operations : List (Operation R))
    {recent past : List (LinkEvent R)} (moment : (link.run operations).history = recent ++ past) :
    ∃ (complete : List (Transmission R)) (part rest more : List UInt8),
      (∀ transmission ∈ complete, transmission.content.WellFormed config) ∧
      wire past =
        (complete.map fun transmission => transmission.bytes config.source).flatten ++ part ∧
      (part = [] ∨ ∃ transmission : Transmission R, transmission.content.WellFormed config ∧
        transmission.bytes config.source = part ++ rest ∧ rest ≠ []) ∧
      wire (link.run operations).history = wire past ++ more ∧
      (part ≠ [] → more <+: rest ∨ rest <+: more) := by
  have fresh := create_fresh created
  have kept : Inductive AnyOrder (fun _ (link : MavlinkLink R) => link.Followed config) :=
    .of_state fun _ _ _ buffered moved followed => followed.step packs moved buffered
  obtain ⟨_, sender, writes, _, pasts⟩ :=
    kept.run packs fresh.buffered (fun _ => fresh.followed) operations
  obtain ⟨earlier, sound, same, run⟩ := pasts recent past moment
  obtain ⟨more, extended, rule⟩ := Sender.Run.continues run
  refine ⟨earlier.sent, earlier.part (frameBytes config), earlier.rest (frameBytes config), more,
    sound.sent, same.symm, sound.split, ?_, rule⟩
  rw [writes.wire, extended, same]

/-- A transmission of the codec has the frame of one packet at least. -/
theorem codec_bytes_length (source : MavlinkAddress) (transmission : Transmission Exact) :
    12 ≤ (transmission.bytes source).length := by
  obtain ⟨status, content⟩ := transmission
  have framed (message : Outgoing Exact) (rest : List (Outgoing Exact)) :
      12 ≤ (encode source status (message :: rest)).length := by
    rw [encode, List.length_append]
    simp only [Mavlink.toSendBuffer, Mavlink.pack, MavlinkCodec.frame, List.length_cons,
      List.length_append, List.length_nil, MavlinkCodec.littleEndian_length]
    omega
  cases content <;> exact framed _ _

/-- The first heartbeat, of which the first write takes five bytes. -/
def parted : List (Operation Exact) := [SampleFlight.poll 1 [] 5, SampleFlight.poll 2 [] 300]

/-- The five bytes are a part of one transmission, and the next write continues it. -/
theorem transmit_framing_parted : ∃ (transmission : Transmission Exact) (part rest more : List UInt8),
    transmission.content.WellFormed {} ∧
      transmission.bytes ⟨1, 197⟩ = part ++ rest ∧ part.length = 5 ∧ rest ≠ [] ∧
      wire (SampleFlight.link.run parted).history = part ++ more ∧ more.length = 16 ∧
      (more <+: rest ∨ rest <+: more) := by
  obtain ⟨complete, part, rest, more, lawful, same, split, onward, continues⟩ :=
    transmit_framing MavlinkCodec.packsFit SampleFlight.created parted
      (List.take_append_drop 1 _).symm
  have first : (wire ((SampleFlight.link.run parted).history.drop 1)).length = 5 := by
    decide +kernel
  have whole : (wire (SampleFlight.link.run parted).history).length = 21 := by
    decide +kernel
  have none : complete = [] := by
    cases complete with
    | nil => rfl
    | cons transmission complete =>
        have long := codec_bytes_length ({} : MavlinkLinkConfig).source transmission
        rw [same, List.map_cons, List.flatten_cons, List.length_append, List.length_append] at first
        omega
  rw [none, List.map_nil, List.flatten_nil, List.nil_append] at same
  rw [same] at first onward
  have some : part ≠ [] := List.ne_nil_of_length_pos (by omega)
  obtain ⟨transmission, formed, bytes, unsent⟩ := split.resolve_left some
  refine ⟨transmission, part, rest, more, formed, bytes, first, unsent, onward, ?_, continues some⟩
  rw [onward, List.length_append, first] at whole
  omega

end MavlinkLink
end Vio
