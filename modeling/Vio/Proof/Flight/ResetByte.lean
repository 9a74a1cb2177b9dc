import Vio.Construction.MavlinkCodec
import Vio.Library.PartialRun
import Vio.Proof.Flight.FlightSteps
import Vio.Proof.Link.Ledger
import Vio.Proof.Store.Reservation

namespace Vio
open Mavlink History

namespace Flight
variable {R : Type} [Mavlink R]

/-- Each queued measurement carries a session and the byte of that session. -/
def Tagged (sessions : List (SessionGeneration × UInt8)) (history : List (LinkEvent R)) : Prop :=
  ∀ status estimate pose speed time,
    .queued ⟨status, .measurement estimate pose speed⟩ time ∈ history →
      (estimate.generation, pose.resetCounter) ∈ sessions ∧
        ∀ packet ∈ speed, packet.resetCounter = pose.resetCounter

/-- A flight that goes on: the newest byte is in the file, and it is the byte of the session or of
the session that starts next. -/
structure Live (flight : Flight R) : Prop where
  stored : flight.store.directory.counter = { live := some (resetText flight.reserved.toNat) }
  returned : latest StoreEvent.byte flight.store.directory.history = some flight.reserved
  unknown : flight.sessions = [] → flight.generation = 0 ∧ flight.link.session.generation = none ∧
    flight.link.session.resetCounter = flight.reserved
  current : ∀ generation byte earlier, flight.sessions = (generation, byte) :: earlier →
    flight.generation = generation.value ∧ generation.value ≠ 0 ∧
      flight.link.session.generation = some generation ∧ flight.link.session.resetCounter = byte ∧
      flight.reserved = if flight.stage = .starting then byte + 1 else byte
  reserving : flight.stage = .reserving → flight.generation ≠ 0

/-- The link and the store agree on the bytes of all sessions. -/
structure Sound (flight : Flight R) : Prop where
  buffered : flight.link.Buffered
  starts : flight.link.history.filterMap LinkEvent.generation = flight.sessions.map Prod.fst
  tagged : Tagged flight.sessions flight.link.history
  chained : flight.sessions.IsChain fun later earlier => later.2 = earlier.2 + 1
  increasing : flight.sessions.Pairwise fun later earlier => earlier.1.value < later.1.value
  live : flight.stage ≠ .failed → flight.Live

variable {flight next : Flight R}

/-- The running session is on record with its byte. -/
theorem Live.named (live : flight.Live) {generation : SessionGeneration}
    (running : flight.link.session.generation = some generation) :
    (generation, flight.link.session.resetCounter) ∈ flight.sessions := by
  cases started : flight.sessions with
  | nil =>
      rw [(live.unknown started).2.1] at running
      cases running
  | cons session earlier =>
      obtain ⟨known, byte⟩ := session
      obtain ⟨_, _, same, counter, _⟩ := live.current known byte earlier started
      obtain rfl := Option.some.inj (same.symm.trans running)
      rw [counter]
      exact List.mem_cons_self ..

theorem Tagged.mono {sessions more : List (SessionGeneration × UInt8)} {history : List (LinkEvent R)}
    (tagged : Tagged sessions history) (kept : ∀ session ∈ sessions, session ∈ more) :
    Tagged more history := fun status estimate pose speed time member =>
  have carried := tagged status estimate pose speed time member
  ⟨kept _ carried.1, carried.2⟩

/-- The next reserved byte follows the one in the file. -/
theorem Live.reserved (live : flight.Live) {store : SessionStore} {fates : ReserveFates}
    {byte : UInt8} (returned : flight.store.reserveReset fates = (store, .ok byte)) :
    byte = flight.reserved + 1 := by
  obtain ⟨⟨fates, read⟩, _⟩ := SessionStore.reserveReset_ok returned
  have small := Nat.le_of_lt_succ flight.reserved.toNat_lt
  rw [live.stored] at read
  have same := (CounterFile.written small).nextReset read
  rw [resetOf_resetText small] at same
  apply UInt8.toNat_inj.mp
  rw [same, UInt8.toNat_add]
  rfl

/-- The flight after an accepted start of a session. -/
theorem Live.started (live : flight.Live) (starting : flight.stage = .starting)
    {session : FlightSession} (allowed : flight.link.session.start ⟨flight.generation + 1⟩ = .ok session) :
    session.resetCounter = flight.reserved ∧ flight.generation + 1 ≠ 0 ∧
      (∀ known byte earlier, flight.sessions = (known, byte) :: earlier →
        flight.reserved = byte + 1 ∧ known.value < flight.generation + 1) := by
  obtain ⟨_, _, later, rfl⟩ := FlightSession.start_ok allowed
  cases started : flight.sessions with
  | nil =>
      obtain ⟨zero, none, counter⟩ := live.unknown started
      refine ⟨?_, ?_, (fun _ _ _ same => by cases same)⟩
      · simpa [none] using counter
      · rw [zero]
        decide
  | cons first rest =>
      obtain ⟨known, byte⟩ := first
      obtain ⟨_, _, running, counter, reserved⟩ := live.current known byte rest started
      have increased : known.value < flight.generation + 1 := later known running
      rw [if_pos starting] at reserved
      refine ⟨?_, ?_, ?_⟩
      · simp [running, counter, reserved]
      · rintro zero
        rw [zero] at increased
        exact UInt64.not_lt_zero increased
      · rintro _ _ _ ⟨⟩
        exact ⟨reserved, increased⟩

variable [Scalar R]

/-- Steps within a session start none, and what they queue carries its byte. -/
theorem quiet_steps {now : Int} {link after : MavlinkLink R}
    {sessions : List (SessionGeneration × UInt8)} (steps : MavlinkLink.Steps now link after)
    (named : ∀ generation, link.session.generation = some generation →
      (generation, link.session.resetCounter) ∈ sessions)
    (tagged : Tagged sessions link.history) :
    link.session.Same after.session ∧ Tagged sessions after.history ∧
      after.history.filterMap LinkEvent.generation =
        link.history.filterMap LinkEvent.generation := by
  induction steps with
  | refl => exact ⟨.refl _, tagged, rfl⟩
  | tail _ moved inductionHypothesis =>
      obtain ⟨same, tagged, starts⟩ := inductionHypothesis
      refine ⟨same.trans moved.2, ?_⟩
      rcases moved.records with kept | ⟨event, kept, plain, marks⟩
      · rw [kept]
        exact ⟨tagged, starts⟩
      · rw [kept, List.filterMap_cons_none plain]
        refine ⟨fun status estimate pose speed time member => ?_, starts⟩
        rcases List.mem_cons.mp member with rfl | member
        · obtain ⟨running, byte, packets⟩ := marks status estimate pose speed time rfl
          rw [same.generation] at running
          rw [same.resetCounter] at byte packets
          rw [byte]
          exact ⟨named _ running, packets⟩
        · exact tagged status estimate pose speed time member

/-- A call of the link is a sequence of primitive steps at one time. -/
theorem served_steps (packs : PacksFit R) {link after : MavlinkLink R} (buffered : link.Buffered)
    (served : link.Served after) : ∃ now, MavlinkLink.Steps now link after := by
  rcases served with rfl | ⟨operation, other, rfl⟩
  · exact ⟨0, .refl⟩
  · exact ⟨operation.time.getD 0, MavlinkLink.apply_quiet packs buffered operation _
      (fun time timed => by rw [timed]; rfl) other⟩

/-- Each step keeps the bytes of the link and of the store in agreement. -/
theorem Sound.step (packs : PacksFit R) (sound : flight.Sound) (moved : FlightStep flight next) :
    next.Sound := by
  cases moved with
  | serve stage backoff link served from_ outside known =>
      have live := sound.live from_.2
      obtain ⟨now, steps⟩ := served_steps packs sound.buffered served
      obtain ⟨same, tagged, starts⟩ := quiet_steps steps (fun _ => live.named) sound.tagged
      refine ⟨sound.buffered.steps packs (MavlinkLink.Steps.links steps), starts.trans sound.starts,
        tagged, sound.chained, sound.increasing, fun _ => ⟨live.stored, live.returned, ?_, ?_, known⟩⟩
      · intro none
        obtain ⟨zero, generation, counter⟩ := live.unknown none
        exact ⟨zero, same.generation.trans generation, same.resetCounter.trans counter⟩
      · intro generation byte earlier started
        obtain ⟨value, nonzero, running, counter, reserved⟩ :=
          live.current generation byte earlier started
        rw [if_neg from_.1] at reserved
        refine ⟨value, nonzero, same.generation.trans running, same.resetCounter.trans counter, ?_⟩
        rw [if_neg outside, reserved]
  | first looping unknown =>
      have live := sound.live (by simp [looping])
      refine ⟨sound.buffered, sound.starts, sound.tagged, sound.chained, sound.increasing,
        fun _ => ⟨live.stored, live.returned, live.unknown, ?_, (fun same => by cases same)⟩⟩
      intro generation byte earlier started
      obtain ⟨value, nonzero, _⟩ := live.current generation byte earlier started
      exact absurd (value.symm.trans unknown) nonzero
  | refused store =>
      exact ⟨sound.buffered, sound.starts, sound.tagged, sound.chained, sound.increasing,
        fun other => absurd rfl other⟩
  | reserved fates store byte reserving returned =>
      have live := sound.live (by simp [reserving])
      obtain ⟨_, stored, newest⟩ := SessionStore.reserveReset_ok returned
      refine ⟨sound.buffered, sound.starts, sound.tagged, sound.chained, sound.increasing,
        fun _ => ⟨stored, newest, ?_, ?_, (fun same => by cases same)⟩⟩
      · intro none
        exact absurd (live.unknown none).1 (live.reserving reserving)
      · intro generation last earlier started
        obtain ⟨value, nonzero, running, counter, reserved⟩ :=
          live.current generation last earlier started
        rw [if_neg (by simp [reserving])] at reserved
        refine ⟨value, nonzero, running, counter, ?_⟩
        rw [if_pos rfl, ← reserved]
        exact live.reserved returned
  | unstarted generation same =>
      have steps := MavlinkLink.startSession_steps flight.link ⟨generation⟩ 0
      refine ⟨sound.buffered.steps packs steps, ?_, ?_, sound.chained, sound.increasing,
        fun other => absurd rfl other⟩
      · exact (congrArg _ same).trans sound.starts
      · rw [same]
        exact sound.tagged
  | started session starting whole allowed =>
      have live := sound.live (by simp [starting])
      obtain ⟨counter, nonzero, follows⟩ := live.started starting allowed
      have restarted : LinkStep 0 flight.link _ := .restart flight.link session _ whole allowed
      obtain ⟨_, _, _, same⟩ := FlightSession.start_ok allowed
      refine ⟨sound.buffered.step packs restarted, ?_, ?_, ?_, ?_,
        fun _ => ⟨live.stored, live.returned, (fun same => by cases same), ?_, (fun same => by cases same)⟩⟩
      · exact (List.filterMap_cons_some (f := LinkEvent.generation) rfl).trans
          (congrArg _ sound.starts)
      · intro status estimate pose speed time member
        rcases List.mem_cons.mp member with other | member
        · cases other
        · exact (sound.tagged.mono fun _ => List.mem_cons_of_mem _) status estimate pose speed time member
      · have chained := sound.chained
        cases started : flight.sessions with
        | nil => exact .singleton _
        | cons last earlier =>
            rw [started] at chained
            exact .cons_cons (follows last.1 last.2 earlier started).1 chained
      · refine List.pairwise_cons.mpr ⟨fun earlier member => ?_, sound.increasing⟩
        have increasing := sound.increasing
        cases started : flight.sessions with
        | nil =>
            rw [started] at member
            cases member
        | cons last rest =>
            have newest := (follows last.1 last.2 rest started).2
            rw [started] at member increasing
            rcases List.mem_cons.mp member with rfl | member
            · exact newest
            · exact UInt64.lt_trans ((List.pairwise_cons.mp increasing).1 earlier member) newest
      · rintro _ _ _ ⟨⟩
        exact ⟨rfl, nonzero, by rw [same]; rfl, counter, rfl⟩

theorem Sound.run (packs : PacksFit R) {actions : List (FlightAction R)} (sound : flight.Sound)
    (ran : flight.run actions = some next) : next.Sound := by
  refine PartialRun.invariant Flight.Sound ?_ ran sound
  intro before action after moved sound
  exact sound.step packs (step_spec moved)

omit [Scalar R] in
/-- The loop begins with a reserved byte and no session. -/
theorem launch_sound {store : SessionStore} {owner : OwnerFates} {fates : ReserveFates}
    {stream : Bool} {config : MavlinkLinkConfig} {transform : FrameTransform R}
    (launched : launch store owner fates stream config transform = some flight) :
    flight.Sound ∧ ∃ byte, MavlinkLink.create stream config transform byte = .ok flight.link := by
  unfold launch at launched
  split at launched
  · cases launched
  split at launched
  · cases launched
  rename_i _ _ _ byte returned
  split at launched
  · cases launched
  rename_i link created
  obtain rfl := Option.some.inj launched
  have fresh := MavlinkLink.create_fresh created
  obtain ⟨_, stored, newest⟩ := SessionStore.reserveReset_ok returned
  refine ⟨⟨fresh.buffered, ?_, ?_, .nil, .nil, fun _ => ⟨stored, newest, fun _ => ?_,
    (fun _ _ _ same => by cases same), (fun same => by cases same)⟩⟩, byte, created⟩
  · exact congrArg _ fresh.history
  · intro status estimate pose speed time member
    rw [fresh.history] at member
    cases member
  · exact ⟨rfl, fresh.generation, MavlinkLink.create_resetCounter created⟩

/-- The link of a flight went through calls of the link only. -/
theorem FlightStep.operations (moved : FlightStep flight next) :
    ∃ operations, next.link = flight.link.run operations := by
  cases moved with
  | serve stage backoff link served from_ outside known =>
      rcases served with same | ⟨operation, _, same⟩
      · exact ⟨[], same⟩
      · exact ⟨[operation], same⟩
  | first | refused | reserved => exact ⟨[], rfl⟩
  | unstarted generation same => exact ⟨[.startSession ⟨generation⟩], rfl⟩
  | started session starting whole allowed =>
      refine ⟨[.startSession ⟨flight.generation + 1⟩], ?_⟩
      change _ = (flight.link.startSession _).1
      unfold MavlinkLink.startSession
      rw [if_neg (not_not.mpr whole), allowed]
      rfl

/-- A run of the loop is a run of its link. -/
theorem run_operations {actions : List (FlightAction R)} (ran : flight.run actions = some next) :
    ∃ operations, next.link = flight.link.run operations := by
  refine PartialRun.invariant (fun reached => ∃ operations, reached.link = flight.link.run operations)
    ?_ ran ⟨[], rfl⟩
  rintro before action after moved ⟨earlier, same⟩
  obtain ⟨operations, next⟩ := FlightStep.operations (step_spec moved)
  refine ⟨earlier ++ operations, ?_⟩
  rw [next, same, MavlinkLink.run, MavlinkLink.run, MavlinkLink.run, List.foldl_append]

/-- Each write continues the newest queued transmission. -/
theorem handed_transmission (packs : PacksFit R) {stream : Bool} {config : MavlinkLinkConfig}
    {transform : FrameTransform R} {counter : UInt8} {link : MavlinkLink R}
    (created : MavlinkLink.create stream config transform counter = .ok link)
    (operations : List (Operation R)) {recent past : List (LinkEvent R)} {call : WriteCall}
    (handed : (link.run operations).history = recent ++ .handed call :: past) :
    ∃ transmission, behind past = some transmission ∧ transmission.content.kind = call.kind ∧
      call.bytes <:+ transmission.bytes config.source := by
  have fresh := MavlinkLink.create_fresh created
  have lawful := (MavlinkLink.ledger_inductive (R := R) config MavlinkLink.AnyOrder).handed
    (fun call past => ∃ transmission, behind past = some transmission ∧
      transmission.content.kind = call.kind ∧ call.bytes <:+ transmission.bytes config.source)
    (fun now link accepted buffered ledger allowed => by
      obtain ⟨transmission, newest, kind, bytes⟩ := buffered.filled allowed.busy
      refine ⟨transmission, newest, kind, ?_⟩
      rw [← ledger.configured, bytes]
      exact List.drop_suffix _ _)
  obtain ⟨_, _, always⟩ := lawful.run packs fresh.buffered
    (fun _ => ⟨fresh.ledger, by rw [fresh.history]; exact always_nil⟩) operations
  exact always recent _ past handed call rfl

/-- The bytes of a write are of a measurement whose packets carry the byte that was the newest
reserved one when the session of its estimate started. -/
def CarriesReserved (config : MavlinkLinkConfig) (sessions : List (SessionGeneration × UInt8))
    (call : WriteCall) (past : List (LinkEvent R)) : Prop :=
  ∃ transmission estimate pose speed byte, behind past = some transmission ∧
    transmission.content = .measurement estimate pose speed ∧
    call.bytes <:+ transmission.bytes config.source ∧ (estimate.generation, byte) ∈ sessions ∧
    pose.resetCounter = byte ∧ ∀ packet ∈ speed, packet.resetCounter = byte

/-- In every run of the flight loop, a session starts with the newest reserved byte, which is synced
in the counter file; each session's byte follows the last one; and every measurement packet carries
the byte of its session. -/
theorem reset_byte_durable (packs : PacksFit R) {store : SessionStore} {owner : OwnerFates}
    {fates : ReserveFates} {stream : Bool} {config : MavlinkLinkConfig}
    {transform : FrameTransform R} {first flight : Flight R} {actions : List (FlightAction R)}
    (launched : launch store owner fates stream config transform = some first)
    (ran : first.run actions = some flight) :
    (∀ action next generation, flight.step action = some next →
      next.link.history = .started generation :: flight.link.history →
        ∃ byte, next.sessions = (generation, byte) :: flight.sessions ∧
          next.link.session.generation = some generation ∧
          next.link.session.resetCounter = byte ∧
          latest StoreEvent.byte next.store.directory.history = some byte ∧
          next.store.directory.counter = { live := some (resetText byte.toNat) }) ∧
    flight.link.history.filterMap LinkEvent.generation = flight.sessions.map Prod.fst ∧
    flight.sessions.IsChain (fun later earlier => later.2 = earlier.2 + 1) ∧
    flight.sessions.Pairwise (fun later earlier => earlier.1.value < later.1.value) ∧
    ∀ recent call past, flight.link.history = recent ++ .handed call :: past →
      call.kind = .measurement → CarriesReserved config flight.sessions call past := by
  obtain ⟨initial, counter, created⟩ := launch_sound launched
  have sound := initial.run packs ran
  refine ⟨fun action next generation moved starts => ?_, sound.starts, sound.chained,
    sound.increasing, fun recent call past handed measurement => ?_⟩
  · have moved := step_spec moved
    have after := (sound.step packs moved).starts
    rw [starts, List.filterMap_cons_some (f := LinkEvent.generation) rfl, sound.starts] at after
    have live := (sound.step packs moved).live
    cases moved with
    | serve | first | refused | reserved | unstarted => simp at after
    | started session starting whole allowed =>
        have live := live (by simp)
        obtain rfl := (List.cons.inj after).1
        obtain ⟨_, _, running, byte, _⟩ := live.current _ _ _ rfl
        exact ⟨_, rfl, running, byte, live.returned, live.stored⟩
  · obtain ⟨operations, same⟩ := run_operations ran
    rw [same] at handed
    obtain ⟨transmission, newest, kind, bytes⟩ := handed_transmission packs created operations handed
    obtain ⟨status, content⟩ := transmission
    cases content with
    | alignment | heartbeat =>
        rw [measurement] at kind
        cases kind
    | measurement estimate pose speed =>
        obtain ⟨event, member, read⟩ := List.exists_of_findSome?_eq_some newest
        cases event with
        | queued queued time =>
            obtain rfl := Option.some.inj read
            have carried := sound.tagged status estimate pose speed time (by
              rw [same, handed]
              exact List.mem_append_right _ (List.mem_cons_of_mem _ member))
            exact ⟨_, estimate, pose, speed, _, newest, rfl, bytes, carried.1, rfl, carried.2⟩
        | _ => cases read

end Flight

namespace SampleCaptures
open SampleFlight

def store : SessionStore := { directory := { counter := { live := none } } }

def pump (now : Int) (input : List UInt8) : FlightAction Exact :=
  .pump { now, transport := ⟨.ok input, .ok 300⟩, stopping := false, clock := now }

/-- The first capture fails at the camera, and the second one writes a measurement. -/
def actions : List (FlightAction Exact) :=
  [.stopping false, .start, pump 1 (heartbeat false 0), .stopping false, .throws, .stopping false,
    .clock 2, pump 5000000002 [], .stopping false, .reserve {}, .start,
    pump 5000000003 (heartbeat false 1), .stopping false, .proceed, pump 5000000004 [],
    .clock 5000000005, pump 5000000006 [],
    .publish { estimate 5000000006 with generation := ⟨2⟩ } 5000000007 5000000008,
    pump 5000000009 []]

def launched : Option (Flight Exact) := Flight.launch store {} {} true {} ⟨nedFromWorld⟩

def measures (flight : Flight Exact) : Bool :=
  (flight.link.history.head?.bind LinkEvent.call).any fun call => call.kind = .measurement

theorem ran : (launched.bind fun first => first.run actions).map
    (fun flight => (flight.sessions, measures flight)) =
      some ([(⟨2⟩, 1), (⟨1⟩, 0)], true) := by
  decide +kernel

end SampleCaptures

open SampleCaptures in
/-- The packets of the second session carry the byte 1. -/
theorem Flight.reset_byte_durable_captures : ∃ (flight : Flight Exact) (call : WriteCall)
    (past : List (LinkEvent Exact)),
    flight.sessions = [(⟨2⟩, 1), (⟨1⟩, 0)] ∧ flight.link.history = .handed call :: past ∧
      call.kind = .measurement ∧ Flight.CarriesReserved {} flight.sessions call past := by
  obtain ⟨flight, reached, same⟩ := Option.map_eq_some_iff.mp ran
  obtain ⟨first, begun, reached⟩ := Option.bind_eq_some_iff.mp reached
  obtain ⟨sessions, measured⟩ := Prod.mk.inj same
  obtain ⟨call, past, split, measurement⟩ := LinkEvent.newest_handed
    (fun call => call.kind = .measurement) flight.link.history measured
  have measurement : call.kind = .measurement := of_decide_eq_true measurement
  exact ⟨flight, call, past, sessions, split, measurement,
    (Flight.reset_byte_durable MavlinkCodec.packsFit begun reached).2.2.2.2 [] call past split
      measurement⟩

end Vio
