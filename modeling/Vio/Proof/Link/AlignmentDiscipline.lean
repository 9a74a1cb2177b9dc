import Vio.Proof.Link.Freshness

namespace Vio
open Mavlink History

/-- A complete write of an alignment command: the transmission behind it, and the time. -/
structure AlignmentWrite (R : Type) [Mavlink R] where
  transmission : Option (Transmission R)
  time : Int

namespace LinkEvent
variable {R : Type} [Mavlink R]

/-- An episode opens with a session or with the loss of an alignment. -/
def opensEpisode : LinkEvent R → Bool
  | .started _ | .revoked _ => true
  | _ => false

/-- The time at which the event completed an alignment command. -/
def alignmentTime : LinkEvent R → Option Int
  | .handed call => if call.kind = .alignment ∧ call.Complete then some call.now else none
  | _ => none

end LinkEvent

/-- The complete alignment commands of the current episode, newest first. -/
def episodeWrites {R : Type} [Mavlink R] : List (LinkEvent R) → List (AlignmentWrite R)
  | [] => []
  | event :: past =>
      if event.opensEpisode then []
      else
        match event.alignmentTime with
        | some time => ⟨behind past, time⟩ :: episodeWrites past
        | none => episodeWrites past

section Writes
variable {R : Type} [Mavlink R] {event : LinkEvent R} {past : List (LinkEvent R)}

theorem episodeWrites_open (opens : event.opensEpisode = true) : episodeWrites (event :: past) = [] := by
  simp [episodeWrites, opens]

theorem episodeWrites_quiet (calm : event.opensEpisode = false) (quiet : event.alignmentTime = none) :
    episodeWrites (event :: past) = episodeWrites past := by
  simp [episodeWrites, calm, quiet]

theorem episodeWrites_write {call : WriteCall} (kind : call.kind = .alignment) (whole : call.Complete) :
    episodeWrites (.handed call :: past) = ⟨behind past, call.now⟩ :: episodeWrites past := by
  simp [episodeWrites, LinkEvent.opensEpisode, LinkEvent.alignmentTime, kind, whole]

end Writes

/-- The commands of one episode are bounded in number, numbered from zero and spaced in time. -/
structure Disciplined {R : Type} [Mavlink R] (config : FlightSessionConfig)
    (writes : List (AlignmentWrite R)) : Prop where
  bounded : writes.length ≤ config.alignmentAttempts
  /-- The confirmation of a command is the number of the older ones. -/
  numbered : Always (fun write older => ∃ status command,
    write.transmission = some ⟨status, .alignment command⟩ ∧
      command.confirmation.toNat = older.length) writes
  spaced : writes.IsChain fun later earlier => config.alignmentTimeout ≤ later.time - earlier.time

theorem Disciplined.empty {R : Type} [Mavlink R] (config : FlightSessionConfig) :
    Disciplined config ([] : List (AlignmentWrite R)) :=
  ⟨Nat.zero_le _, always_nil, .nil⟩

namespace FlightSession

/-- The session is on its way to a request. -/
def Preparing (session : FlightSession) : Prop :=
  session.state = .waitingForController ∨ session.state = .priming

theorem Preparing.elim_of {session : FlightSession} {goal : Prop}
    (waiting : session.state ≠ .waitingForController) (priming : session.state ≠ .priming)
    (preparing : session.Preparing) : goal :=
  preparing.elim (fun state => absurd state waiting) (fun state => absurd state priming)

/-- The session counts the complete writes of its episode and times the next one. -/
structure Paced {R : Type} [Mavlink R] (session : FlightSession) (writes : List (AlignmentWrite R))
    (now : Int) : Prop where
  count : writes.length = session.attempts
  past : ∀ write ∈ writes.head?, write.time ≤ now
  outstanding : session.state = .awaitingAlignment →
    ∀ write ∈ writes.head?, write.time ≤ session.requestTime
  waits : session.Preparing →
    ∀ write ∈ writes.head?, write.time + session.config.alignmentTimeout ≤ session.nextRequestTime
  disciplined : Disciplined session.config writes

variable {R : Type} [Mavlink R] {session : FlightSession} {writes : List (AlignmentWrite R)} {now : Int}

/-- Without a complete write the session may be in any state. -/
theorem Paced.empty (session : FlightSession) (now : Int) (attempts : session.attempts = 0) :
    session.Paced ([] : List (AlignmentWrite R)) now :=
  ⟨attempts.symm, by simp, fun _ => by simp, fun _ => by simp, Disciplined.empty session.config⟩

/-- A failure leaves the count and the spacing of the writes. -/
theorem Paced.fail (paced : session.Paced writes now) : session.fail.Paced writes now where
  count := paced.count
  past := paced.past
  outstanding := (fun same => by cases same)
  waits := Preparing.elim_of (fun same => by cases same) (fun same => by cases same)
  disciplined := paced.disciplined

/-- After an outstanding request the next one waits for the timeout. -/
theorem Paced.retry (paced : session.Paced writes now) {next : FlightSession}
    (attempts : next.attempts = session.attempts) (config : next.config = session.config)
    (state : next.state = .priming)
    (late : ∀ write ∈ writes.head?,
      write.time + session.config.alignmentTimeout ≤ next.nextRequestTime) :
    next.Paced writes now where
  count := paced.count.trans attempts.symm
  past := paced.past
  outstanding := fun awaiting => by rw [state] at awaiting; cases awaiting
  waits := fun _ => by rw [config]; exact late
  disciplined := by rw [config]; exact paced.disciplined

/-- A tick takes the writes of an episode back only with an alignment. -/
theorem Paced.tick (paced : session.Paced writes now) :
    (session.tick now).Paced
      (if session.state = .aligned ∧ (session.tick now).state ≠ .aligned then [] else writes) now := by
  have spec := session.tick_spec now
  generalize session.tick now = next at spec
  cases spec with
  | keep quiet =>
      rw [if_neg (fun lost => lost.2 lost.1)]
      exact paced
  | lose known stale outstanding =>
      rw [if_neg (by simp [outstanding])]
      exact paced.fail
  | revoke known stale aligned =>
      rw [if_pos ⟨aligned, (fun same => by cases same)⟩]
      exact Paced.empty _ now rfl
  | wait known stale waiting =>
      rw [if_neg (by rcases waiting with state | state <;> simp [state])]
      exact ⟨paced.count, paced.past, (fun same => by cases same), fun _ => paced.waits waiting,
        paced.disciplined⟩
  | prime known fresh waiting =>
      rw [if_neg (by simp [waiting])]
      exact ⟨paced.count, paced.past, (fun same => by cases same), fun _ => paced.waits (.inl waiting),
        paced.disciplined⟩
  | expire fresh outstanding late =>
      rw [if_neg (by simp [outstanding])]
      exact paced.fail
  | retry fresh outstanding late left =>
      rw [if_neg (by simp [outstanding])]
      refine paced.retry rfl rfl rfl fun write newest => ?_
      have answered := paced.outstanding outstanding write newest
      change write.time + _ ≤ now
      omega

/-- A heartbeat leaves the count of the requests, or ends the episode. -/
theorem Paced.observe (paced : session.Paced writes now) (armed : Bool) :
    (session.observe armed now).Paced writes now := by
  have spec := session.observe_spec armed now
  generalize session.observe armed now = next at spec
  cases spec with
  | note calm => exact ⟨paced.count, paced.past, paced.outstanding, paced.waits, paced.disciplined⟩
  | abort outstanding arming =>
      have fail := paced.fail
      exact ⟨fail.count, fail.past, fail.outstanding, fail.waits, fail.disciplined⟩

/-- A reply leaves the count of the requests, or ends the episode. -/
theorem Paced.reply (paced : session.Paced writes now) (result : AlignmentResult) :
    (session.reply result now).Paced writes now := by
  have spec := session.reply_spec result now
  generalize session.reply result now = next at spec
  cases spec with
  | ignore => exact paced
  | align outstanding fresh disarmed granted =>
      exact ⟨paced.count, paced.past, (fun same => by cases same),
        Preparing.elim_of (fun same => by cases same) (fun same => by cases same), paced.disciplined⟩
  | progress outstanding =>
      exact ⟨paced.count, paced.past, paced.outstanding, paced.waits, paced.disciplined⟩
  | retry outstanding left =>
      refine paced.retry rfl rfl rfl fun write newest => ?_
      have written := paced.past write newest
      change write.time + _ ≤ now + _
      omega
  | refuse outstanding => exact paced.fail

theorem Paced.wait {later : Int} (order : now ≤ later) (paced : session.Paced writes now) :
    session.Paced writes later :=
  { paced with past := fun write newest => Int.le_trans (paced.past write newest) order }

/-- A complete write that was due extends the episode. -/
theorem Paced.alignmentSent (paced : session.Paced writes now) {next : FlightSession}
    (counted : session.alignmentSent now = .ok next) {status : Status R} {command : CommandLong R}
    (confirmation : command.confirmation = UInt8.ofNat session.attempts) :
    next.Paced (⟨some ⟨status, .alignment command⟩, now⟩ :: writes) now := by
  obtain ⟨due, rfl⟩ := FlightSession.alignmentSent_ok counted
  obtain ⟨priming, _, _, left, ready, _⟩ := (session.alignmentDue_iff now).mp due
  have most := session.alignmentAttempts_bounds.2
  refine ⟨congrArg Nat.succ paced.count, ?_, fun _ => ?_,
    Preparing.elim_of (fun same => by cases same) (fun same => by cases same), ?_, ?_, ?_⟩
  · intro write newest
    obtain rfl := Option.some.inj newest
    exact Int.le_refl now
  · intro write newest
    obtain rfl := Option.some.inj newest
    exact Int.le_refl now
  · rw [List.length_cons, paced.count]
    exact left
  · refine Always.cons ⟨status, command, rfl, ?_⟩ paced.disciplined.numbered
    rw [confirmation, paced.count, UInt8.toNat_ofNat']
    omega
  · have waited := paced.waits (.inr priming)
    cases writes with
    | nil => exact .singleton _
    | cons newest older =>
        refine .cons_cons ?_ paced.disciplined.spaced
        have spaced := waited newest rfl
        change session.config.alignmentTimeout ≤ now - newest.time
        omega

/-- A tick forgets the time of the last measurement, or keeps it. -/
theorem tick_measurementTime (session : FlightSession) (now : Int) :
    (session.tick now).measurementTime = none ∨
      (session.tick now).measurementTime = session.measurementTime := by
  have spec := session.tick_spec now
  generalize session.tick now = next at spec
  cases spec with
  | keep | prime | retry => exact .inr rfl
  | lose | revoke | wait | expire => exact .inl rfl

end FlightSession

namespace MavlinkLink
variable {R : Type} [Mavlink R]

/-- A pending command belongs to the running session and carries its count of attempts. -/
def Requesting (link : MavlinkLink R) : Prop :=
  link.pendingKind = .alignment → link.started = true ∧
    link.session.state ≠ .awaitingAlignment ∧ link.session.state ≠ .aligned ∧
    ∃ status command, behind link.history = some ⟨status, .alignment command⟩ ∧
      command.confirmation = UInt8.ofNat link.session.attempts

variable {now : Int} {link next : MavlinkLink R} {config : MavlinkLinkConfig}

theorem Fresh.requesting (fresh : link.Fresh config) : link.Requesting := by
  simp [Requesting, fresh.pendingKind]

theorem Fresh.paced (fresh : link.Fresh config) (now : Int) :
    link.session.Paced (episodeWrites link.history) now := by
  rw [fresh.history]
  exact .empty _ now fresh.attempts

theorem Requesting.other (other : link.pendingKind ≠ .alignment) : link.Requesting :=
  fun kind => absurd kind other

/-- The pending transmission stays, and so does the state while a command is pending. -/
theorem Requesting.keep (requesting : link.Requesting) (kind : next.pendingKind = link.pendingKind)
    (started : next.started = link.started) (same : behind next.history = behind link.history)
    (state : link.session.state ≠ .awaitingAlignment → link.session.state ≠ .aligned →
      next.session.state ≠ .awaitingAlignment ∧ next.session.state ≠ .aligned ∧
        next.session.attempts = link.session.attempts) : next.Requesting := by
  intro pending
  obtain ⟨running, awaiting, aligned, status, command, queued, confirmation⟩ :=
    requesting (kind.symm.trans pending)
  obtain ⟨awaiting, aligned, attempts⟩ := state awaiting aligned
  exact ⟨started.trans running, awaiting, aligned, status, command, same.trans queued,
    by rw [attempts, confirmation]⟩

/-- A tick that loses the alignment begins a new episode. -/
theorem episodeWrites_tick (link : MavlinkLink R) (now : Int) :
    episodeWrites (link.tick now).history =
      if link.session.state = .aligned ∧ (link.session.tick now).state ≠ .aligned then []
      else episodeWrites link.history := by
  simp only [tick]
  split
  · exact episodeWrites_open rfl
  · rfl

variable [Scalar R]

/-- A pending command stays that of its session, with the count of its attempts. -/
theorem Requesting.step (moved : LinkStep now link next) (requesting : link.Requesting) :
    next.Requesting := by
  cases moved with
  | tick =>
      refine requesting.keep rfl rfl (tick_behind link now) fun awaiting aligned => ?_
      have spec := link.session.tick_spec now
      change (link.session.tick now).state ≠ _ ∧ (link.session.tick now).state ≠ _ ∧
        (link.session.tick now).attempts = _
      generalize link.session.tick now = next at spec
      cases spec with
      | keep => exact ⟨awaiting, aligned, rfl⟩
      | revoke known stale state => exact absurd state aligned
      | lose | wait | prime | expire | retry =>
          exact ⟨(fun same => by cases same), (fun same => by cases same), rfl⟩
  | observe armed ticked =>
      refine requesting.keep rfl rfl (latest_cons_none rfl) fun awaiting aligned => ?_
      have spec := link.session.observe_spec armed now
      change (link.session.observe armed now).state ≠ _ ∧ (link.session.observe armed now).state ≠ _ ∧
        (link.session.observe armed now).attempts = _
      generalize link.session.observe armed now = next at spec
      cases spec with
      | note => exact ⟨awaiting, aligned, rfl⟩
      | abort => exact ⟨(fun same => by cases same), (fun same => by cases same), rfl⟩
  | reply result =>
      refine requesting.keep rfl rfl (latest_cons_none rfl) fun awaiting aligned => ?_
      have spec := link.session.reply_spec result now
      change (link.session.reply result now).state ≠ _ ∧ (link.session.reply result now).state ≠ _ ∧
        (link.session.reply result now).attempts = _
      generalize link.session.reply result now = next at spec
      cases spec with
      | ignore => exact ⟨awaiting, aligned, rfl⟩
      | align outstanding | progress outstanding | retry outstanding | refuse outstanding =>
          exact absurd outstanding awaiting
  | note parser stats => exact requesting
  | withdraw =>
      rcases link.endSession_cases with ⟨_, same⟩ | ⟨_, same⟩ <;> rw [same]
      all_goals exact .other (fun same => by cases same)
  | request connected running idle due =>
      have priming := ((link.session.alignmentDue_iff now).mp due).1
      refine fun _ => ⟨running, ?_, ?_, link.transmitStatus, link.alignmentCommand,
        latest_cons_some rfl, rfl⟩
      · change link.session.state ≠ _
        simp [priming]
      · change link.session.state ≠ _
        simp [priming]
  | part accepted allowed short =>
      exact requesting.keep rfl rfl (latest_cons_none rfl) fun awaiting aligned =>
        ⟨awaiting, aligned, rfl⟩
  | close | drop | restart | publish | beat | sentMeasurement | sentAlignment | sentHeartbeat =>
      exact .other (fun same => by cases same)

/-- Each step keeps the session paced by the history. -/
theorem paced_step (moved : LinkStep now link next) (requesting : link.Requesting)
    (paced : link.session.Paced (episodeWrites link.history) now) :
    next.session.Paced (episodeWrites next.history) now := by
  -- An event that opens no episode and completes no command leaves the writes as they are.
  have quiet {event : LinkEvent R} (calm : event.opensEpisode = false)
      (silent : event.alignmentTime = none) {session : FlightSession}
      (held : session.Paced (episodeWrites link.history) now) :
      session.Paced (episodeWrites (event :: link.history)) now := by
    rwa [episodeWrites_quiet calm silent]
  cases moved with
  | tick =>
      rw [episodeWrites_tick]
      exact paced.tick
  | observe armed ticked => exact quiet rfl rfl (paced.observe armed)
  | reply result => exact quiet rfl rfl (paced.reply result)
  | note | drop => exact paced
  | close reason => exact paced.fail
  | restart session generation whole allowed =>
      obtain ⟨_, _, _, rfl⟩ := FlightSession.start_ok allowed
      change FlightSession.Paced _ (episodeWrites (.started generation :: link.history)) now
      rw [episodeWrites_open rfl]
      exact .empty _ now rfl
  | withdraw =>
      rcases link.endSession_cases with ⟨_, same⟩ | ⟨_, same⟩ <;> rw [same]
      · exact quiet rfl rfl paced
      · exact quiet rfl rfl paced.fail
  | publish | request | beat => exact quiet rfl rfl paced
  | part accepted allowed short =>
      exact quiet rfl (by simp [LinkEvent.alignmentTime, writeCall_short now short]) paced
  | sentMeasurement stats accepted allowed whole kind =>
      have kept : (link.session.measurementSent link.pendingTimestamp).Paced
          (episodeWrites link.history) now :=
        ⟨paced.count, paced.past, paced.outstanding, paced.waits, paced.disciplined⟩
      exact quiet rfl (by simp [LinkEvent.alignmentTime, writeCall, kind]) kept
  | sentAlignment session accepted allowed whole kind counted =>
      obtain ⟨_, _, _, status, command, queued, confirmation⟩ := requesting kind
      change session.Paced (episodeWrites (.handed (link.writeCall accepted now) :: link.history)) now
      rw [episodeWrites_write (show (link.writeCall accepted now).kind = .alignment from kind)
        (writeCall_complete now whole), queued]
      exact paced.alignmentSent counted confirmation
  | sentHeartbeat accepted allowed whole kind =>
      exact quiet rfl (by simp [LinkEvent.alignmentTime, writeCall, kind]) paced

/-- A measurement of an estimate of this generation and time was completely written in the
current session. -/
def Primed (generation : SessionGeneration) (time : Int) (history : List (LinkEvent R)) : Prop :=
  Since (fun event => event.generation = none)
    (fun event past => ∃ call status estimate pose speed, event = .handed call ∧
      call.kind = .measurement ∧ call.Complete ∧
      behind past = some ⟨status, .measurement estimate pose speed⟩ ∧
      estimate.generation = generation ∧ estimate.timestamp = time) history

/-- The session remembers the time of a complete measurement of its own. -/
def Remembers (link : MavlinkLink R) : Prop :=
  ∀ time, link.session.measurementTime = some time → ∃ generation,
    link.session.generation = some generation ∧ Primed generation time link.history

omit [Scalar R] in
theorem Fresh.remembers (fresh : link.Fresh config) : link.Remembers := by
  intro time known
  rw [fresh.measurementTime] at known
  cases known

omit [Scalar R] in
/-- What the session remembers stays true where it says no more than before. -/
theorem Remembers.keep (remembers : link.Remembers)
    (time : next.session.measurementTime = none ∨
      next.session.measurementTime = link.session.measurementTime)
    (same : next.session.generation = link.session.generation)
    (history : next.history = link.history ∨
      ∃ event, event.generation = none ∧ next.history = event :: link.history) : next.Remembers := by
  intro stamp known
  rcases time with forgotten | kept
  · rw [forgotten] at known
    cases known
  obtain ⟨generation, current, primed⟩ := remembers stamp (kept.symm.trans known)
  refine ⟨generation, same.trans current, ?_⟩
  rcases history with same | ⟨event, calm, same⟩ <;> rw [same]
  · exact primed
  · exact primed.cons calm

/-- A measurement that is completely written is the one that the session remembers. -/
theorem Remembers.step (moved : LinkStep now link next) (backed : link.Backed now)
    (remembers : link.Remembers) : next.Remembers := by
  cases moved with
  | tick =>
      refine remembers.keep (link.session.tick_measurementTime now)
        (link.session.tick_controller now).generation ?_
      simp only [tick]
      split
      · exact .inr ⟨_, rfl, rfl⟩
      · exact .inl rfl
  | observe armed ticked =>
      refine remembers.keep ?_ (link.session.observe_controller armed now).2.2 (.inr ⟨_, rfl, rfl⟩)
      have spec := link.session.observe_spec armed now
      change (link.session.observe armed now).measurementTime = _ ∨
        (link.session.observe armed now).measurementTime = _
      generalize link.session.observe armed now = next at spec
      cases spec with
      | note => exact .inr rfl
      | abort => exact .inl rfl
  | reply result =>
      refine remembers.keep ?_ (link.session.reply_controller result now).generation
        (.inr ⟨_, rfl, rfl⟩)
      have spec := link.session.reply_spec result now
      change (link.session.reply result now).measurementTime = _ ∨
        (link.session.reply result now).measurementTime = _
      generalize link.session.reply result now = next at spec
      cases spec with
      | ignore | align | progress | retry => exact .inr rfl
      | refuse => exact .inl rfl
  | note parser stats => exact remembers
  | close reason => exact remembers.keep (.inl rfl) rfl (.inl rfl)
  | drop unsent => exact remembers.keep (.inr rfl) rfl (.inl rfl)
  | restart session generation whole allowed =>
      obtain ⟨_, _, _, rfl⟩ := FlightSession.start_ok allowed
      intro time known
      cases known
  | withdraw =>
      rcases link.endSession_cases with ⟨_, same⟩ | ⟨_, same⟩ <;> rw [same]
      · exact remembers.keep (.inr rfl) rfl (.inr ⟨_, rfl, rfl⟩)
      · exact remembers.keep (.inl rfl) rfl (.inr ⟨_, rfl, rfl⟩)
  | sentMeasurement stats accepted allowed whole kind =>
      obtain ⟨estimate, pose, speed, carries⟩ := backed kind
      obtain ⟨status, queued⟩ := carries.queued
      intro time known
      refine ⟨estimate.generation, carries.generation, Since.now ⟨_, status, estimate, pose, speed,
        rfl, kind, writeCall_complete now whole, queued, rfl, ?_⟩⟩
      rw [← carries.timestamp]
      exact Option.some.inj known
  | sentAlignment session accepted allowed whole kind counted =>
      obtain ⟨_, rfl⟩ := FlightSession.alignmentSent_ok counted
      exact remembers.keep (.inr rfl) rfl (.inr ⟨_, rfl, rfl⟩)
  | publish | request | beat | part | sentHeartbeat =>
      exact remembers.keep (.inr rfl) rfl (.inr ⟨_, rfl, rfl⟩)

/-- The bytes of a write call may ask the controller for an alignment. -/
structure RequestAllowed (config : MavlinkLinkConfig) (call : WriteCall)
    (past : List (LinkEvent R)) : Prop where
  started : call.started = true
  /-- No other request is outstanding. -/
  priming : call.session.state = .priming
  disarmed : call.session.controllerDisarmed call.now = true
  primed : ∃ generation time, call.session.generation = some generation ∧
    latest LinkEvent.generation past = some generation ∧ Primed generation time past ∧
    time ≤ call.now ∧ call.now - time ≤ config.session.maxEstimateAge

omit [Scalar R] in
/-- A command goes out only in a session with a complete measurement of its own. -/
theorem Remembers.requestAllowed (remembers : link.Remembers) (ledger : link.Ledger config)
    (requesting : link.Requesting) (allowed : link.Sendable now) (kind : link.pendingKind = .alignment)
    (accepted : Nat) : RequestAllowed config (link.writeCall accepted now) link.history := by
  have due := allowed.permitted
  rw [eligible, kind] at due
  obtain ⟨priming, publishable, disarmed, _, _, recent⟩ := (link.session.alignmentDue_iff now).mp due
  have controller := ((link.session.canPublish_iff now).mp publishable).2.1
  obtain ⟨time, written, notFuture, notStale⟩ := (link.session.measurementFresh_iff now).mp recent
  obtain ⟨generation, current, primed⟩ := remembers time written
  refine ⟨(requesting kind).1, priming, ?_, generation, time, current,
    ledger.generation.trans current, primed, notFuture, ?_⟩
  · change link.session.controllerDisarmed now = true
    simp [FlightSession.controllerDisarmed, controller, disarmed]
  · rw [← ledger.limits]
    exact notStale

/-- In every run in the order of time, each write of command bytes was allowed, and at every moment
the complete commands of the episode are bounded, numbered and spaced. -/
theorem alignment_disciplined (packs : PacksFit R) {stream : Bool} {config : MavlinkLinkConfig}
    {transform : FrameTransform R} {counter : UInt8} {link : MavlinkLink R}
    (created : create stream config transform counter = .ok link) {operations : List (Operation R)}
    (ordered : NonDecreasing operations) {recent past : List (LinkEvent R)}
    (moment : (link.run operations).history = recent ++ past) :
    Disciplined config.session (episodeWrites past) ∧
      ∀ call older, past = .handed call :: older → call.kind = .alignment →
        RequestAllowed config call older := by
  have fresh := create_fresh created
  have counted : Inductive (· ≤ ·) (fun now (link : MavlinkLink R) =>
      (((link.Ledger config ∧ link.Backed now) ∧ link.Requesting) ∧
        link.session.Paced (episodeWrites link.history) now) ∧ link.Remembers) :=
    (((backed_inductive config).and (fun _ _ _ _ _ requesting => requesting)
      fun _ _ _ _ moved _ _ requesting => requesting.step moved).and
      (fun _ _ _ order _ paced => paced.wait order)
      fun _ _ _ _ moved held _ paced => paced_step moved held.2 paced).and
      (fun _ _ _ _ _ remembers => remembers)
      fun _ _ _ _ moved held _ remembers => remembers.step moved held.1.1.2
  have lawful := (counted.handed
    (fun call past => call.kind = .alignment → RequestAllowed config call past)
    (fun now link accepted _ held allowed kind =>
      held.2.requestAllowed held.1.1.1.1 held.1.1.2 allowed kind accepted)).moments
    (fun past => Disciplined config.session (episodeWrites past))
    (fun now link held => by
      rw [← held.1.1.1.1.1.limits]
      exact held.1.1.2.disciplined)
  obtain ⟨_, ⟨_, always⟩, moments⟩ := lawful.run_ordered packs fresh.buffered
    (fun clock => ⟨⟨⟨⟨⟨⟨fresh.ledger, .idle (by simp [fresh.pendingKind])⟩, fresh.requesting⟩,
      fresh.paced clock⟩, fresh.remembers⟩, by rw [fresh.history]; exact always_nil⟩,
      fun recent past split => by
        rw [fresh.history] at split
        rw [(List.append_eq_nil_iff.mp split.symm).2]
        exact Disciplined.empty config.session⟩) ordered
  refine ⟨moments recent past moment, fun call older same kind => ?_⟩
  exact always recent _ older (by rw [moment, same]) call rfl kind

open SampleFlight in
/-- The command of the flight is allowed, and it is the only one of its episode. -/
theorem alignment_disciplined_flight : ∃ call past,
    (SampleFlight.link.run priming).history = .handed call :: past ∧ RequestAllowed {} call past ∧
      (episodeWrites (SampleFlight.link.run priming).history).length = 1 ∧
      Disciplined {} (episodeWrites (SampleFlight.link.run priming).history) := by
  obtain ⟨call, past, split, command⟩ := LinkEvent.newest_handed
    (fun call => call.kind = .alignment) (SampleFlight.link.run priming).history (by decide +kernel)
  obtain ⟨disciplined, allowed⟩ := alignment_disciplined MavlinkCodec.packsFit created
    (show NonDecreasing priming by unfold NonDecreasing; decide) (List.nil_append (SampleFlight.link.run priming).history).symm
  exact ⟨call, past, split, allowed call past split (of_decide_eq_true command),
    by decide +kernel, disciplined⟩

end MavlinkLink
end Vio
