import Vio.Proof.Link.Runs

namespace Vio
open Mavlink History

namespace LinkEvent
variable {R : Type} [Mavlink R]

/-- The generation that an event started. -/
def generation : LinkEvent R → Option SessionGeneration
  | .started generation => some generation
  | _ => none

/-- The armed flag and the time of a heartbeat of the configured controller. -/
def controller : LinkEvent R → Option (Bool × Int)
  | .heartbeat armed now => some (armed, now)
  | _ => none

/-- The start or the end of a session: its generation, or nothing after the end. -/
def boundary : LinkEvent R → Option (Option SessionGeneration)
  | .started generation => some (some generation)
  | .ended => some none
  | _ => none

/-- A law about write calls and their pasts, read as a law about events. -/
def Handed (law : WriteCall → List (LinkEvent R) → Prop) (event : LinkEvent R)
    (past : List (LinkEvent R)) : Prop :=
  ∀ call, event = .handed call → law call past

/-- The write call of an event. -/
def call : LinkEvent R → Option WriteCall
  | .handed call => some call
  | _ => none

/-- The newest event is the write that is looked for. -/
theorem newest_handed (test : WriteCall → Bool) (history : List (LinkEvent R))
    (found : (history.head?.bind call).any test = true) :
    ∃ call past, history = .handed call :: past ∧ test call = true := by
  cases history with
  | nil => cases found
  | cons event past =>
      cases event with
      | handed call => exact ⟨call, past, rfl, found⟩
      | _ => cases found

end LinkEvent

/-- A step records at most one event, and a write call only where the poll may write. -/
theorem LinkStep.records {R : Type} [Scalar R] [Mavlink R] {now : Int} {link next : MavlinkLink R} (moved : LinkStep now link next) :
    next.history = link.history ∨ ∃ event, next.history = event :: link.history ∧
      ∀ call, event = .handed call →
        link.Sendable now ∧ ∃ accepted, call = link.writeCall accepted now := by
  cases moved with
  | tick =>
      simp only [MavlinkLink.tick]
      split
      · exact .inr ⟨_, rfl, fun _ same => by cases same⟩
      · exact .inl rfl
  | observe armed ticked => exact .inr ⟨_, rfl, fun _ same => by cases same⟩
  | reply result => exact .inr ⟨_, rfl, fun _ same => by cases same⟩
  | note parser stats => exact .inl rfl
  | close reason => exact .inl rfl
  | drop unsent => exact .inl rfl
  | restart session generation whole allowed => exact .inr ⟨_, rfl, fun _ same => by cases same⟩
  | withdraw =>
      refine .inr ⟨.ended, ?_, fun _ same => by cases same⟩
      rcases link.endSession_cases with ⟨_, same⟩ | ⟨_, same⟩ <;> rw [same] <;> rfl
  | publish estimate measurement checks => exact .inr ⟨_, rfl, fun _ same => by cases same⟩
  | request connected running idle due => exact .inr ⟨_, rfl, fun _ same => by cases same⟩
  | beat connected idle => exact .inr ⟨_, rfl, fun _ same => by cases same⟩
  | part accepted allowed short =>
      exact .inr ⟨_, rfl, fun _ same => ⟨allowed, accepted, (LinkEvent.handed.inj same).symm⟩⟩
  | sentMeasurement stats accepted allowed whole kind =>
      exact .inr ⟨_, rfl, fun _ same => ⟨allowed, accepted, (LinkEvent.handed.inj same).symm⟩⟩
  | sentAlignment session accepted allowed whole kind counted =>
      exact .inr ⟨_, rfl, fun _ same => ⟨allowed, accepted, (LinkEvent.handed.inj same).symm⟩⟩
  | sentHeartbeat accepted allowed whole kind =>
      exact .inr ⟨_, rfl, fun _ same => ⟨allowed, accepted, (LinkEvent.handed.inj same).symm⟩⟩

namespace MavlinkLink
variable {R : Type} [Mavlink R]

/-- A constructed link has sent nothing and has seen nothing. -/
structure Fresh (link : MavlinkLink R) (config : MavlinkLinkConfig) : Prop where
  configured : link.config = config
  limits : link.session.config = config.session
  state : link.session.state = .waitingForController
  generation : link.session.generation = none
  heartbeatTime : link.session.heartbeatTime = none
  measurementTime : link.session.measurementTime = none
  attempts : link.session.attempts = 0
  stream : link.stream = true
  started : link.started = false
  pending : link.pending = []
  pendingOffset : link.pendingOffset = 0
  pendingKind : link.pendingKind = .none
  stats : link.stats.measurementsSent = 0
  history : link.history = []

/-- A constructed link is fresh. -/
theorem create_fresh {stream : Bool} {config : MavlinkLinkConfig} {transform : FrameTransform R}
    {counter : UInt8} {link : MavlinkLink R} (created : create stream config transform counter = .ok link) :
    link.Fresh config := by
  unfold create FlightSession.create at created
  split at created
  · cases created
  rename_i session constructed
  split at constructed
  · cases constructed
    split at created
    · rename_i accepted
      cases created
      exact ⟨rfl, rfl, rfl, rfl, rfl, rfl, rfl, accepted.1, rfl, rfl, rfl, rfl, rfl, rfl⟩
    · cases created
  · cases constructed

/-- The constructor hands the byte to the session. -/
theorem create_resetCounter {stream : Bool} {config : MavlinkLinkConfig}
    {transform : FrameTransform R} {counter : UInt8} {link : MavlinkLink R}
    (created : create stream config transform counter = .ok link) :
    link.session.resetCounter = counter := by
  unfold create FlightSession.create at created
  split at created
  · cases created
  rename_i session constructed
  split at constructed
  · cases constructed
    split at created
    · cases created
      rfl
    · cases created
  · cases constructed

/-- A fresh link has an empty buffer. -/
theorem Fresh.buffered {link : MavlinkLink R} {config : MavlinkLinkConfig} (fresh : link.Fresh config) :
    link.Buffered where
  limits := by rw [fresh.configured, fresh.limits]
  empty := fun _ => ⟨fresh.pending, fresh.pendingOffset⟩
  unsent := fun busy => absurd fresh.pendingKind busy
  filled := fun busy => absurd fresh.pendingKind busy
  closed := fun _ => fresh.pendingKind

variable [Scalar R]

/-- A clocked invariant of the primitive steps of links with a buffer in order. -/
structure Inductive (before : Int → Int → Prop) (holds : Int → MavlinkLink R → Prop) : Prop where
  wait : ∀ time later link, before time later → holds time link → holds later link
  act : ∀ now link next, link.Buffered → LinkStep now link next → holds now link → holds now next

/-- An invariant that needs no clock. -/
theorem Inductive.of_state {before : Int → Int → Prop} {holds : MavlinkLink R → Prop}
    (act : ∀ now link next, link.Buffered → LinkStep now link next → holds link → holds next) :
    Inductive before (fun _ link => holds link) :=
  ⟨fun _ _ _ _ held => held, act⟩

/-- Two invariants can be proved together, the second one with the help of the first. -/
theorem Inductive.and {before : Int → Int → Prop} {first second : Int → MavlinkLink R → Prop}
    (one : Inductive before first)
    (wait : ∀ time later link, before time later → first time link → second time link →
      second later link)
    (act : ∀ now link next, link.Buffered → LinkStep now link next → first now link →
      first now next → second now link → second now next) :
    Inductive before (fun now link => first now link ∧ second now link) where
  wait := fun time later link order held =>
    ⟨one.wait time later link order held.1, wait time later link order held.1 held.2⟩
  act := fun now link next buffered moved held =>
    have kept := one.act now link next buffered moved held.1
    ⟨kept, act now link next buffered moved held.1 kept held.2⟩

/-- A run of calls whose times respect `before` is a clocked run of primitive steps. -/
theorem run_timed (packs : PacksFit R) (before : Int → Int → Prop) (operations : List (Operation R))
    (link : MavlinkLink R) (clock : Int) (buffered : link.Buffered)
    (start : ∀ time ∈ operations.filterMap Operation.time, before clock time)
    (ordered : (operations.filterMap Operation.time).Pairwise before) :
    ∃ last, Timed.Run before LinkStep (clock, link) (last, link.run operations) := by
  induction operations generalizing link clock with
  | nil => exact ⟨clock, .refl⟩
  | cons operation rest ih =>
      cases timed : operation.time with
      | none =>
          rw [List.filterMap_cons_none timed] at start ordered
          have steps := apply_steps packs buffered operation clock (by simp [timed])
          obtain ⟨last, run⟩ := ih (link.apply operation) clock (buffered.steps packs steps) start ordered
          exact ⟨last, (Timed.Run.of_steps steps).trans run⟩
      | some time =>
          rw [List.filterMap_cons_some timed] at start ordered
          have steps := apply_steps packs buffered operation time (by simp [timed])
          have order := List.pairwise_cons.mp ordered
          obtain ⟨last, run⟩ := ih (link.apply operation) time (buffered.steps packs steps) order.1 order.2
          have waited : Timed.Run before LinkStep (clock, link) (time, link) :=
            .single (.wait link (start time List.mem_cons_self))
          exact ⟨last, (waited.trans (Timed.Run.of_steps steps)).trans run⟩

/-- An invariant holds at the end of every run that starts in it. -/
theorem Inductive.along (packs : PacksFit R) {before : Int → Int → Prop}
    {holds : Int → MavlinkLink R → Prop} (kept : Inductive before holds)
    {first last : Int × MavlinkLink R} (run : Timed.Run before LinkStep first last)
    (buffered : first.2.Buffered) (initial : holds first.1 first.2) : holds last.1 last.2 :=
  Timed.Run.invariant_with (fun _ link => link.Buffered) holds
    (fun _ _ _ _ buffered => buffered)
    (fun _ _ _ moved buffered => buffered.step packs moved)
    (fun time later link order _ held => kept.wait time later link order held)
    (fun now link next moved buffered held => kept.act now link next buffered moved held)
    run buffered initial

/-- Where an invariant makes each possible write lawful, every write of a run is lawful. -/
theorem Inductive.handed {before : Int → Int → Prop} {holds : Int → MavlinkLink R → Prop}
    (kept : Inductive before holds) (law : WriteCall → List (LinkEvent R) → Prop)
    (lawful : ∀ now link accepted, link.Buffered → holds now link → link.Sendable now →
      law (link.writeCall accepted now) link.history) :
    Inductive before (fun now link => holds now link ∧ Always (LinkEvent.Handed law) link.history) := by
  refine kept.and (fun _ _ _ _ _ always => always) ?_
  intro now link next buffered moved held _ always
  rcases moved.records with same | ⟨event, same, write⟩
  · rwa [same]
  · rw [same]
    refine always.cons fun call handed => ?_
    obtain ⟨allowed, accepted, rfl⟩ := write call handed
    exact lawful now link accepted buffered held allowed

/-- What an invariant makes of the history holds of the history at each earlier moment too. -/
theorem Inductive.moments {before : Int → Int → Prop} {holds : Int → MavlinkLink R → Prop}
    (kept : Inductive before holds) (law : List (LinkEvent R) → Prop)
    (lawful : ∀ now link, holds now link → law link.history) :
    Inductive before (fun now link => holds now link ∧
      ∀ recent past, link.history = recent ++ past → law past) := by
  refine kept.and (fun _ _ _ _ _ moments => moments) ?_
  intro now link next _ moved _ held moments recent past split
  rcases moved.records with same | ⟨event, same, _⟩
  · exact moments recent past (same.symm.trans split)
  · cases recent with
    | nil =>
        obtain rfl : next.history = past := split
        exact lawful now next held
    | cons first rest =>
        rw [same, List.cons_append, List.cons.injEq] at split
        exact moments rest past split.2

/-- The times of the calls are arbitrary. -/
abbrev AnyOrder : Int → Int → Prop := fun _ _ => True

/-- An invariant of all runs, with calls at arbitrary times. -/
theorem Inductive.run (packs : PacksFit R) {holds : Int → MavlinkLink R → Prop}
    (kept : Inductive AnyOrder holds) {link : MavlinkLink R} (buffered : link.Buffered)
    (initial : ∀ clock, holds clock link) (operations : List (Operation R)) :
    ∃ clock, holds clock (link.run operations) := by
  obtain ⟨last, run⟩ := run_timed packs AnyOrder operations link 0 buffered
    (fun _ _ => trivial) (List.pairwise_of_forall fun _ _ => trivial)
  exact ⟨last, kept.along packs run buffered (initial 0)⟩

/-- An invariant of the runs whose calls never go back in time. -/
theorem Inductive.run_ordered (packs : PacksFit R) {holds : Int → MavlinkLink R → Prop}
    (kept : Inductive (· ≤ ·) holds) {link : MavlinkLink R} (buffered : link.Buffered)
    (initial : ∀ clock, holds clock link) {operations : List (Operation R)}
    (ordered : NonDecreasing operations) : ∃ clock, holds clock (link.run operations) := by
  obtain ⟨clock, start⟩ : ∃ clock, ∀ time ∈ operations.filterMap Operation.time, clock ≤ time := by
    cases times : operations.filterMap Operation.time with
    | nil => exact ⟨0, by simp⟩
    | cons first rest =>
        unfold NonDecreasing at ordered
        rw [times] at ordered
        exact ⟨first, List.forall_mem_cons.mpr ⟨Int.le_refl first, (List.pairwise_cons.mp ordered).1⟩⟩
  obtain ⟨last, run⟩ := run_timed packs (· ≤ ·) operations link clock buffered start ordered
  exact ⟨last, kept.along packs run buffered (initial clock)⟩

end MavlinkLink
end Vio
