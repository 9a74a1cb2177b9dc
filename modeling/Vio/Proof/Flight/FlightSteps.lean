import Vio.Construction.FlightApplication
import Vio.Proof.Link.Events

namespace Vio
open Mavlink History

namespace MavlinkLink
variable {R : Type} [Scalar R] [Mavlink R]

/-- A call of the link, other than the start of a session, or none. -/
def Served (link next : MavlinkLink R) : Prop :=
  next = link ∨ ∃ operation, (∀ generation, operation ≠ .startSession generation) ∧
    next = link.apply operation

/-- A measurement that enters the buffer carries the session's generation and reset byte. -/
def Marks (session : FlightSession) (event : LinkEvent R) : Prop :=
  ∀ status estimate pose speed time, event = .queued ⟨status, .measurement estimate pose speed⟩ time →
    session.generation = some estimate.generation ∧ pose.resetCounter = session.resetCounter ∧
      ∀ packet ∈ speed, packet.resetCounter = session.resetCounter

/-- The checks of a publication leave the generation and the byte of the session. -/
theorem Publishable.marks {now : Int} {link : MavlinkLink R} {estimate : EstimatorEstimate R}
    {measurement : ArduPilotMeasurement R} (checks : link.Publishable estimate measurement now)
    (status : Status R) (time : Int) :
    Marks link.session (.queued ⟨status, link.measurementContent estimate measurement⟩ time) := by
  rintro _ _ _ _ _ ⟨⟩
  obtain ⟨generation, current, valid⟩ := checks.valid
  have positive := link.session.timeouts_positive.2.2.2
  have same := (validateEstimate_none (by omega) valid).1
  refine ⟨by rw [same]; exact current, rfl, fun packet member => ?_⟩
  split at member
  · obtain rfl := Option.some.inj member
    rfl
  · cases member

/-- A step within a session starts none. -/
theorem QuietStep.records {now : Int} {link next : MavlinkLink R} (moved : QuietStep now link next) :
    next.history = link.history ∨ ∃ event, next.history = event :: link.history ∧
      event.generation = none ∧ Marks link.session event := by
  obtain ⟨moved, same⟩ := moved
  have plain (event : LinkEvent R) (other : event.transmission = none) :
      Marks link.session event := by
    rintro _ _ _ _ _ rfl
    cases other
  cases moved with
  | tick =>
      simp only [MavlinkLink.tick]
      split
      · exact .inr ⟨_, rfl, rfl, plain _ rfl⟩
      · exact .inl rfl
  | note | close | drop => exact .inl rfl
  | restart session generation whole allowed =>
      obtain ⟨_, _, later, rfl⟩ := FlightSession.start_ok allowed
      have kept : some generation = link.session.generation := same.generation
      exact absurd (later generation kept.symm) (UInt64.lt_irrefl _)
  | withdraw =>
      refine .inr ⟨.ended, ?_, rfl, plain _ rfl⟩
      rcases link.endSession_cases with ⟨_, same⟩ | ⟨_, same⟩ <;> rw [same] <;> rfl
  | publish estimate measurement checks => exact .inr ⟨_, rfl, rfl, checks.marks _ _⟩
  | request | beat => exact .inr ⟨_, rfl, rfl, by rintro _ _ _ _ _ ⟨⟩⟩
  | observe | reply | part | sentMeasurement | sentAlignment | sentHeartbeat =>
      exact .inr ⟨_, rfl, rfl, plain _ rfl⟩

omit [Scalar R] in
/-- A session starts, or the link records nothing. -/
theorem startSession_cases (link : MavlinkLink R) (generation : SessionGeneration) :
    (∃ next thrown, link.startSession generation = (next, .error thrown) ∧
      next.history = link.history) ∨
    ∃ session, link.pendingOffset = 0 ∧ link.session.start generation = .ok session ∧
      link.startSession generation = (link.restarted session generation, .ok ()) := by
  unfold startSession
  split
  · exact .inl ⟨_, _, rfl, rfl⟩
  · rename_i whole
    split
    · exact .inl ⟨_, _, rfl, rfl⟩
    · exact .inr ⟨_, not_not.mp whole, ‹_›, rfl⟩

end MavlinkLink

/-- What one action does to the flight. -/
inductive FlightStep {R : Type} [Scalar R] [Mavlink R] (flight : Flight R) : Flight R → Prop
  /-- The session stays as it is. -/
  | serve (stage : FlightStage) (backoff : Nat) (link : MavlinkLink R)
      (served : flight.link.Served link) (from_ : flight.stage ≠ .starting ∧ flight.stage ≠ .failed)
      (outside : stage ≠ .starting) (known : stage = .reserving → flight.generation ≠ 0) :
      FlightStep flight { flight with stage, backoff, link }
  | first (looping : flight.stage = .looping) (unknown : flight.generation = 0) :
      FlightStep flight { flight with stage := .starting }
  | refused (store : SessionStore) : FlightStep flight { flight with store, stage := .failed }
  | reserved (fates : ReserveFates) (store : SessionStore) (byte : UInt8)
      (reserving : flight.stage = .reserving)
      (returned : flight.store.reserveReset fates = (store, .ok byte)) :
      FlightStep flight { flight with store, reserved := byte, stage := .starting }
  | unstarted (generation : UInt64)
      (same : (flight.link.startSession ⟨generation⟩).1.history = flight.link.history) :
      FlightStep flight
        { flight with
          generation
          link := (flight.link.startSession ⟨generation⟩).1
          stage := .failed }
  | started (session : FlightSession) (starting : flight.stage = .starting)
      (whole : flight.link.pendingOffset = 0)
      (allowed : flight.link.session.start ⟨flight.generation + 1⟩ = .ok session) :
      FlightStep flight
        { flight with
          generation := flight.generation + 1
          link := flight.link.restarted session ⟨flight.generation + 1⟩
          stage := .waiting
          sessions := (⟨flight.generation + 1⟩, flight.reserved) :: flight.sessions }

namespace Flight
variable {R : Type} [Scalar R] [Mavlink R] {flight next : Flight R}

/-- The start of an iteration is one of the listed steps. -/
theorem start_spec (starting : flight.stage = .starting) : FlightStep flight flight.start := by
  have unstarted := @FlightStep.unstarted R _ _ flight (flight.generation + 1)
  unfold start
  dsimp only
  rcases flight.link.startSession_cases ⟨flight.generation + 1⟩ with
    ⟨link, thrown, same, history⟩ | ⟨session, whole, allowed, same⟩
  · rw [same] at unstarted ⊢
    exact unstarted history
  · rw [same]
    exact .started session starting whole allowed

/-- A reservation, with or without a byte, is one of the listed steps. -/
theorem reserve_spec (fates : ReserveFates) (reserving : flight.stage = .reserving) :
    FlightStep flight (flight.reserve fates) := by
  unfold reserve
  split
  · exact .refused _
  · rename_i store byte returned
    exact .reserved fates store byte reserving returned

/-- An exception of a call that left the link served is one of the listed steps. -/
theorem throws_spec {link : MavlinkLink R} (served : flight.link.Served link)
    (thrown : ({ flight with link } : Flight R).throws = some next) : FlightStep flight next := by
  obtain ⟨stage, leads, rfl⟩ := Option.map_eq_some_iff.mp thrown
  have from_ : flight.stage ≠ .starting ∧ flight.stage ≠ .failed := by
    constructor <;> intro same <;> rw [same] at leads <;> cases leads
  have outside : stage ≠ .starting ∧ stage ≠ .reserving := by
    change flight.stage.onThrow = some stage at leads
    constructor <;> rintro rfl <;> cases same : flight.stage <;> rw [same] at leads <;> cases leads
  exact .serve stage flight.backoff link served from_ outside.1 fun same => absurd same outside.2

/-- A pump calls the link once or not at all. -/
theorem pump_served (link : MavlinkLink R) (input : Pump) : link.Served (pump link input).1 := by
  refine .inr ⟨.poll input.now input.transport, (fun _ other => by cases other), ?_⟩
  unfold pump MavlinkLink.apply
  dsimp only
  split
  · rename_i same
    rw [same]
  · rename_i same
    rw [same]
    split <;> rfl

/-- The loop goes on after a pump, or it stops. -/
theorem pumped_spec {link : MavlinkLink R} (served : flight.link.Served link) (input : Pump)
    (running : Bool) (pumps : flight.stage.pumps = true) :
    FlightStep flight (({ flight with link } : Flight R).pumped input running) := by
  have from_ : flight.stage ≠ .starting ∧ flight.stage ≠ .failed := by
    constructor <;> intro same <;> rw [same] at pumps <;> cases pumps
  have serve (stage : FlightStage) (backoff : Nat) (outside : stage ≠ .starting ∧ stage ≠ .reserving) :
      FlightStep flight { flight with stage, backoff, link } :=
    .serve stage backoff link served from_ outside.1 fun same => absurd same outside.2
  unfold pumped
  dsimp only
  split
  · exact serve _ flight.backoff (by split <;> simp)
  · exact serve _ flight.backoff (by split <;> simp)
  · exact serve _ flight.backoff (by split <;> simp)
  · exact serve _ flight.backoff (by split <;> simp)
  · split
    · refine serve flight.stage flight.backoff ⟨from_.1, ?_⟩
      intro same
      rw [same] at pumps
      cases pumps
    · exact serve _ _ (by simp)

/-- Every action of the loop is one of the listed steps. -/
theorem step_spec {action : FlightAction R} (moved : flight.step action = some next) :
    FlightStep flight next := by
  have still : flight.link.Served flight.link := .inl rfl
  cases action with
  | stopping answer =>
      simp only [step] at moved
      split at moved
      · rename_i looping
        have from_ : flight.stage ≠ .starting ∧ flight.stage ≠ .failed := by simp [looping]
        obtain rfl := Option.some.inj moved
        by_cases unknown : flight.generation = 0
        · cases answer with
          | true => exact .serve .finished flight.backoff flight.link still from_ (by simp) (by simp)
          | false =>
              rw [if_neg (by simp), if_neg (not_not.mpr unknown)]
              exact .first looping unknown
        · refine .serve _ flight.backoff flight.link still from_ ?_ fun _ => unknown
          cases answer <;> simp [unknown]
      · rename_i checking
        obtain rfl := Option.some.inj moved
        refine .serve _ flight.backoff flight.link still (by simp [checking]) ?_ ?_ <;>
          cases answer <;> simp
      · rename_i judging
        obtain rfl := Option.some.inj moved
        exact .serve _ flight.backoff flight.link still (by simp [judging]) (by simp) (by simp)
      · rename_i caught
        obtain rfl := Option.some.inj moved
        refine .serve _ flight.backoff flight.link still (by simp [caught]) ?_ ?_ <;>
          cases answer <;> simp <;> split <;> simp
      · cases moved
  | reserve fates =>
      simp only [step] at moved
      split at moved
      · obtain rfl := Option.some.inj moved
        exact reserve_spec fates ‹_›
      · cases moved
  | start =>
      simp only [step] at moved
      split at moved
      · obtain rfl := Option.some.inj moved
        exact start_spec ‹_›
      · cases moved
  | pump input =>
      simp only [step] at moved
      split at moved
      · cases moved
      rename_i pumps
      rw [Bool.not_eq_false] at pumps
      have served := pump_served flight.link input
      split at moved
      · rename_i elapsed
        obtain rfl := Option.some.inj moved
        refine .serve .looping _ flight.link still ?_ (by simp) (by simp)
        constructor <;> intro same <;> rw [same] at pumps <;> cases pumps
      · split at moved
        · rename_i same
          rw [same] at served
          exact throws_spec served moved
        · rename_i same
          rw [same] at served
          obtain rfl := Option.some.inj moved
          exact pumped_spec served input _ pumps
  | publish estimate now later =>
      have served : flight.link.Served (flight.link.publish estimate now).1 :=
        .inr ⟨.publish estimate now, (fun _ other => by cases other), rfl⟩
      simp only [step] at moved
      split at moved
      · rename_i started loading
        split at moved
        · rename_i same
          rw [same] at served
          exact throws_spec served moved
        · rename_i same
          rw [same] at served
          obtain rfl := Option.some.inj moved
          refine .serve _ flight.backoff _ served (by simp [loading]) ?_ ?_ <;> split <;> simp
      · cases moved
  | clock now =>
      simp only [step] at moved
      split at moved
      · rename_i acquiring
        obtain rfl := Option.some.inj moved
        exact .serve _ flight.backoff flight.link still (by simp [acquiring]) (by simp) (by simp)
      · rename_i started loading
        obtain rfl := Option.some.inj moved
        refine .serve _ flight.backoff flight.link still (by simp [loading]) ?_ ?_ <;> split <;> simp
      · rename_i resting
        obtain rfl := Option.some.inj moved
        exact .serve _ flight.backoff flight.link still (by simp [resting]) (by simp) (by simp)
      · cases moved
  | endSession stopThrows =>
      simp only [step] at moved
      split at moved
      · rename_i failed ending
        obtain rfl := Option.some.inj moved
        exact .serve _ flight.backoff _ (.inr ⟨.endSession, (fun _ other => by cases other), rfl⟩)
          (by simp [ending]) (by simp) (by simp)
      · cases moved
  | poll now transport =>
      have served : flight.link.Served (flight.link.poll now transport).1 :=
        .inr ⟨.poll now transport, (fun _ other => by cases other), rfl⟩
      simp only [step] at moved
      split at moved
      · rename_i failed unwinding
        split at moved
        · rename_i same
          rw [same] at served
          exact throws_spec served moved
        · rename_i same
          rw [same] at served
          obtain rfl := Option.some.inj moved
          exact .serve flight.stage flight.backoff _ served (by simp [unwinding])
            (by simp [unwinding]) (by simp [unwinding])
      · cases moved
  | joined error =>
      simp only [step] at moved
      split at moved
      · rename_i failed unwinding
        obtain rfl := Option.some.inj moved
        refine .serve _ flight.backoff flight.link still (by simp [unwinding]) ?_ ?_ <;>
          split <;> simp
      · cases moved
  | proceed =>
      simp only [step] at moved
      split at moved
      · rename_i preparing
        obtain rfl := Option.some.inj moved
        exact .serve _ flight.backoff flight.link still (by simp [preparing]) (by simp) (by simp)
      · rename_i saving
        obtain rfl := Option.some.inj moved
        exact .serve _ 5 flight.link still (by simp [saving]) (by simp) (by simp)
      · cases moved
  | throws => exact throws_spec still moved

end Flight
end Vio
