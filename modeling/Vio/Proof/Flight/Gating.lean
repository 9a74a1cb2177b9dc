import Vio.Construction.MavlinkCodec
import Vio.Proof.Flight.GateStages

namespace Vio
open Mavlink History

/-- Every action of the loop leaves the set-up of the acquisition. -/
theorem Flight.acquiring_left {R : Type} [Mavlink R] [Scalar R] {flight next : Flight R}
    {action : FlightAction R} (acquiring : flight.stage = .acquiring)
    (moved : flight.step action = some next) : next.stage ≠ .acquiring := by
  cases action with
  | clock now =>
      rw [step, acquiring] at moved
      obtain rfl := Option.some.inj moved
      simp
  | throws =>
      rw [step, throws, acquiring] at moved
      obtain rfl := Option.some.inj moved
      simp
  | stopping | reserve | start | pump | publish | endSession | poll | joined | proceed =>
      simp [step, acquiring, FlightStage.pumps] at moved

namespace FlightApplication
variable {R : Type} [Mavlink R] [Scalar R] {config : MavlinkLinkConfig}
  {application next : FlightApplication R}

/-- The loop passed every gate so far, and the options of the worker carry its generation. -/
structure Gates (config : MavlinkLinkConfig) (application : FlightApplication R) : Prop where
  flight : application.flight.Gates config application.events
  generation : ∀ options,
    application.setup = .described options ∨ application.setup = .streaming options →
      application.flight.stage = .acquiring ∧
        options.generation = ⟨application.flight.generation⟩

/-- A move of the loop keeps the gates and the options of the worker. -/
theorem Gates.fly (packs : PacksFit R) (gates : application.Gates config) {action : FlightAction R}
    (flown : application.fly action = some next) : next.Gates config := by
  obtain ⟨flight, moved, rfl⟩ := Option.map_eq_some_iff.mp flown
  refine ⟨gates.flight.step packs moved, fun options known => ?_⟩
  dsimp only at known
  split at known
  · rename_i same
    have acquiring := (gates.generation options known).1
    exact absurd (same.trans acquiring) (Flight.acquiring_left acquiring moved)
  · simp at known

omit [Scalar R] in
/-- An event of the set-up. -/
theorem Gates.event (gates : application.Gates config) {event : FlightEvent R}
    (acquiring : application.flight.stage = .acquiring) (setsUp : event.setsUp = true)
    (gated : Gated config.session event application.events) :
    application.flight.Gates config (event :: application.events) := by
  obtain ⟨sound, ledger, starts, always, holds⟩ := gates.flight
  simp only [Flight.Holds, acquiring] at holds
  obtain ⟨⟨begun, withdrawn, uncaught, quiescent⟩, checked⟩ := holds
  have outside : event.enters = false ∧ event ≠ .caught ∧ event ≠ .published ∧
      event.generation = none := by
    cases event <;> simp_all [FlightEvent.setsUp, FlightEvent.enters, FlightEvent.generation]
  refine ⟨sound, ledger, ?_, always.cons gated, ?_⟩
  · rwa [List.filterMap_cons_none outside.2.2.2]
  · simp only [Flight.Holds, acquiring]
    refine ⟨⟨begun.cons outside.1, withdrawn.cons outside.2.2.1, fun failed => ?_, quiescent⟩,
      checked.cons setsUp⟩
    rcases caught_cons.mp failed with same | ⟨_, failed⟩
    · exact outside.2.1 same
    · exact uncaught failed

omit [Scalar R] in
/-- The session of the link is the one that the iteration started. -/
theorem Gates.running (gates : application.Gates config)
    (acquiring : application.flight.stage = .acquiring) :
    application.flight.link.session.generation = some ⟨application.flight.generation⟩ := by
  obtain ⟨sound, ledger, starts, always, holds⟩ := gates.flight
  simp only [Flight.Holds, acquiring] at holds
  obtain ⟨recent, event, past, split, ⟨rfl, _⟩, _⟩ := holds.1.begun
  cases sessions : application.flight.sessions with
  | nil =>
      rw [sessions, split, List.filterMap_append] at starts
      simp [FlightEvent.generation] at starts
  | cons session earlier =>
      have live := sound.live (by simp [acquiring])
      obtain ⟨value, _, running, _⟩ := live.current session.1 session.2 earlier sessions
      rw [running, value]

/-- Every action of the application keeps the gates. -/
theorem Gates.step (packs : PacksFit R) (gates : application.Gates config)
    {action : FlightApplicationAction R} (moved : application.step action = some next) :
    next.Gates config := by
  have kept := gates.flight
  cases action with
  | flight action =>
      by_cases thrown : action = .throws
      · subst thrown
        exact gates.fly packs moved
      · simp only [FlightApplication.step] at moved
        split at moved
        · exact gates.fly packs moved
        · cases moved
  | makeEstimator =>
      simp only [FlightApplication.step] at moved
      split at moved
      · obtain rfl := Option.some.inj moved
        exact ⟨kept, gates.generation⟩
      · cases moved
  | cameraFromImu matrix =>
      simp only [FlightApplication.step] at moved
      split at moved
      · split at moved
        · exact gates.fly packs moved
        · obtain rfl := Option.some.inj moved
          exact ⟨kept, fun options known => by simp at known⟩
      · cases moved
  | makeCamera =>
      simp only [FlightApplication.step] at moved
      split at moved
      · obtain rfl := Option.some.inj moved
        exact ⟨kept, fun options known => by simp at known⟩
      · cases moved
  | prepareRecording recording =>
      simp only [FlightApplication.step] at moved
      split at moved
      · obtain rfl := Option.some.inj moved
        exact ⟨kept, fun options known => by simp at known⟩
      · cases moved
  | imuDevices devices =>
      simp only [FlightApplication.step] at moved
      split at moved
      · rename_i recording acquiring recorded
        have holds := kept.holds
        simp only [Flight.Holds, acquiring] at holds
        have passed : ({ application with events := .imuDevices :: application.events } :
            FlightApplication R).Gates config :=
          ⟨gates.event acquiring rfl ⟨⟨_, holds.1.begun⟩, holds.2⟩, gates.generation⟩
        split at moved
        · exact passed.fly packs moved
        · obtain rfl := Option.some.inj moved
          exact ⟨passed.flight, fun options known => by simp at known⟩
      · cases moved
  | saveMetadata =>
      simp only [FlightApplication.step] at moved
      split at moved
      · rename_i acquiring sensing
        obtain rfl := Option.some.inj moved
        refine ⟨kept, fun options known => ⟨acquiring, ?_⟩⟩
        rcases known with known | known <;> cases known
        rfl
      · cases moved
  | startCamera =>
      simp only [FlightApplication.step] at moved
      split at moved
      · rename_i options acquiring described
        obtain rfl := Option.some.inj moved
        refine ⟨kept, fun streamed known => ⟨acquiring, ?_⟩⟩
        rcases known with known | known <;> cases known
        exact (gates.generation options (.inl described)).2
      · cases moved
  | worker =>
      simp only [FlightApplication.step] at moved
      split at moved
      · rename_i options acquiring streaming
        obtain rfl := Option.some.inj moved
        have holds := kept.holds
        simp only [Flight.Holds, acquiring] at holds
        have same := (gates.generation options (.inr streaming)).2
        refine ⟨gates.event acquiring rfl ⟨?_, holds.2, ?_⟩, fun options known => by simp at known⟩
        · rw [same]
          exact holds.1.begun
        · rw [same]
          exact gates.running acquiring
      · cases moved

theorem Gates.run (packs : PacksFit R) {actions : List (FlightApplicationAction R)}
    (gates : application.Gates config) (ran : application.run actions = some next) :
    next.Gates config := by
  refine PartialRun.invariant (·.Gates config) ?_ ran gates
  intro before action after moved gates
  exact gates.step packs moved

/-- The loop begins before its first iteration. -/
theorem launch_gates {store : SessionStore} {owner : OwnerFates} {fates : ReserveFates}
    {stream : Bool} {config : FlightConfig R} {calibration : Matrix3 R}
    (launched : launch store owner fates stream config calibration = some application) :
    application.Gates config.link := by
  unfold launch at launched
  split at launched
  · cases launched
  obtain ⟨flight, begun, rfl⟩ := Option.map_eq_some_iff.mp launched
  obtain ⟨sound, byte, created⟩ := Flight.launch_sound begun
  have fresh := MavlinkLink.create_fresh created
  refine ⟨⟨sound, fresh.ledger, ?_, always_nil, ?_⟩, fun options known => by simp at known⟩
  · rw [← sound.starts, fresh.history]
    rfl
  · have looping : flight.stage = .looping := by
      unfold Flight.launch at begun
      split at begun
      · cases begun
      split at begun
      · cases begun
      split at begun
      · cases begun
      · obtain rfl := Option.some.inj begun
        rfl
    simp only [Flight.Holds, looping]
    exact fun failed => absurd failed caught_nil

/-- In every run of the flight loop, with any traffic, stop requests and failures: the devices are
constructed and the worker starts only after a new session started and right after a check of a fresh
disarmed controller, the estimator gets the generation of the link's session, no exit of
`run_capture` leaves a publication without an end of the session behind it, and no iteration begins
from a failed capture while the link failed or waits for an alignment. -/
theorem flight_gated (packs : PacksFit R) {store : SessionStore} {owner : OwnerFates}
    {fates : ReserveFates} {stream : Bool} {config : FlightConfig R} {calibration : Matrix3 R}
    {first application : FlightApplication R} {actions : List (FlightApplicationAction R)}
    (launched : launch store owner fates stream config calibration = some first)
    (ran : first.run actions = some application) :
    Always (Gated config.link.session) application.events :=
  ((launch_gates launched).run packs ran).flight.gated

end FlightApplication

namespace SampleApplication
open SampleFlight SampleCaptures

def calibration : Matrix3 Exact := ⟨⟨1.0, 0.0, 0.0⟩, ⟨0.0, 1.0, 0.0⟩, ⟨0.0, 0.0, 1.0⟩⟩

def config : FlightConfig Exact :=
  { link := {}, mounting := ⟨0.0, false⟩, fps := 20.0, imuLpf := 50.0 }

def device : ImuDevice Exact :=
  { kind := .accel, sysfs := "iio:device0", chardev := "/dev/iio:device0", scale := 1.0,
    rateHz := 416.0 }

/-- The first capture fails at the camera, and the second one runs until the stop request. -/
def actions : List (FlightApplicationAction Exact) :=
  [.flight (.stopping false), .flight .start, .flight (SampleCaptures.pump 1 (heartbeat false 0)),
    .flight (.stopping false), .cameraFromImu calibration, .flight .throws,
    .flight (.stopping false), .flight (.clock 2), .flight (SampleCaptures.pump 5000000002 []),
    .flight (.stopping false), .flight (.reserve {}), .flight .start,
    .flight (SampleCaptures.pump 5000000003 (heartbeat false 1)), .flight (.stopping false),
    .makeEstimator, .cameraFromImu calibration, .makeCamera, .flight .proceed,
    .flight (SampleCaptures.pump 5000000004 []), .prepareRecording ⟨"run-native-5000000004", true⟩,
    .imuDevices (some (device, [])), .saveMetadata, .startCamera, .worker,
    .flight (.clock 5000000005), .flight (SampleCaptures.pump 5000000006 []),
    .flight (.publish { estimate 5000000006 with generation := ⟨2⟩ } 5000000007 5000000008),
    .flight (.pump
      { now := 5000000009, transport := ⟨.ok [], .ok 300⟩, stopping := true, clock := 5000000009 }),
    .flight (.stopping true), .flight (.endSession false),
    .flight (.poll 5000000010 ⟨.ok [], .ok 300⟩), .flight (.joined false), .flight .proceed]

def launched : Option (FlightApplication Exact) :=
  FlightApplication.launch store {} {} true config calibration

/-- The generation that an estimator worker got. -/
def given : FlightEvent Exact → Option SessionGeneration
  | .worker options _ => some options.generation
  | _ => none

theorem ran : (launched.bind fun first => first.run actions).map
    (fun application => application.events.filterMap given) = some [⟨2⟩] := by
  decide +kernel

end SampleApplication

open SampleApplication in
/-- The one worker of the sample run started in the second session. -/
theorem FlightApplication.flight_gated_captures : ∃ (application : FlightApplication Exact)
    (recent : List (FlightEvent Exact)) (options : RunnerOptions Exact) (past : List (FlightEvent Exact)),
    application.events = recent ++ .worker options (some ⟨2⟩) :: past ∧
      options.generation = ⟨2⟩ ∧ Begun ⟨2⟩ past ∧ Checked {} past := by
  obtain ⟨application, reached, workers⟩ := Option.map_eq_some_iff.mp SampleApplication.ran
  obtain ⟨first, begun, reached⟩ := Option.bind_eq_some_iff.mp reached
  have member : ⟨2⟩ ∈ application.events.filterMap given := by
    rw [workers]
    exact List.mem_cons_self
  obtain ⟨event, found, generation⟩ := List.mem_filterMap.mp member
  cases event with
  | worker options session =>
      obtain ⟨recent, past, split⟩ := List.append_of_mem found
      have same : options.generation = ⟨2⟩ := Option.some.inj generation
      obtain ⟨started, checked, running⟩ :=
        FlightApplication.flight_gated MavlinkCodec.packsFit begun reached recent _ past split
      rw [same] at started running
      rw [running] at split
      exact ⟨application, recent, options, past, split, same, started, checked⟩
  | _ => cases generation

end Vio
