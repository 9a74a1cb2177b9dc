/-
This file holds the loop that runs captures while it services the flight controller.
An action is one outside interaction of the communication thread, with what came back. The fields
`reserved` and `sessions` are not in the source: they record the newest reserved byte and, newest
first, the started sessions with the byte that was the newest then. No modelled function reads them.
-/

import Vio.Construction.MavlinkLink
import Vio.Construction.SessionStore

namespace Vio
open Mavlink

/-- Where `run_flight` stands, and `run_capture` inside it. -/
inductive FlightStage where
  | looping
  | reserving
  | starting
  /-- The wait for a fresh disarmed controller. -/
  | waiting
  | checking
  /-- The `try` block, up to the exposure. -/
  | preparing
  | confirming
  /-- `run_capture`, up to its loop. -/
  | acquiring
  | capturing (started : Int)
  | loading (started : Int)
  | judging
  | ending (failed : Bool)
  /-- The wait for the worker after `end_session`. -/
  | unwinding (failed : Bool)
  | saving
  | caught
  | resting
  | retrying (retryAt : Int)
  | finished
  /-- An exception or a crash ended `run_flight`. -/
  | failed
  deriving DecidableEq, Repr

def FlightStage.onThrow : FlightStage → Option FlightStage
  | .preparing | .confirming | .acquiring | .unwinding _ | .saving => some .caught
  | .capturing _ | .loading _ | .judging => some (.ending true)
  | .looping | .waiting | .checking | .caught | .resting | .retrying _ => some .failed
  | .reserving | .starting | .ending _ | .finished | .failed => none

/-- The conditions that call `pump`. -/
def FlightStage.pumps : FlightStage → Bool
  | .waiting | .preparing | .confirming | .capturing _ | .retrying _ => true
  | _ => false

/-- The condition fails before its call of `pump`. -/
def FlightStage.elapsed (clock : Int) : FlightStage → Bool
  | .retrying retryAt => retryAt ≤ clock
  | _ => false

/-- A call of `pump` and the other readings of the condition that it stands in. -/
structure Pump where
  now : Int
  transport : Transport
  stopping : Bool
  clock : Int
  workerDone : Bool := false

inductive FlightAction (R : Type) where
  | stopping (answer : Bool)
  | reserve (fates : ReserveFates)
  | start
  | pump (input : Pump)
  /-- A newest estimate, and the clock before and after its publication. -/
  | publish (estimate : EstimatorEstimate R) (now later : Int)
  | clock (now : Int)
  | endSession (stopThrows : Bool)
  | poll (now : Int) (transport : Transport)
  | joined (error : Bool)
  | proceed
  | throws

structure Flight (R : Type) [Mavlink R] where
  stage : FlightStage := .looping
  store : SessionStore
  link : MavlinkLink R
  generation : UInt64 := 0
  backoff : Nat := 5
  reserved : UInt8
  sessions : List (SessionGeneration × UInt8) := []

namespace Flight
variable {R : Type} [Mavlink R]

/-- The part of `run_flight` before its loop: the store, the first byte and the link. -/
def launch (store : SessionStore) (owner : OwnerFates) (fates : ReserveFates) (stream : Bool)
    (config : MavlinkLinkConfig) (transform : FrameTransform R) : Option (Flight R) :=
  match store.create owner with
  | (_, .error _) => none
  | (store, .ok ()) =>
      match store.reserveReset fates with
      | (_, .error _) => none
      | (store, .ok byte) =>
          match MavlinkLink.create stream config transform byte with
          | .error _ => none
          | .ok link => some { store, link, reserved := byte }

def throws (flight : Flight R) : Option (Flight R) :=
  flight.stage.onThrow.map fun stage => { flight with stage }

def again (flight : Flight R) : Flight R :=
  { flight with backoff := min 60 (2 * flight.backoff), stage := .looping }

/-- `store.reserve_reset()`, where a session ran before. -/
def reserve (flight : Flight R) (fates : ReserveFates) : Flight R :=
  match flight.store.reserveReset fates with
  | (store, .error _) => { flight with store, stage := .failed }
  | (store, .ok byte) => { flight with store, reserved := byte, stage := .starting }

/-- `link.start_session({++generation})`, where the generation wraps at 64 bits. -/
def start (flight : Flight R) : Flight R :=
  let generation := flight.generation + 1
  match flight.link.startSession ⟨generation⟩ with
  | (link, .error _) => { flight with generation, link, stage := .failed }
  | (link, .ok ()) =>
      { flight with
        generation
        link
        stage := .waiting
        sessions := (⟨generation⟩, flight.reserved) :: flight.sessions }

variable [Scalar R]

/-- A poll, the check of the session and the question whether to stop. -/
def pump (link : MavlinkLink R) (input : Pump) : Call R Bool :=
  match link.poll input.now input.transport with
  | (link, .error thrown) => (link, .error thrown)
  | (link, .ok ()) =>
      if link.session.state = .failed then (link, .error (.runtimeError link.failureReason))
      else (link, .ok (!input.stopping))

/-- What follows a `pump` that returned, by stage. -/
def pumped (flight : Flight R) (input : Pump) (running : Bool) : Flight R :=
  let disarmed := flight.link.session.controllerDisarmed input.clock
  match flight.stage with
  | .waiting => { flight with stage := if running && !disarmed then .waiting else .checking }
  -- The exposure probe throws where it is told to stop.
  | .preparing => { flight with stage := if running && disarmed then .preparing else .caught }
  | .confirming => { flight with stage := if running && disarmed then .acquiring else .looping }
  | .capturing started =>
      { flight with stage := if running && !input.workerDone then .loading started else .judging }
  | _ => if running then flight else flight.again

def step (flight : Flight R) : FlightAction R → Option (Flight R)
  | .stopping answer =>
      match flight.stage with
      | .looping =>
          some
            { flight with
              stage :=
                if answer then .finished
                else if flight.generation ≠ 0 then .reserving
                else .starting }
      | .checking => some { flight with stage := if answer then .finished else .preparing }
      | .judging => some { flight with stage := .ending !answer }
      | .caught =>
          some
            { flight with
              stage :=
                if answer then .finished
                else if flight.link.session.state = .failed ∨
                    flight.link.session.state = .awaitingAlignment then .failed
                else .resting }
      | _ => none
  | .reserve fates => if flight.stage = .reserving then some (flight.reserve fates) else none
  | .start => if flight.stage = .starting then some flight.start else none
  | .pump input =>
      if flight.stage.pumps = false then none
      else if flight.stage.elapsed input.clock then some flight.again
      else
        match pump flight.link input with
        | (link, .error _) => { flight with link }.throws
        | (link, .ok running) => some ({ flight with link }.pumped input running)
  | .publish estimate now later =>
      match flight.stage with
      | .loading started =>
          match flight.link.publish estimate now with
          | (link, .error _) => { flight with link }.throws
          | (link, .ok _) =>
              some
                { flight with
                  link
                  stage :=
                    if later - estimate.timestamp > 3000000000 then .ending true
                    else .capturing started }
      | _ => none
  | .clock now =>
      match flight.stage with
      | .acquiring => some { flight with stage := .capturing now }
      -- No estimate is there yet.
      | .loading started =>
          some
            { flight with
              stage := if now - started > 60000000000 then .ending true else .capturing started }
      | .resting => some { flight with stage := .retrying (now + flight.backoff * 1000000000) }
      | _ => none
  | .endSession stopThrows =>
      match flight.stage with
      | .ending failed =>
          some { flight with link := flight.link.endSession, stage := .unwinding (failed || stopThrows) }
      | _ => none
  | .poll now transport =>
      match flight.stage with
      | .unwinding _ =>
          match flight.link.poll now transport with
          | (link, .error _) => { flight with link }.throws
          | (link, .ok ()) => some { flight with link }
      | _ => none
  | .joined error =>
      match flight.stage with
      | .unwinding failed =>
          some { flight with stage := if failed || error then .caught else .saving }
      | _ => none
  | .proceed =>
      match flight.stage with
      | .preparing => some { flight with stage := .confirming }
      | .saving => some { flight with backoff := 5, stage := .resting }
      | _ => none
  | .throws => flight.throws

def run (flight : Flight R) (actions : List (FlightAction R)) : Option (Flight R) :=
  actions.foldlM step flight

end Flight
end Vio
