/-
This file holds the publication policy for one estimator generation.
-/

import Vio.Construction.Estimate

namespace Vio

inductive FlightSessionState where
  | waitingForController
  | priming
  | awaitingAlignment
  | aligned
  | failed
  deriving DecidableEq, Repr

inductive AlignmentResult where
  | accepted
  | inProgress
  | retry
  | rejected
  deriving DecidableEq, Repr

structure FlightSessionConfig where
  heartbeatTimeout : Int := 3000000000
  alignmentTimeout : Int := 2000000000
  progressTimeout : Int := 10000000000
  maxEstimateAge : Int := 500000000
  alignmentAttempts : Nat := 3
  deriving DecidableEq, Repr

/-- The constructor of the session accepts these limits. -/
def FlightSessionConfig.Accepted (config : FlightSessionConfig) : Prop :=
  ¬ (config.heartbeatTimeout ≤ 0 ∨ config.alignmentTimeout ≤ 0 ∨ config.progressTimeout ≤ 0 ∨
    config.maxEstimateAge ≤ 0 ∨ config.alignmentAttempts = 0 ∨ config.alignmentAttempts > 256)

instance (config : FlightSessionConfig) : Decidable config.Accepted :=
  inferInstanceAs (Decidable (¬ _))

/-- The policy state. The limits of a session have passed the constructor's check. -/
structure FlightSession where
  config : FlightSessionConfig
  accepted : config.Accepted
  state : FlightSessionState := .waitingForController
  generation : Option SessionGeneration := none
  heartbeatTime : Option Int := none
  measurementTime : Option Int := none
  requestTime : Int := 0
  nextRequestTime : Int := 0
  armed : Bool := true
  inProgress : Bool := false
  attempts : Nat := 0
  resetCounter : UInt8
  deriving DecidableEq, Repr

namespace FlightSession

def create (config : FlightSessionConfig) (initialResetCounter : UInt8) :
    Except Thrown FlightSession :=
  if accepted : config.Accepted then
    .ok { config, accepted, resetCounter := initialResetCounter }
  else .error (.invalidArgument "session requires positive timeouts and 1..256 attempts")

/-- A rejected start leaves the session as it was. -/
def start (session : FlightSession) (generation : SessionGeneration) :
    Except Thrown FlightSession :=
  if session.state = .failed ∨ (session.attempts ≠ 0 ∧ session.state ≠ .aligned) then
    .error (.logicError "recreate the link after an unresolved alignment or failure")
  else if session.generation.any fun last => generation.value ≤ last.value then
    .error (.invalidArgument "estimator generations must increase")
  else
    .ok
      { session with
        -- The byte wraps; the generation does not.
        resetCounter :=
          if session.generation.isSome then session.resetCounter + 1 else session.resetCounter
        generation := some generation
        measurementTime := none
        attempts := 0
        inProgress := false
        nextRequestTime := 0
        state := .waitingForController }

def controllerFresh (session : FlightSession) (now : Int) : Bool :=
  match session.heartbeatTime with
  | none => false
  | some last => now ≥ last && now - last < session.config.heartbeatTimeout

def fail (session : FlightSession) : FlightSession :=
  { session with state := .failed, measurementTime := none }

/-- The time an outstanding request may stay unanswered. -/
def replyTimeout (session : FlightSession) : Int :=
  if session.inProgress then session.config.progressTimeout else session.config.alignmentTimeout

def tick (session : FlightSession) (now : Int) : FlightSession :=
  if session.generation = none ∨ session.state = .failed then session
  else if session.controllerFresh now = false then
    -- A controller that timed out may have restarted, so no alignment survives.
    if session.state = .awaitingAlignment then session.fail
    else
      { session with
        attempts := if session.state = .aligned then 0 else session.attempts
        state := .waitingForController
        measurementTime := none }
  else if session.state = .waitingForController then { session with state := .priming }
  else if session.state = .awaitingAlignment ∧ now - session.requestTime ≥ session.replyTimeout then
    if session.inProgress ∨ session.attempts ≥ session.config.alignmentAttempts then session.fail
    else { session with state := .priming, nextRequestTime := now }
  else session

/-- The part of `heartbeat` between its two ticks. -/
def observe (session : FlightSession) (armed : Bool) (now : Int) : FlightSession :=
  let session := { session with heartbeatTime := some now, armed }
  if session.state = .awaitingAlignment ∧ armed then session.fail else session

def heartbeat (session : FlightSession) (armed : Bool) (now : Int) : FlightSession :=
  ((session.tick now).observe armed now).tick now

def canPublish (session : FlightSession) (now : Int) : Bool :=
  session.generation.isSome && session.controllerFresh now && session.state ≠ .failed &&
    (session.state = .aligned || !session.armed)

def controllerDisarmed (session : FlightSession) (now : Int) : Bool :=
  session.controllerFresh now && !session.armed

/-- The last complete measurement is recent enough to prime the controller. -/
def measurementFresh (session : FlightSession) (now : Int) : Bool :=
  match session.measurementTime with
  | none => false
  | some last => now ≥ last && now - last ≤ session.config.maxEstimateAge

def alignmentDue (session : FlightSession) (now : Int) : Bool :=
  session.state = .priming && session.canPublish now && !session.armed &&
    session.attempts < session.config.alignmentAttempts && now ≥ session.nextRequestTime &&
    session.measurementFresh now

def measurementSent (session : FlightSession) (timestamp : Int) : FlightSession :=
  { session with measurementTime := some timestamp }

def alignmentSent (session : FlightSession) (now : Int) : Except Thrown FlightSession :=
  if session.alignmentDue now then
    .ok
      { session with
        attempts := session.attempts + 1
        requestTime := now
        inProgress := false
        state := .awaitingAlignment }
  else .error (.logicError "alignment sent without a fresh disarmed measurement")

/-- The part of `acknowledge` after its tick. -/
def reply (session : FlightSession) (result : AlignmentResult) (now : Int) : FlightSession :=
  if session.state ≠ .awaitingAlignment ∨ session.controllerFresh now = false ∨ session.armed then
    session
  else
    match result with
    | .accepted => { session with state := .aligned }
    -- A repeated progress report does not move the deadline.
    | .inProgress => { session with inProgress := true }
    | .retry =>
        if session.attempts ≥ session.config.alignmentAttempts then session.fail
        else
          { session with
            state := .priming
            nextRequestTime := now + session.config.alignmentTimeout }
    | .rejected => session.fail

def acknowledge (session : FlightSession) (result : AlignmentResult) (now : Int) : FlightSession :=
  (session.tick now).reply result now

end FlightSession

inductive SessionCall where
  | start (generation : SessionGeneration)
  | heartbeat (armed : Bool) (now : Int)
  | tick (now : Int)
  | acknowledge (result : AlignmentResult) (now : Int)
  | fail
  | measurementSent (timestamp : Int)
  | alignmentSent (now : Int)
  deriving DecidableEq, Repr

namespace FlightSession

/-- The session after one call; a call that throws leaves it as it was. -/
def apply (session : FlightSession) : SessionCall → FlightSession
  | .start generation => (session.start generation).toOption.getD session
  | .heartbeat armed now => session.heartbeat armed now
  | .tick now => session.tick now
  | .acknowledge result now => session.acknowledge result now
  | .fail => session.fail
  | .measurementSent timestamp => session.measurementSent timestamp
  | .alignmentSent now => (session.alignmentSent now).toOption.getD session

def run (session : FlightSession) (calls : List SessionCall) : FlightSession :=
  calls.foldl apply session

end FlightSession

end Vio
