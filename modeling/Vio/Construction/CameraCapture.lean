/-
This file holds the frame extraction, the camera clock and the exposure selection. Sizes are natural
numbers: the largest one of the source fits into its type. Gains and means are exact, so that each of
them is finite.
-/

import Mathlib.Algebra.Field.Basic
import Mathlib.Algebra.Order.Floor.Defs
import Vio.Construction.Estimate

namespace Vio
namespace CameraCapture

structure Exposure (K : Type) where
  shutter : Nat
  gain : K
  deriving DecidableEq, Repr

def width : Nat := 1280

def height : Nat := 800

structure CameraFrame (K : Type) where
  pixels : List UInt8
  timestampNs : Int
  sequence : Nat
  exposure : Exposure K
  deriving DecidableEq, Repr

/-- How a copy ends without a frame. -/
inductive CopyFault where
  | thrown (what : Thrown)
  /-- A read at or past the byte count. -/
  | outside (index : Nat)
  deriving DecidableEq, Repr

def byteAt (data : Nat → UInt8) (bytes index : Nat) : Except CopyFault UInt8 :=
  if index < bytes then .ok (data index) else .error (.outside index)

def pixelStep (highByte : Bool) : Nat := if highByte then 2 else 1

/-- The body of the inner loop. -/
def copyPixel (data : Nat → UInt8) (bytes stride : Nat) (highByte : Bool) (y x : Nat) :
    Except CopyFault UInt8 := do
  let row := y * stride
  if highByte then
    if (← byteAt data bytes (row + x * 2)) ≠ 0 then
      throw (.thrown (.runtimeError "camera is not the calibrated R8-in-16 layout"))
  byteAt data bytes (row + (x * pixelStep highByte + pixelStep highByte - 1))

/-- The pixels row by row. A missing buffer is a null pointer. -/
def copyMonoFrame (data : Option (Nat → UInt8)) (bytes stride : Nat) (highByte : Bool) :
    Except CopyFault (List UInt8) :=
  let rowBytes := width * pixelStep highByte
  match data with
  | none => .error (.thrown (.runtimeError "incomplete camera frame or invalid stride"))
  | some data =>
      if stride < rowBytes ∨ bytes < stride * (height - 1) + rowBytes then
        .error (.thrown (.runtimeError "incomplete camera frame or invalid stride"))
      else do
        let rows ← (List.range height).mapM fun y =>
          (List.range width).mapM fun x => copyPixel data bytes stride highByte y x
        return rows.flatten

/-- The camera time on the monotonic clock. -/
def cameraTimestamp (sensor offset now previous : Int) : Except Thrown Int :=
  if offset < 0 ∨ sensor ≤ offset then
    .error (.runtimeError "invalid camera clock offset/timestamp")
  else
    let timestamp := sensor - offset
    if timestamp ≤ previous ∨ timestamp > now + 10000000 ∨ now - timestamp > 2000000000 then
      .error (.runtimeError "camera timestamp is stale, future, or non-increasing")
    else .ok timestamp

/-- One round of the loop of a probe, with what the calls of the round return. -/
structure ProbeRound (K : Type) where
  pump : Except Thrown Bool
  expired : Bool
  read : Except Thrown (Option (CameraFrame K))

/-- What the camera and the clock answer during one probe. -/
structure ProbeAnswers (K : Type) where
  start : Except Thrown Unit := .ok ()
  rounds : List (ProbeRound K)
  stop : Except Thrown Unit := .ok ()
  cleanup : Except Thrown Unit := .ok ()

section Probe
variable {K S : Type} (count : Nat) (consume : S → CameraFrame K → Except Thrown S)

/-- The loop of a probe. It has no result where it needs more rounds. -/
def probeLoop (received : Nat) (state : S) : List (ProbeRound K) → Option (Except Thrown S)
  | [] => if received < count then none else some (.ok state)
  | round :: rest =>
      if received < count then
        match round.pump with
        | .error thrown => some (.error thrown)
        | .ok false => some (.error (.runtimeError "camera probe cancelled"))
        | .ok true =>
            if round.expired then some (.error (.runtimeError "camera probe timed out"))
            else
              match round.read with
              | .error thrown => some (.error thrown)
              | .ok none => probeLoop received state rest
              | .ok (some frame) =>
                  -- The sensor settles before brightness counts.
                  if received + 1 > 10 then
                    match consume state frame with
                    | .error thrown => some (.error thrown)
                    | .ok state => probeLoop (received + 1) state rest
                  else probeLoop (received + 1) state rest
      else some (.ok state)

/-- The handler stops the camera, and an exception of its own replaces the first one. -/
def probeFailed (answers : ProbeAnswers K) (thrown : Thrown) : Except Thrown S :=
  match answers.cleanup with
  | .ok () => .error thrown
  | .error thrown => .error thrown

def probe (state : S) (answers : ProbeAnswers K) : Option (Except Thrown S) :=
  match answers.start with
  | .error thrown => some (probeFailed answers thrown)
  | .ok () =>
      (probeLoop count consume 0 state answers.rounds).map fun
        | .error thrown => probeFailed answers thrown
        | .ok state =>
            match answers.stop with
            | .error thrown => probeFailed answers thrown
            | .ok () => .ok state

end Probe

/-- What the selection reads of the flight configuration. -/
structure ExposureConfig (K : Type) where
  exposureMode : String
  shutter : Nat
  gain : K
  maxShutter : Nat

structure SweepResult (K : Type) where
  shutter : Nat
  clipped : K
  mean : K
  deriving DecidableEq, Repr

structure SweepCounts where
  sum : Nat := 0
  clipped : Nat := 0
  pixels : Nat := 0

def SweepCounts.add {K : Type} (counts : SweepCounts) (frame : CameraFrame K) :
    Except Thrown SweepCounts :=
  if frame.pixels.length ≠ width * height then
    .error (.runtimeError "invalid exposure probe dimensions")
  else
    .ok
      { sum := frame.pixels.foldl (fun sum pixel => sum + pixel.toNat) counts.sum
        clipped := frame.pixels.foldl
          (fun clipped pixel => clipped + if pixel.toNat ≥ 250 then 1 else 0) counts.clipped
        pixels := counts.pixels + frame.pixels.length }

def sweepShutters : List Nat := [20, 30, 50, 75, 100, 200, 500, 1000, 2000, 4000]

section Select
variable {K : Type} [Field K] [LinearOrder K]

namespace SweepResult

/-- A candidate that is neither clipped nor dark. -/
def usable (result : SweepResult K) : Bool :=
  result.clipped ≤ 1 / ((100 : Nat) : K) && result.mean ≥ ((15 : Nat) : K)

/-- The body of the loop over the results: the choice so far, and whether a usable one came. -/
def choose (state : SweepResult K × Bool) (result : SweepResult K) : SweepResult K × Bool :=
  let (chosen, usable) := state
  let candidate := result.usable
  ((if (candidate && (!usable || result.mean > chosen.mean)) ||
      (!candidate && !usable && result.clipped < chosen.clipped) then result else chosen),
    usable || candidate)

/-- The loop over the results, whose first one is the first choice. -/
def best (first : SweepResult K) (rest : List (SweepResult K)) : SweepResult K :=
  ((first :: rest).foldl choose (first, false)).1

end SweepResult

/-- The loop over the candidates, with one probe for each that is tried. -/
def sweep (maxShutter : Nat) :
    List Nat → List (ProbeAnswers K) → Option (Except Thrown (List (SweepResult K)))
  | [], _ => some (.ok [])
  | shutter :: rest, probes =>
      if shutter > maxShutter then sweep maxShutter rest probes
      else
        match probes with
        | [] => none
        | answers :: probes =>
            match probe 40 SweepCounts.add {} answers with
            | none => none
            | some (.error thrown) => some (.error thrown)
            | some (.ok counts) =>
                let result : SweepResult K :=
                  ⟨shutter, (counts.clipped : K) / counts.pixels, (counts.sum : K) / counts.pixels⟩
                (sweep maxShutter rest probes).map (·.map (result :: ·))

/-- The measured exposure of an automatic probe. -/
def measure (answers : ProbeAnswers K) : Option (Except Thrown (Exposure K)) :=
  probe 13 (fun _ frame => .ok frame.exposure) ⟨0, 0⟩ answers

variable [FloorSemiring K]

/-- The exposure of a capture, from the answers to the probes in their order. It has no result where a
probe needs more rounds. -/
def selectExposure (config : ExposureConfig K) (probes : List (ProbeAnswers K)) :
    Option (Except Thrown (Exposure K)) :=
  if config.exposureMode = "fixed" then some (.ok ⟨config.shutter, config.gain⟩)
  else if config.exposureMode = "auto" then
    match probes with
    | [] => none
    | answers :: _ =>
        (measure answers).map fun
          | .error thrown => .error thrown
          | .ok measured =>
              let product := measured.shutter * measured.gain
              if product < 1 ∨ product > config.maxShutter * ((16 : Nat) : K) then
                .error (.runtimeError "camera exposure out of range")
              else
                let shutter := ⌊min product (config.maxShutter : K)⌋₊
                .ok ⟨shutter, max 1 (product / shutter)⟩
  else
    (sweep config.maxShutter sweepShutters probes).map fun
      | .error thrown => .error thrown
      | .ok [] =>
          .error (.runtimeError "max_shutter is below the shortest exposure probe (20 us)")
      | .ok (first :: rest) => .ok ⟨(SweepResult.best first rest).shutter, 1⟩

end Select
end CameraCapture
end Vio
