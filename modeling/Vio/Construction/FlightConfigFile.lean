/-
This file holds the checks of a flight configuration. The text is parsed already, and an object has
each key once. `FlightConfigSnapshot` holds the snapshot of the object.
-/

import Mathlib.Algebra.Field.Basic
import Mathlib.Order.Defs.LinearOrder
import Vio.Construction.CameraCapture

namespace Vio
namespace FlightConfigFile

inductive JsonValue (K : Type) where
  | null
  | boolean (value : Bool)
  | integer (value : Int)
  | number (value : K)
  | text (value : String)
  /-- An array or an object. -/
  | nested
  deriving DecidableEq, Repr

structure JsonObject (K : Type) where
  members : List (String × JsonValue K)
  distinct : (members.map Prod.fst).Nodup

inductive ConfigFailure where
  | runtimeError (what : String)
  /-- An exception of the JSON library. -/
  | json
  deriving DecidableEq, Repr

structure PathOps where
  join : String → String → String
  isRelative : String → Bool
  absolute : String → String
  parentPath : String → String
  lexicallyNormal : String → String

structure FlightConfig (K : Type) where
  recordingDir : String
  runtimeDir : String
  estimatorConfig : String
  device : String
  exposureMode : String
  verbosity : String
  baud : Nat
  watermark : Nat
  shutter : Nat
  maxShutter : Nat
  minFreeGb : K
  tiltDeg : K
  maxLag : K
  fps : K
  gain : K
  imuLpf : K
  upsideDown : Bool
  sendVelocity : Bool
  deriving DecidableEq, Repr

def keys : List String :=
  ["baud", "device", "estimate_dir", "estimator_binary", "estimator_config", "exposure_mode", "fps",
    "gain", "imu_lpf", "max_lag", "max_shutter", "min_free_gb", "recording_dir", "send_velocity",
    "shutter", "tilt_deg", "upside_down", "verbosity", "watermark"]

def exposureModes : List String := ["fixed", "auto", "sweep"]

def verbosities : List String := ["ALL", "DEBUG", "INFO", "WARNING", "ERROR", "SILENT"]

namespace JsonObject
variable {K : Type} (json : JsonObject K)

def contains (key : String) : Bool := (json.members.lookup key).isSome

def value (key : String) : Except ConfigFailure (JsonValue K) :=
  match json.members.lookup key with
  | none => .error .json
  | some value => .ok value

def text (key : String) : Except ConfigFailure String :=
  match json.value key with
  | .error failure => .error failure
  | .ok (.text value) =>
      if value.toList.all fun letter => letter = ' ' || letter = '\t' || letter = '\r' || letter = '\n'
      then .error (.runtimeError ("empty setting: " ++ key))
      else .ok value
  | .ok _ => .error .json

def boolean (key : String) : Except ConfigFailure Bool :=
  match json.value key with
  | .error failure => .error failure
  | .ok (.boolean value) => .ok value
  | .ok _ => .error .json

def resolved (paths : PathOps) (file home key : String) : Except ConfigFailure String := do
  let value ← json.text key
  let result ← match value.toList with
    | ['~'] => pure home
    | '~' :: '/' :: rest => pure (paths.join home (String.ofList rest))
    | '~' :: _ => .error (.runtimeError "use ~/ rather than ~username")
    | _ => pure value
  let result :=
    if paths.isRelative result then paths.join (paths.parentPath (paths.absolute file)) result
    else result
  return paths.lexicallyNormal result

variable [Field K] [LinearOrder K]

def number (key : String) (minimum maximum : K) : Except ConfigFailure K :=
  let checked (value : K) : Except ConfigFailure K :=
    if value < minimum ∨ value > maximum then .error (.runtimeError ("invalid setting: " ++ key))
    else .ok value
  match json.value key with
  | .error failure => .error failure
  | .ok (.integer value) => checked value
  | .ok (.number value) => checked value
  | .ok _ => .error (.runtimeError ("expected number: " ++ key))

def integer (key : String) (maximum : Nat) : Except ConfigFailure Nat :=
  match json.value key with
  | .error failure => .error failure
  | .ok (.integer value) =>
      match json.number key 1 maximum with
      | .error failure => .error failure
      | .ok _ => .ok value.toNat
  | .ok _ => .error (.runtimeError ("expected integer: " ++ key))

end JsonObject

section Load
variable {K : Type} [Field K] [LinearOrder K]

def readSettings (paths : PathOps) (file home : String) (json : JsonObject K) :
    Except ConfigFailure (FlightConfig K) := do
  let recordingDir ← json.resolved paths file home "recording_dir"
  let runtimeDir ← json.resolved paths file home "estimate_dir"
  let estimatorConfig ← json.resolved paths file home "estimator_config"
  let _ ← json.resolved paths file home "estimator_binary"
  let device ← json.text "device"
  let exposureMode ← json.text "exposure_mode"
  let verbosity ← json.text "verbosity"
  let baud ← json.integer "baud" 921600
  let watermark ← json.integer "watermark" 1024
  let shutter ← json.integer "shutter" 1000000
  let maxShutter ← json.integer "max_shutter" 1000000
  let minFreeGb ← json.number "min_free_gb" 0 (1000000000 : Int)
  let tiltDeg ← json.number "tilt_deg" (-360 : Int) (360 : Int)
  let maxLag ← json.number "max_lag" (1 / (1000 : Int)) (10 : Int)
  let fps ← json.number "fps" (1 / (10 : Int)) (120 : Int)
  let gain ← json.number "gain" 1 (16 : Int)
  let imuLpf ← json.number "imu_lpf" 0 (187 : Int)
  let upsideDown ← json.boolean "upside_down"
  let sendVelocity ← json.boolean "send_velocity"
  if exposureMode ∉ exposureModes then .error (.runtimeError "unknown exposure mode")
  else if verbosity ∉ verbosities then .error (.runtimeError "unknown verbosity")
  else
    return { recordingDir, runtimeDir, estimatorConfig, device, exposureMode, verbosity, baud,
             watermark, shutter, maxShutter, minFreeGb, tiltDeg, maxLag, fps, gain, imuLpf, upsideDown,
             sendVelocity }

/-- The configuration of a file. The outer option says whether it opens, the inner one whether its
value is an object. -/
def loadFlightConfig (paths : PathOps) (file home : String)
    (content : Option (Option (JsonObject K))) : Except ConfigFailure (FlightConfig K) :=
  match content with
  | none => .error (.runtimeError ("cannot open flight configuration " ++ file))
  | some none => .error (.runtimeError "invalid flight configuration keys")
  | some (some json) =>
      if json.members.length ≠ keys.length then
        .error (.runtimeError "invalid flight configuration keys")
      else
        match keys.find? fun key => !json.contains key with
        | some key => .error (.runtimeError ("missing flight setting " ++ key))
        | none => readSettings paths file home json

/-- What the exposure selection reads. -/
def FlightConfig.exposures (config : FlightConfig K) : CameraCapture.ExposureConfig K where
  exposureMode := config.exposureMode
  shutter := config.shutter
  gain := config.gain
  maxShutter := config.maxShutter

end Load
end FlightConfigFile
end Vio
