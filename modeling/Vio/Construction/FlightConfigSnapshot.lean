/-
This file holds the paths of a flight configuration as texts on a POSIX system, and the snapshot of the
configuration that a capture saves. The working directory is a parameter.
-/

import Vio.Construction.FlightConfigFile
import Vio.Library.LexicalPath

namespace Vio
namespace FlightConfigFile

theorem dot_ne_slash : '.' ≠ '/' := by decide

def pathSigns : LexicalPath.Signs Char := ⟨'/', '.', dot_ne_slash⟩

def isAbsolute (path : String) : Bool := pathSigns.absolute path.toList

/-- `operator/`. -/
def join (first second : String) : String :=
  if isAbsolute second then second
  else if first = "" ∨ first.toList.getLast? = some '/' then first ++ second
  else first ++ "/" ++ second

def parentPath (path : String) : String :=
  if path.toList.all fun letter => letter = '/' then path
  else
    let name := path.toList.reverse.dropWhile fun letter => letter ≠ '/'
    let above := (name.dropWhile fun letter => letter = '/').reverse
    if above = [] ∧ isAbsolute path then "/" else String.ofList above

/-- `lexically_normal`, which leaves the empty path alone. -/
def lexicallyNormal (path : String) : String :=
  if path = "" then "" else String.ofList (pathSigns.normalize path.toList).text

/-- The path operations in a working directory. -/
def posixPaths (current : String) : PathOps where
  join
  isRelative path := !isAbsolute path
  absolute := join current
  parentPath
  lexicallyNormal

section Snapshot
variable {K : Type}

namespace JsonObject
variable (json : JsonObject K)

/-- A new value under a key that the object has. -/
def set (key : String) (value : JsonValue K) : JsonObject K where
  members := json.members.map fun member => if member.1 = key then (key, value) else member
  distinct := by
    have same : ∀ member : String × JsonValue K,
        (if member.1 = key then (key, value) else member).1 = member.1 := by
      intro member
      split
      · rename_i here
        exact here.symm
      · rfl
    rw [List.map_map, show Prod.fst ∘ (fun member : String × JsonValue K =>
      if member.1 = key then (key, value) else member) = Prod.fst from funext same]
    exact json.distinct

/-- `resolved`, which also changes the object. -/
def resolve (paths : PathOps) (file home key : String) :
    Except ConfigFailure (String × JsonObject K) := do
  let path ← json.resolved paths file home key
  return (path, json.set key (.text path))

end JsonObject

variable [Field K] [LinearOrder K]

/-- The settings of an object, and the object at the end. -/
def readSnapshot (paths : PathOps) (file home : String) (json : JsonObject K) :
    Except ConfigFailure (FlightConfig K × JsonObject K) := do
  let (recordingDir, json) ← json.resolve paths file home "recording_dir"
  let (runtimeDir, json) ← json.resolve paths file home "estimate_dir"
  let (estimatorConfig, json) ← json.resolve paths file home "estimator_config"
  let (_, json) ← json.resolve paths file home "estimator_binary"
  let device ← json.text "device"
  let exposureMode ← json.text "exposure_mode"
  let verbosity ← json.text "verbosity"
  let baud ← json.integer "baud" 921600
  let watermark ← json.integer "watermark" 1024
  let shutter ← json.integer "shutter" 1000000
  let maxShutter ← json.integer "max_shutter" 1000000
  let minFreeGb ← json.number "min_free_gb" 0 (1000000000 : Int)
  let tiltDeg ← json.number "tilt_deg" (-360 : Int) (360 : Int)
  let maxLag ← json.number "max_lag" (1 / (1000 : Int)) (10 : Int)
  let fps ← json.number "fps" (1 / (10 : Int)) (120 : Int)
  let gain ← json.number "gain" 1 (16 : Int)
  let imuLpf ← json.number "imu_lpf" 0 (187 : Int)
  let upsideDown ← json.boolean "upside_down"
  let sendVelocity ← json.boolean "send_velocity"
  if exposureMode ∉ exposureModes then .error (.runtimeError "unknown exposure mode")
  else if verbosity ∉ verbosities then .error (.runtimeError "unknown verbosity")
  else
    return ({ recordingDir, runtimeDir, estimatorConfig, device, exposureMode, verbosity, baud,
              watermark, shutter, maxShutter, minFreeGb, tiltDeg, maxLag, fps, gain, imuLpf, upsideDown,
              sendVelocity }, json)

/-- A configuration with its snapshot. -/
def loadSnapshot (paths : PathOps) (file home : String) (content : Option (Option (JsonObject K))) :
    Except ConfigFailure (FlightConfig K × JsonObject K) :=
  match content with
  | none => .error (.runtimeError ("cannot open flight configuration " ++ file))
  | some none => .error (.runtimeError "invalid flight configuration keys")
  | some (some json) =>
      if json.members.length ≠ keys.length then
        .error (.runtimeError "invalid flight configuration keys")
      else
        match keys.find? fun key => !json.contains key with
        | some key => .error (.runtimeError ("missing flight setting " ++ key))
        | none => readSnapshot paths file home json

end Snapshot

/-- The place that a setting names: seen from the directory of the file, or from the home directory. -/
def configuredPlace (current file home value : String) : List (List Char) :=
  let directory := pathSigns.place [] (parentPath (join current file)).toList
  match value.toList with
  | ['~'] => pathSigns.place directory home.toList
  | '~' :: '/' :: rest => pathSigns.place (pathSigns.place directory home.toList) rest
  | text => pathSigns.place directory text

end FlightConfigFile
end Vio
