/-
This file holds the conversion of a recording to a bag: the streams that it reads, the frames and the
gyroscope samples that it keeps, and the messages in the order of their writing. The library's `interp`
and the reader of the finished bag are parameters. The metadata is ASCII text. The printed summary is
not modelled, except that it needs a frame.
-/

import Vio.Construction.FrameReplay
import Vio.Construction.KalibrImuCsv
import Vio.Construction.RenderTracking

namespace Vio

/-- How the conversion ends without a checked bag. -/
inductive BagExit where
  | exit (message : String)
  | raised (error : ToolError)
  | indexError
  | overflowError
  deriving DecidableEq, Repr

namespace BagFromRaw

def fail {A : Type} (message : String) : Except BagExit A := .error (.exit ("FAIL: " ++ message))

structure Arguments where
  path : String
  width : Nat := 1280
  height : Nat := 800
  trimToImu : Bool := false

/-- The files of a recording; `contents` reads the IMU files that the sidecar names. -/
structure Files (K : Type) where
  y16 : List UInt8
  metadata : List UInt8
  side : Sidecar K
  contents : String → List UInt8

/-- The streams of a recording: the frames of the camera with their timestamps, and the samples. -/
structure Capture (K : Type) where
  camera : List (Int × List Nat)
  gyro : List (ImuSample K)
  accel : List (ImuSample K)

def int64 (value : Int) : Int := value.bmod 18446744073709551616

def diff (times : List Int) : List Int :=
  (times.zip times.tail).map fun pair => int64 (pair.2 - pair.1)

def rawFrames (arguments : Arguments) (y16 : List UInt8) : Except BagExit (List (List Nat)) :=
  -- The memory map takes neither an empty file nor half a word.
  if y16 = [] ∨ y16.length % 2 ≠ 0 then .error (.raised .valueError)
  else if arguments.width * arguments.height = 0 then .error (.raised .zeroDivisionError)
  else
    match FrameReplay.bagFrames (arguments.path ++ ".y16") arguments.width arguments.height y16 with
    | .error message => fail message
    | .ok frames => .ok frames

/-- The timestamps of the metadata as 64-bit numbers. -/
def cameraStamps (metadata : List UInt8) : Except BagExit (List Int) :=
  let found := RenderTracking.stamps metadata
  if found.any fun value => 9223372036854775808 ≤ value then .error .overflowError
  else .ok (found.map Int.ofNat)

/-- The frames with their timestamps, as many as both files have. -/
def cameraFrames (frames : List (List Nat)) (tc : List Int) : Except BagExit (List (Int × List Nat)) :=
  if ((tc.length : Int) - frames.length).natAbs > 8 then
    fail (toString frames.length ++ " frames but " ++ toString tc.length ++
      " metadata records -- not the same run?")
  else
    let n := min tc.length frames.length
    let backward := ((diff (tc.take n)).filter fun step => step ≤ 0).length
    if backward > 0 then fail (toString backward ++ " non-increasing camera timestamps")
    -- The summary reads the first and the last timestamp.
    else if n = 0 then .error .indexError
    else .ok ((tc.take n).zip (frames.take n))

variable {K : Type}

def checkStream (name : String) (stream : List (ImuSample K)) : Except BagExit Unit :=
  if (diff (stream.map Prod.fst)).any fun step => step ≤ 0 then
    fail (name ++ " has non-increasing timestamps")
  else .ok ()

def load [Field K] (files : Files K) (kind : ImuKind) : Except BagExit (List (ImuSample K)) :=
  match kalibrLoad files.contents files.side kind with
  | .error error => .error (.raised error)
  | .ok stream => .ok stream

/-- The part of `main` that reads and checks the three streams. -/
def capture [Field K] (arguments : Arguments) (files : Files K) : Except BagExit (Capture K) := do
  let frames ← rawFrames arguments files.y16
  let tc ← cameraStamps files.metadata
  let camera ← cameraFrames frames tc
  let gyro ← load files .gyro
  let accel ← load files .accel
  checkStream "gyro" gyro
  checkStream "accel" accel
  return { camera, gyro, accel }

/-- The frames that the gyroscope covers: all of them, unless `--trim-to-imu` drops the others. -/
def keptFrames (trimToImu : Bool) (recording : Capture K) : Except BagExit (List (Int × List Nat)) :=
  match recording.gyro.head?, recording.gyro.getLast?, recording.camera.head?,
    recording.camera.getLast? with
  | some gyroFirst, some gyroLast, some first, some last =>
      if gyroFirst.1 > first.1 ∨ gyroLast.1 < last.1 then
        if trimToImu = false then
          fail ("IMU " ++ toString gyroFirst.1 ++ ".." ++ toString gyroLast.1 ++
            " does not cover camera " ++ toString first.1 ++ ".." ++ toString last.1 ++
            " -- same clock? (--trim-to-imu keeps only the frames the IMU covers)")
        else
          let kept := recording.camera.filter fun frame =>
            gyroFirst.1 ≤ frame.1 && frame.1 ≤ gyroLast.1
          if kept.length < 2 then
            fail "IMU and camera do not overlap -- the two sensors are not on one clock"
          else .ok kept
      else .ok recording.camera
  | _, _, _, _ => .error .indexError

/-- The gyroscope samples within a second of the kept frames and in the span of the accelerometer. -/
def keptSamples (recording : Capture K) (frames : List (Int × List Nat)) :
    Except BagExit (List (ImuSample K)) :=
  match frames.head?, frames.getLast?, recording.accel.head?, recording.accel.getLast? with
  | some first, some last, some accelFirst, some accelLast =>
      .ok (recording.gyro.filter fun sample =>
        int64 (first.1 - 1000000000) ≤ sample.1 && sample.1 ≤ int64 (last.1 + 1000000000) &&
          accelFirst.1 ≤ sample.1 && sample.1 ≤ accelLast.1)
  | _, _, _, _ => .error .indexError

/-- The row of a kept sample, with the accelerometer interpolated at its time. -/
def imuRow (interp : Int → List Int → List K → K) (accel : List (ImuSample K))
    (sample : ImuSample K) : KalibrRow K where
  timestamp := sample.1
  omega := sample.2
  alpha axis := interp sample.1 (accel.map Prod.fst) (accel.map fun node => node.2 axis)

structure Header where
  sec : Int
  nanosec : Int
  frameId : String

def stamp (ns : Int) (frame : String) : Header where
  sec := ns / 1000000000
  nanosec := ns % 1000000000
  frameId := frame

structure Image where
  header : Header
  height : Nat
  width : Nat
  encoding : String
  isBigendian : Nat
  step : Nat
  data : List UInt8

structure Imu (K : Type) where
  header : Header
  angularVelocity : Axes K
  linearAcceleration : Axes K

/-- A message of the bag with the time of its writing. -/
inductive BagMessage (K : Type) where
  | image (time : Int) (message : Image)
  | imu (time : Int) (message : Imu K)

def BagMessage.topic : BagMessage K → String
  | .image _ _ => "/cam0/image_raw"
  | .imu _ _ => "/imu0"

def imageMessage (arguments : Arguments) (frame : Int × List Nat) : BagMessage K :=
  .image frame.1
    { header := stamp frame.1 "cam0"
      height := arguments.height
      width := arguments.width
      encoding := "mono8"
      isBigendian := 0
      step := arguments.width
      data := FrameReplay.imageData frame.2 }

def imuMessage (row : KalibrRow K) : BagMessage K :=
  .imu row.timestamp
    { header := stamp row.timestamp "imu0"
      angularVelocity := row.omega
      linearAcceleration := row.alpha }

/-- The loop that writes the messages by their stamps, from the frames and the rows that are left. -/
def playback (arguments : Arguments) : List (Int × List Nat) → List (KalibrRow K) → List (BagMessage K)
  | [], [] => []
  | frame :: frames, [] => imageMessage arguments frame :: playback arguments frames []
  | [], row :: rows => imuMessage row :: playback arguments [] rows
  | frame :: frames, row :: rows =>
      if frame.1 ≤ row.timestamp then
        imageMessage arguments frame :: playback arguments frames (row :: rows)
      else imuMessage row :: playback arguments (frame :: frames) rows
termination_by frames rows => frames.length + rows.length

/-- The check of the finished bag, from the topics that its reader returns. -/
def readBack (topics : List String) (images samples : Nat) : Except BagExit Unit :=
  if topics.any fun topic => topic ≠ "/cam0/image_raw" && topic ≠ "/imu0" then
    .error (.raised .keyError)
  else
    let cam0 := topics.count "/cam0/image_raw"
    let imu0 := topics.count "/imu0"
    if cam0 ≠ images ∨ imu0 ≠ samples then
      fail ("bag read back \x7b'/cam0/image_raw': " ++ toString cam0 ++ ", '/imu0': " ++
        toString imu0 ++ "\x7d, expected " ++ toString images ++ " images and " ++
        toString samples ++ " imu")
    else .ok ()

/-- The messages of the bag, in the order of their writing. -/
def main [Field K] (interp : Int → List Int → List K → K)
    (read : List (BagMessage K) → List String) (arguments : Arguments) (files : Files K) :
    Except BagExit (List (BagMessage K)) := do
  let recording ← capture arguments files
  let frames ← keptFrames arguments.trimToImu recording
  let samples ← keptSamples recording frames
  let messages := playback arguments frames (samples.map (imuRow interp recording.accel))
  readBack (read messages) frames.length samples.length
  return messages

end BagFromRaw
end Vio
