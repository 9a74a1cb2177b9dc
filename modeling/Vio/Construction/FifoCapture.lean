/-
This file holds the threads that read a capture from two FIFOs: the metadata thread, and the thread
that gives each raw frame the next timestamp. A transition is one look at the stop flag, one read, or
one section under a lock. The inputs are what the writers have still to deliver. The fields `handed`
and `submitted` are not in the source: they record the calls of `enqueue_frame` and the raw bytes and
metadata that went to the recording, oldest first, and no modelled function reads them.
-/

import Vio.Construction.FrameReplay
import Vio.Construction.MetadataThread
import Vio.Construction.Recording

namespace Vio

inductive FrameStage where
  /-- The condition of the loop in `read_some`, inside `read_full`. -/
  | filling
  /-- The stop flag was clear, and the poll and the read follow. -/
  | polling
  /-- The frame is complete, and its timestamp is not taken. -/
  | pairing
  /-- `frames_done` is set. -/
  | ended
  | threw (thrown : Thrown)
  deriving DecidableEq, Repr

inductive FifoAction where
  /-- The frame thread looks at the stop flag. -/
  | checkFrames
  /-- A poll timed out, or the call was interrupted. -/
  | idleFrames
  | readFrames (count : Nat)
  | failFrames (polling : Bool) (reason : String)
  /-- The section that takes the timestamp, and the rest of the loop body. -/
  | pair (active : Bool)
  | checkMetadata
  | idleMetadata
  | readMetadata (count : Nat)
  | failMetadata (polling : Bool) (reason : String)
  | scan
  | requestStop
  deriving DecidableEq, Repr

structure FifoCapture where
  npx : Nat
  positive : 0 < npx
  frameInput : List UInt8
  metadataInput : List UInt8
  stop : Bool := false
  metadata : MetaThread := {}
  /-- The metadata thread found the stop flag clear. -/
  metadataPolls : Bool := false
  stage : FrameStage := .filling
  /-- The bytes of the frame so far. -/
  raw : List UInt8 := []
  idx : Nat := 0
  handed : List (Int × List UInt8) := []
  submitted : List (List UInt8 × List UInt8) := []

namespace FifoCapture
open FrameReplay

def readFailure (polling : Bool) (reason : String) : Thrown :=
  .runtimeError ((if polling then "poll: " else "read: ") ++ reason)

def printInt (value : Int) : List UInt8 :=
  if value < 0 then 45 :: Decimal.print (-value).toNat else Decimal.print value.toNat

/-- The metadata of the frame that the thread counted as `idx`. -/
def frameMetadata (idx : Nat) (ts : Int) : List UInt8 :=
  (if idx = 1 then [] else ascii ",\n") ++ ascii "\x7b\"SensorTimestamp\":" ++ printInt ts ++
    ascii "\x7d"

def start (npx : Nat) (positive : 0 < npx) (frames text : List UInt8) : FifoCapture :=
  { npx, positive, frameInput := frames, metadataInput := text }

variable (capture : FifoCapture)

/-- A read of the frame FIFO. Nothing is read at its end. -/
def readFrames (count : Nat) : Option FifoCapture :=
  if capture.stage ≠ .polling ∨ count > capture.frameInput.length ∨
      count > 2 * capture.npx - capture.raw.length then none
  else if count = 0 then
    if capture.frameInput = [] then some { capture with stage := .ended } else none
  else
    let raw := capture.raw ++ capture.frameInput.take count
    let full := raw.length = 2 * capture.npx
    some
      { capture with
        frameInput := capture.frameInput.drop count
        raw
        idx := if full then capture.idx + 1 else capture.idx
        stage := if full then .pairing else .filling }

/-- The loop body after the timestamp is taken. -/
def handle (active : Bool) (ts : Int) : FifoCapture :=
  let submitted :=
    if active then capture.submitted ++ [(capture.raw, frameMetadata capture.idx ts)]
    else capture.submitted
  if lowBytesClear capture.npx (if capture.idx = 1 then 1 else 997) capture.raw = false then
    { capture with
      submitted
      stage := .threw (.runtimeError
        "frame low byte nonzero -- not the R8 8-bit-in-16 layout") }
  else
    { capture with
      submitted
      handed := capture.handed ++ [(ts, highBytes capture.npx capture.raw)]
      raw := []
      stage := .filling }

/-- The thread waits while there is no timestamp, the metadata has not ended and nothing stops. -/
def pair (active : Bool) : Option FifoCapture :=
  if capture.stage ≠ .pairing then none
  else
    match capture.metadata.metaTs with
    | [] =>
        if capture.metadata.metaDone ∨ capture.stop then some { capture with stage := .ended }
        else none
    | ts :: _ =>
        (capture.metadata.step .take).map fun metadata =>
          { capture with metadata }.handle active ts

/-- A read of the metadata FIFO. Nothing is read at its end. -/
def readMetadata (count : Nat) : Option FifoCapture :=
  if capture.metadataPolls = false ∨ count > capture.metadataInput.length then none
  else if count = 0 then
    if capture.metadataInput = [] then
      (capture.metadata.step .close).map fun metadata =>
        { capture with metadata, metadataPolls := false }
    else none
  else
    (capture.metadata.step (.read (capture.metadataInput.take count))).map fun metadata =>
      { capture with
        metadata
        metadataInput := capture.metadataInput.drop count
        metadataPolls := false }

def step : FifoAction → Option FifoCapture
  | .checkFrames =>
      if capture.stage = .filling then
        some { capture with stage := if capture.stop then .ended else .polling }
      else none
  | .idleFrames =>
      if capture.stage = .polling then some { capture with stage := .filling } else none
  | .readFrames count => capture.readFrames count
  | .failFrames polling reason =>
      if capture.stage = .polling then
        some { capture with stage := .threw (readFailure polling reason) }
      else none
  | .pair active => capture.pair active
  | .checkMetadata =>
      if capture.metadata.stage = .reading ∧ capture.metadataPolls = false then
        if capture.stop then
          (capture.metadata.step .close).map fun metadata => { capture with metadata }
        else some { capture with metadataPolls := true }
      else none
  | .idleMetadata =>
      if capture.metadataPolls then some { capture with metadataPolls := false } else none
  | .readMetadata count => capture.readMetadata count
  | .failMetadata polling reason =>
      if capture.metadataPolls then
        some
          { capture with
            metadata := { capture.metadata with stage := .threw (readFailure polling reason) }
            metadataPolls := false }
      else none
  | .scan => (capture.metadata.step .scan).map fun metadata => { capture with metadata }
  | .requestStop => some { capture with stop := true }

/-- An interleaving of the threads; a transition that is not enabled does not occur. -/
def run (actions : List FifoAction) : Option FifoCapture := actions.foldlM step capture

end FifoCapture
end Vio
