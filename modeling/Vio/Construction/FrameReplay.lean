/-
This file holds the raw frames of a recording: the buffer that the camera thread fills, the thread
that reads raw frames back, and the frames of the bag conversion. Files are lists of bytes.
-/

import Vio.Construction.CameraCapture

namespace Vio
namespace FrameReplay
open CameraCapture

def rawBuffer : List UInt8 := List.replicate (width * height * 2) 0

/-- The loop that fills the high bytes, from the pixel `index` on. -/
def fillRaw (raw : List UInt8) (index : Nat) : List UInt8 → List UInt8
  | [] => raw
  | pixel :: rest => fillRaw (raw.set (2 * index + 1) pixel) (index + 1) rest

/-- The raw bytes that the camera thread submits. Each frame comes with whether the recording is
active, and one buffer serves all frames. A frame of another size ends the thread. -/
def cameraThread (npx : Nat) (raw : List UInt8) : List (List UInt8 × Bool) → List (List UInt8)
  | [] => []
  | (pixels, active) :: rest =>
      if pixels.length ≠ npx then []
      else if active then
        fillRaw raw 0 pixels :: cameraThread npx (fillRaw raw 0 pixels) rest
      else cameraThread npx raw rest

/-- The low bytes at every `step`-th pixel are zero. -/
def lowBytesClear (npx step : Nat) (raw : List UInt8) : Bool :=
  (List.range npx).all fun index => index % step ≠ 0 || raw.getD (2 * index) 0 = 0

def highBytes (npx : Nat) (raw : List UInt8) : List UInt8 :=
  (List.range npx).map fun index => raw.getD (2 * index + 1) 0

/-- The loop of the frame thread after `idx` frames, over the bytes of the stream and the timestamps
of the metadata. The second part says how the thread died. -/
def frameThread (npx idx : Nat) (bytes : List UInt8) :
    List Int → List (Int × List UInt8) × Option String
  | [] => ([], none)
  | ts :: stamps =>
      if bytes.length < 2 * npx then ([], none)
      else
        let raw := bytes.take (2 * npx)
        if lowBytesClear npx (if idx + 1 = 1 then 1 else 997) raw = false then
          ([], some "frame low byte nonzero -- not the R8 8-bit-in-16 layout")
        else
          let later := frameThread npx (idx + 1) (bytes.drop (2 * npx)) stamps
          ((ts, highBytes npx raw) :: later.1, later.2)

/-- The little-endian 16-bit words of a file. -/
def words : List UInt8 → List Nat
  | low :: high :: rest => (low.toNat + 256 * high.toNat) :: words rest
  | _ => []

/-- The whole frames of `per` words each. -/
def reshape (per : Nat) (raw : List Nat) : List (List Nat) :=
  (List.range (raw.length / per)).map fun index => (raw.drop (index * per)).take per

/-- The frames that the bag conversion finds in a file. -/
def bagFrames (path : String) (width height : Nat) (y16 : List UInt8) :
    Except String (List (List Nat)) :=
  if y16.length % 2 ≠ 0 then .error "Size of the available data is not a multiple of the data-type size."
  else
    let raw := words y16
    let per := width * height
    if raw.length < per then
      .error (path ++ ": not even one " ++ toString width ++ "x" ++ toString height ++
        " 16-bit frame -- wrong mode?")
    else
      let frames := reshape per raw
      let padded (frame : Option (List Nat)) : Bool :=
        frame.any fun frame => frame.any fun word => word % 256 ≠ 0
      if padded frames.head? || padded frames.getLast? then
        .error "not the R8 mode's 8-bit-in-16 layout -- refusing to guess a conversion"
      else .ok frames

def imageData (frame : List Nat) : List UInt8 := frame.map fun word => UInt8.ofNat (word >>> 8)

end FrameReplay
end Vio
