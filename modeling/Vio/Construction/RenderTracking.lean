/-
This file holds what the renderer reads from a recording before it joins features and frames.
-/

import Vio.Construction.Recording
import Vio.Library.Decimal

namespace Vio.RenderTracking

/-- The text after a given beginning. -/
def expect (beginning text : List UInt8) : Option (List UInt8) :=
  if beginning.isPrefixOf text then some (text.drop beginning.length) else none

/-- White space in the sense of the regular expression. -/
def isSpace (byte : UInt8) : Bool := byte = 32 || (9 ≤ byte && byte ≤ 13) || (28 ≤ byte && byte ≤ 31)

/-- A match of the pattern `"SensorTimestamp":\s*(\d+)` at the beginning of the text. -/
def matchStamp (text : List UInt8) : Option Nat :=
  (expect (ascii "\"SensorTimestamp\":") text).bind fun rest =>
    (Decimal.read (rest.dropWhile isSpace)).map Prod.fst

def stamps : List UInt8 → List Nat
  | [] => []
  | byte :: rest => (matchStamp (byte :: rest)).toList ++ stamps rest

/-- The lines of a text with their line ends; the last one may lack its end. -/
def lines : List UInt8 → List (List UInt8)
  | [] => []
  | byte :: rest =>
      if byte = 10 then [byte] :: lines rest
      else
        match lines rest with
        | [] => [[byte]]
        | line :: more => (byte :: line) :: more

/-- The index and the timestamp that a line has as a JSON object of type `frame`, in the layout of the
recorded features. A line that does not end its object is no JSON. -/
def frameRow (line : List UInt8) : Option (Nat × Nat) :=
  let object := if line.getLast? = some 10 then line.dropLast else line
  if object.getLast? = some 125 then
    (expect (ascii "\x7b\"type\":\"frame\",\"timestamp_ns\":") object).bind fun rest =>
    (Decimal.read rest).bind fun stamp =>
    (expect (ascii ",\"frame_index\":") stamp.2).bind fun rest =>
    (Decimal.read rest).map fun index => (index.1, stamp.1)
  else none

def frameRows (features : List UInt8) : List (Nat × Nat) := (lines features).filterMap frameRow

/-- The check of the index, the timestamp and the duplicates in the loop over the features. -/
def associated (stamps : List Nat) : List Nat → List (Nat × Nat) → Bool
  | _, [] => true
  | tracks, (index, stamp) :: rows =>
      if index ≥ stamps.length ∨ stamps[index]? ≠ some stamp ∨ index ∈ tracks then false
      else associated stamps (index :: tracks) rows

def rawFrame (width height : Nat) (raw : List UInt8) (index : Nat) : List UInt8 :=
  (raw.drop (index * (width * height * 2))).take (width * height * 2)

end Vio.RenderTracking
