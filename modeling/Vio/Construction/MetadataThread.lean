/-
This file holds the thread that reads the camera metadata, and the queue of its timestamps. Texts are
bytes. A transition is one read, or one round of the inner loop with the push under the lock; the
camera thread takes timestamps between them. The fields `text` and `pushed` are not in the source:
they record what was read and what was pushed, oldest first, and no modelled function reads them.
-/

import Vio.Construction.Estimate
import Vio.Library.InputStream
import Vio.Library.RecordScan

namespace Vio
open RecordScan

/-- The number at the beginning of a text, after white space and a sign. -/
def stoll (text : List UInt8) : Except Thrown Int :=
  let signed (negative : Bool) (digits : List UInt8) : Except Thrown Int :=
    match Decimal.read digits with
    | none => .error (.invalidArgument "stoll")
    | some (number, _) =>
        let value : Int := if negative then -number else number
        if value < -9223372036854775808 ∨ value > 9223372036854775807 then
          .error (.logicError "stoll")
        else .ok value
  match text.dropWhile InputStream.isSpace with
  | 43 :: digits => signed false digits
  | 45 :: digits => signed true digits
  | digits => signed false digits

inductive MetaStage where
  /-- The condition of the outer loop. -/
  | reading
  /-- The condition of the inner loop. -/
  | scanning
  | done
  | threw (thrown : Thrown)
  deriving DecidableEq, Repr

inductive MetaAction where
  | read (bytes : List UInt8)
  | scan
  /-- The end of the stream, or a stop. -/
  | close
  /-- The camera thread takes the oldest timestamp. -/
  | take
  deriving DecidableEq, Repr

structure MetaThread where
  buf : List UInt8 := []
  metaTs : List Int := []
  metaDone : Bool := false
  stage : MetaStage := .reading
  text : List UInt8 := []
  pushed : List Int := []
  deriving DecidableEq, Repr

namespace MetaThread

def key : List UInt8 := "\"SensorTimestamp\"".toList.map fun letter => UInt8.ofNat letter.toNat

def isColon (byte : UInt8) : Bool := byte = 58

def endsNumber (byte : UInt8) : Bool := byte = 44 || byte = 125 || byte = 10

variable (thread : MetaThread)

def append (bytes : List UInt8) : MetaThread :=
  let buf := thread.buf ++ bytes
  { thread with
    buf
    text := thread.text ++ bytes
    stage :=
      if buf.length > 65536 then
        .threw (.runtimeError "camera metadata record exceeds size limit")
      else .scanning }

/-- The end of the inner loop. A long buffer without a key keeps its last bytes. -/
def trim : MetaThread :=
  { thread with
    buf :=
      if thread.buf.length > 64 ∧ find key thread.buf = none then
        thread.buf.drop (thread.buf.length - 32)
      else thread.buf
    stage := .reading }

def push (buf : List UInt8) (ts : Int) : MetaThread :=
  if thread.metaTs.length ≥ 128 then
    { thread with buf, stage := .threw (.runtimeError "camera metadata backlog overflow") }
  else
    { thread with buf, metaTs := thread.metaTs ++ [ts], pushed := thread.pushed ++ [ts] }

/-- One round of the inner loop. -/
def scanRound : MetaThread :=
  match find key thread.buf with
  | none => thread.trim
  | some k =>
      match findFrom isColon thread.buf k with
      | none => thread.trim
      | some c =>
          match findFrom endsNumber thread.buf c with
          | none => thread.trim
          | some e =>
              match stoll ((thread.buf.drop (c + 1)).take (e - c - 1)) with
              | .error thrown => { thread with stage := .threw thrown }
              | .ok ts => thread.push (thread.buf.drop e) ts

def step : MetaAction → Option MetaThread
  | .read bytes =>
      if thread.stage = .reading ∧ 0 < bytes.length ∧ bytes.length ≤ 8192 then
        some (thread.append bytes)
      else none
  | .scan => if thread.stage = .scanning then some thread.scanRound else none
  | .close =>
      if thread.stage = .reading then some { thread with metaDone := true, stage := .done } else none
  | .take =>
      match thread.metaTs with
      | [] => none
      | _ :: rest => some { thread with metaTs := rest }

/-- An interleaving with the camera thread. -/
def run (actions : List MetaAction) : Option MetaThread := actions.foldlM step thread

end MetaThread
end Vio
