/-
This file holds the record layout that the Python tool builds from a scan directory. The tool reads
the same attributes as the runner.
-/

import Vio.Construction.ImuDevice

namespace Vio

inductive ToolError where
  | runtimeError (message : String)
  | osError
  | valueError
  | typeError
  | keyError
  | zeroDivisionError
  deriving DecidableEq, Repr

structure ToolChannel where
  index : Int
  name : String
  endian : Endian
  signed : Bool
  bits : Nat
  storage : Nat
  shift : Nat
  deriving DecidableEq, Repr

namespace ImuDeviceTool

def rd {α : Type} : Except Thrown α → Except ToolError α
  | .ok value => .ok value
  | .error _ => .error .osError

/-- The part of the first loop for one element. `directory` is the path of the scan directory. -/
def readChannel (directory : String) (element : ScanElement) : Except ToolError ToolChannel := do
  let text ← rd element.type
  match ScanType.read text with
  | none => .error (.runtimeError ("unparsed type for " ++ directory ++ "/" ++ element.name))
  | some (type, _) =>
      let index ← rd element.index
      return {
        index
        name := element.name
        endian := type.endian
        signed := type.signed
        bits := type.bits
        storage := type.storage / 8
        shift := type.shift }

def readChannels (directory : String) : List ScanElement → Except ToolError (List ToolChannel)
  | [] => .ok []
  | element :: rest => do
      let channel ← readChannel directory element
      let channels ← readChannels directory rest
      return channel :: channels

/-- The second loop: each channel with its offset, and the end of the last one. -/
def placeChannels (offset : Nat) : List ToolChannel → Except ToolError (List Channel × Nat)
  | [] => .ok ([], offset)
  | channel :: rest =>
      if channel.storage = 0 then .error .zeroDivisionError
      else do
        let start := offset + ((-(offset : Int)) % (channel.storage : Int)).toNat
        let (channels, finish) ← placeChannels (start + channel.storage) rest
        return ({
          name := channel.name
          offset := start
          endian := channel.endian
          signed := channel.signed
          bits := channel.bits
          storage := channel.storage
          shift := channel.shift } :: channels, finish)

/-- The channels in scan order and the record size. `enabled` is the text of an `_en` attribute. -/
def layout (directory : String) (enabled : ScanElement → String) (scan : ScanDirectory) :
    Except ToolError (List Channel × Nat) := do
  let paths := scan.elements.mergeSort fun first second => first.name ++ "_en" ≤ second.name ++ "_en"
  let channels ← readChannels directory (paths.filter fun element => enabled element = "1")
  let sorted := channels.mergeSort fun first second => first.index ≤ second.index
  let (packed, offset) ← placeChannels 0 sorted
  match (sorted.map ToolChannel.storage).max? with
  | none => .error .valueError
  | some align => return (packed, offset + ((-(offset : Int)) % (align : Int)).toNat)

end ImuDeviceTool
end Vio
