/-
This file holds the samples that the offline tool loads from a recording, and the rows that it lays on
the gyroscope's timestamps. The library's `interp` is a parameter. The summary that the tool prints is
not modelled.
-/

import Vio.Construction.ImuDeviceTool

namespace Vio

/-- The number that the bytes of a field hold. -/
def fieldNumber (channel : Channel) (bytes : List UInt8) : Int :=
  let ordered := match channel.endian with
    | .little => bytes
    | .big => bytes.reverse
  if channel.signed then signed ordered
  else ordered.foldr (fun byte total => (byte.toNat : Int) + 256 * total) 0

def Channel.decode (channel : Channel) (record : List UInt8) : Int :=
  fieldNumber channel ((record.drop channel.offset.toNat).take channel.storage)

/-- The checks of the structured record type. -/
def recordType (channels : List Channel) (itemsize : Int) : Except ToolError Unit :=
  if channels.any fun channel => decide (channel.storage ∉ [1, 2, 4, 8]) then .error .typeError
  else if ¬ (channels.map Channel.name).Nodup then .error .valueError
  else if channels.any fun channel => channel.offset < 0 || channel.offset + channel.storage > itemsize then
    .error .valueError
  else .ok ()

/-- The part of `a[name]` that finds the field. -/
def namedField (channels : List Channel) (name : String) : Except ToolError Channel :=
  match channels.find? fun channel => channel.name = name with
  | some channel => .ok channel
  | none => .error .valueError

/-- The samples of one device. `contents` reads the file that the sidecar names, from its own place or
from the directory of the sidecar. -/
def kalibrLoad {K : Type} [Field K] (contents : String → List UInt8) (side : Sidecar K) (kind : ImuKind) :
    Except ToolError (List (ImuSample K)) :=
  match side kind with
  | none => .error .keyError
  | some device => do
      recordType device.channels device.recordBytes
      let bytes := contents device.file
      let size := device.recordBytes.toNat
      let records := (List.range (bytes.length / size)).map fun index =>
        (bytes.drop (index * size)).take size
      let x ← namedField device.channels (kind.stem ++ "x")
      let y ← namedField device.channels (kind.stem ++ "y")
      let z ← namedField device.channels (kind.stem ++ "z")
      let timestamp ← namedField device.channels "in_timestamp"
      return records.map fun record =>
        -- The times are cast to 64 bits.
        ((timestamp.decode record).bmod 18446744073709551616,
          fun axis => ((![x, y, z] axis).decode record : K) * device.scale)

structure KalibrRow (K : Type) where
  timestamp : Int
  omega : Axes K
  alpha : Axes K

variable {K : Type}

end Vio
