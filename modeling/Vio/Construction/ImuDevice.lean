/-
This file holds the record layout of an IIO device from its scan directory, the checks of the runner
on a record description, and the sidecar of a recording. The kernel writes an attribute as one line
without blanks around it. The JSON text of the sidecar is not modelled.
-/

import Vio.Construction.Estimate
import Vio.Construction.ImuThread

namespace Vio

inductive Endian where
  | little
  | big
  deriving DecidableEq, Repr

/-- The parts of a type attribute such as `le:s16/16>>0`. -/
structure ScanType where
  endian : Endian
  signed : Bool
  bits : Nat
  storage : Nat
  shift : Nat
  deriving DecidableEq, Repr

/-- The decimal number at the beginning of a text, and the text after it. -/
def decimal (text : List Char) : Option (Nat × List Char) :=
  let digits := text.takeWhile Char.isDigit
  if digits = [] then none
  else some (digits.foldl (fun total digit => 10 * total + (digit.toNat - 48)) 0,
    text.dropWhile Char.isDigit)

/-- The type at the beginning of a text, and the text after it. Each part of the pattern matches in one
way only. -/
def ScanType.read (text : List Char) : Option (ScanType × List Char) := do
  let (endian, text) ← match text with
    | 'l' :: 'e' :: ':' :: rest => some (Endian.little, rest)
    | 'b' :: 'e' :: ':' :: rest => some (Endian.big, rest)
    | _ => none
  let (signed, text) ← match text with
    | 's' :: rest => some (true, rest)
    | 'u' :: rest => some (false, rest)
    | _ => none
  let (bits, text) ← decimal text
  let text ← match text with
    | '/' :: rest => some rest
    | _ => none
  let (storage, text) ← decimal text
  let text ← match text with
    | '>' :: '>' :: rest => some rest
    | _ => none
  let (shift, text) ← decimal text
  return (⟨endian, signed, bits, storage, shift⟩, text)

/-- An `_en` attribute of a scan directory and the attributes beside it, under the name before `_en`. -/
structure ScanElement where
  name : String
  /-- Write the attribute, and read it back. -/
  enable : String → Except Thrown String
  type : Except Thrown (List Char)
  index : Except Thrown Int

/-- The attributes of a directory have different names. -/
structure ScanDirectory where
  elements : List ScanElement
  distinct : (elements.map ScanElement.name).Nodup

/-- The channels that the reader consumes. -/
inductive ImuChannel where
  | axis (axis : Fin 3)
  | timestamp
  deriving DecidableEq, Repr

def ImuKind.stem : ImuKind → String
  | .accel => "in_accel_"
  | .gyro => "in_anglvel_"

namespace ImuChannel

def all : List ImuChannel := (List.finRange 3).map axis ++ [timestamp]

def name (kind : ImuKind) : ImuChannel → String
  | .axis 0 => kind.stem ++ "x"
  | .axis 1 => kind.stem ++ "y"
  | .axis 2 => kind.stem ++ "z"
  | .timestamp => "in_timestamp"

def ofName (kind : ImuKind) (name : String) : Option ImuChannel :=
  all.find? fun channel => channel.name kind = name

def bytes : ImuChannel → Nat
  | .axis _ => 2
  | .timestamp => 8

def bits : ImuChannel → Nat
  | .axis _ => 16
  | .timestamp => 64

end ImuChannel

structure ImuDevice (K : Type) where
  kind : ImuKind
  sysfs : String
  chardev : String
  scale : K
  rateHz : K
  recordBytes : Int := 0
  timestampOffset : Int := 0
  axisOffsets : Fin 3 → Int := fun _ => 0

namespace ImuDevice
variable {K : Type} (device : ImuDevice K)

def offset : ImuChannel → Int
  | .axis axis => device.axisOffsets axis
  | .timestamp => device.timestampOffset

def setOffset (start : Int) : ImuChannel → ImuDevice K
  | .axis axis => { device with axisOffsets := Function.update device.axisOffsets axis start }
  | .timestamp => { device with timestampOffset := start }

end ImuDevice

structure ScanChannel where
  index : Int
  channel : ImuChannel

/-- The conversion of matched digits to an `int`. -/
def stoi (value : Nat) : Except Thrown Nat :=
  if value > 2147483647 then .error (.logicError "stoi") else .ok value

/-- The reader consumes one type for each channel. -/
def checkType (name : String) (channel : ImuChannel) (text : List Char) : Except Thrown Unit :=
  let unsupported : Except Thrown Unit :=
    .error (.runtimeError ("unsupported IIO type: " ++ name ++ " " ++ String.ofList text))
  match ScanType.read text with
  | some (type, []) => do
      if type.endian ≠ .little ∨ type.signed = false then unsupported
      else
        if (← stoi type.bits) ≠ channel.bits then unsupported
        else if (← stoi type.storage) ≠ channel.bits then unsupported
        else if (← stoi type.shift) ≠ 0 then unsupported
  | _ => unsupported

/-- The part of the loop over the scan directory for one attribute. Other channels are disabled. -/
def scanChannel (kind : ImuKind) (element : ScanElement) : Except Thrown (Option ScanChannel) := do
  let selected := ImuChannel.ofName kind element.name
  let value := if selected.isSome then "1" else "0"
  if (← element.enable value) ≠ value then
    .error (.runtimeError "IIO channel enable readback mismatch")
  else
    match selected with
    | none => return none
    | some channel =>
        let type ← element.type
        checkType element.name channel type
        let index ← element.index
        return some ⟨index, channel⟩

def scanChannels (kind : ImuKind) : List ScanElement → Except Thrown (List ScanChannel)
  | [] => .ok []
  | element :: rest => do
      let found ← scanChannel kind element
      let channels ← scanChannels kind rest
      return found.toList ++ channels

section Layout
variable {K : Type}

/-- The loop over the sorted channels. The result holds the end of the last field. -/
def placeChannels (device : ImuDevice K) (offset : Nat) (previous : Int) :
    List ScanChannel → Except Thrown (ImuDevice K × Nat)
  | [] => .ok (device, offset)
  | channel :: rest =>
      if channel.index < 0 ∨ channel.index = previous then
        .error (.runtimeError "invalid IIO scan index")
      else
        let bytes := channel.channel.bytes
        let start := (offset + bytes - 1) / bytes * bytes
        placeChannels (device.setOffset start channel.channel) (start + bytes) channel.index rest

def loadLayout (device : ImuDevice K) (scan : ScanDirectory) : Except Thrown (ImuDevice K) := do
  let channels ← scanChannels device.kind scan.elements
  if channels.length ≠ 4 then .error (.runtimeError "IIO needs xyz and timestamp channels")
  else
    let sorted := channels.mergeSort fun first second => first.index ≤ second.index
    let (device, offset) ← placeChannels device 0 (-1) sorted
    return { device with recordBytes := ((offset + 7) / 8 * 8 : Nat) }

end Layout

section Runner
variable {K : Type} [Zero K] [LinearOrder K]

/-- The checks of the runner on one device. Every scale is finite here. -/
def acceptDevice (device : ImuDevice K) : Except String (ImuDev K) :=
  if record : device.recordBytes < 8 ∨ device.recordBytes > 65536 ∨ device.timestampOffset < 0 ∨
      device.timestampOffset > device.recordBytes - 8 ∨ device.scale ≤ 0 then
    .error "invalid IMU record description"
  else if axes : ∃ axis, device.axisOffsets axis < 0 ∨
      device.axisOffsets axis > device.recordBytes - 2 then
    .error "invalid IMU axis offset"
  else
    .ok
      { kind := device.kind
        chardev := device.chardev
        record := device.recordBytes.toNat
        timestampOffset := device.timestampOffset.toNat
        axisOffsets := fun axis => (device.axisOffsets axis).toNat
        scale := device.scale
        recordBounds := by omega
        timestampInside := by omega
        axesInside := by
          intro axis
          have inside := not_exists.mp axes axis
          omega }

end Runner

/-- One channel of a record, as the sidecar has it. -/
structure Channel where
  name : String
  offset : Int
  endian : Endian
  signed : Bool
  bits : Nat
  storage : Nat
  shift : Nat
  deriving DecidableEq, Repr

structure SidecarDevice (K : Type) where
  sysfs : String
  chardev : String
  name : String
  odrHz : K
  scale : K
  timestampClock : String
  recordBytes : Int
  channels : List Channel
  file : String

/-- The object `devices` of the sidecar. -/
abbrev Sidecar (K : Type) := ImuKind → Option (SidecarDevice K)

def ImuKind.name : ImuKind → String
  | .accel => "accel"
  | .gyro => "gyro"

section Metadata
variable {K : Type}

def ImuDevice.describe (device : ImuDevice K) (channel : ImuChannel) : Channel where
  name := channel.name device.kind
  offset := device.offset channel
  endian := .little
  signed := true
  bits := channel.bits
  storage := channel.bytes
  shift := 0

def ImuDevice.channels (device : ImuDevice K) : List Channel := ImuChannel.all.map device.describe

def saveDevice (readName : String → Except Thrown String) (path : String) (sidecar : Sidecar K)
    (device : ImuDevice K) : Except Thrown (Sidecar K) := do
  let name ← readName device.sysfs
  return Function.update sidecar device.kind (some
    { sysfs := device.sysfs
      chardev := device.chardev
      name
      odrHz := device.rateHz
      scale := device.scale
      timestampClock := "monotonic"
      recordBytes := device.recordBytes
      channels := device.channels
      file := path ++ ".imu_" ++ device.kind.name ++ ".bin" })

def saveMetadata (readName : String → Except Thrown String) (path : String)
    (devices : List (ImuDevice K)) : Except Thrown (Sidecar K) :=
  devices.foldlM (saveDevice readName path) fun _ => none

end Metadata
end Vio
