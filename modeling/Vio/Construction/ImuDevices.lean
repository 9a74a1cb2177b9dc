/-
This file holds the set-up of the two IMU buffers in sysfs and its undoing. An attribute is one line
of text. Each access to sysfs may fail, and a write that fails may have changed its attribute; nobody
else changes one, except the sensor its raw samples. The accesses are numbered, so that a kernel can
answer each one differently. The conversions between texts and numbers are parameters. The field
`writes` is not in the source: it records the writes, newest first, and no modelled function reads it.
-/

import Mathlib.Logic.Function.Basic
import Vio.Construction.ImuDevice
import Vio.Library.RecordScan

namespace Vio

structure AttributePath where
  device : String
  folder : Option String := none
  name : String
  deriving DecidableEq, Repr

def AttributePath.string (path : AttributePath) : String :=
  match path.folder with
  | none => path.device ++ "/" ++ path.name
  | some folder => path.device ++ "/" ++ folder ++ "/" ++ path.name

/-- The directories of sysfs, with different names in each of them. -/
structure SysfsTree where
  entries : List String
  distinct : entries.Nodup
  /-- The names in a folder of a device, if there is such a folder. -/
  folder : String → String → Option (List String)
  listed : ∀ device name names, folder device name = some names → names.Nodup

/-- How sysfs answers an access with a number. -/
structure SysfsAnswers where
  tree : SysfsTree
  /-- A look at a directory or for a file. -/
  look : Nat → Option Thrown
  reads : Nat → AttributePath → Bool
  raw : Nat → AttributePath → Option String
  /-- What a write of a text over another one leaves there, and whether it succeeds. -/
  write : Nat → AttributePath → String → String → String × Bool
  cleanup : Nat → AttributePath → String → String → String × Bool

/-- The conversions of the standard library, and its functions of doubles. -/
structure NumberTexts (R : Type) where
  stod : String → Except Thrown R
  stoi : String → Except Thrown Int
  /-- The numbers that a stream gives until it fails. -/
  extract : String → List R
  /-- Twelve significant digits. -/
  print : R → String
  fromInt : Int → R
  pow : R → R → R
  acos : R → R

/-- The devices of a capture, with the attributes of sysfs. -/
structure ImuDevices (R : Type) where
  content : AttributePath → Option String
  accesses : Nat := 0
  devices : List (ImuDevice R) := []
  /-- The device and the folder of each buffer to undo. -/
  buffers : List (String × String) := []
  writes : List (AttributePath × String) := []

namespace ImuDevices
variable {R : Type}

abbrev Setup (R A : Type) := EStateM Thrown (ImuDevices R) A

def access : Setup R Nat :=
  modifyGet fun state => (state.accesses, { state with accesses := state.accesses + 1 })

/-- A step without an access. -/
def lift {A : Type} : Except Thrown A → Setup R A
  | .ok value => pure value
  | .error thrown => throw thrown

section Attributes
variable (answers : SysfsAnswers)

def look : Setup R Unit := do
  match answers.look (← access) with
  | none => pure ()
  | some thrown => throw thrown

def read (path : AttributePath) : Setup R String := do
  let number ← access
  let failed := Thrown.runtimeError ("cannot read IIO attribute " ++ path.string)
  match (← get).content path with
  | none => throw failed
  | some text =>
      if answers.reads number path = false ∨ text = "" then throw failed else pure text

/-- A read of a sample, which the sensor changes. -/
def readRaw (path : AttributePath) : Setup R String := do
  let failed := Thrown.runtimeError ("cannot read IIO attribute " ++ path.string)
  match answers.raw (← access) path with
  | none => throw failed
  | some text => if text = "" then throw failed else pure text

/-- The body of a write, for one kind of answers. -/
def store (answer : Nat → AttributePath → String → String → String × Bool) (path : AttributePath)
    (value : String) : Setup R Unit := do
  let number ← access
  match (← get).content path with
  | none => throw (.runtimeError ("missing IIO attribute " ++ path.string))
  | some old =>
      modify fun state =>
        { state with
          content := Function.update state.content path (answer number path old value).1
          writes := (path, value) :: state.writes }
      if (answer number path old value).2 then pure ()
      else throw (.runtimeError ("cannot write IIO attribute " ++ path.string))

def write (path : AttributePath) (value : String) : Setup R Unit := do
  look answers
  store answers.write path value

def enabledName (entry : String) : Option String :=
  if "_en".toList <:+ entry.toList then some (String.ofList (entry.toList.dropLast.dropLast.dropLast))
  else none

/-- The loop over the names of the folder. -/
def findDirectory (device : String) (scan : Bool) : List String → Setup R String
  | [] => throw (.runtimeError ("missing IIO buffer/scan directory: " ++ device))
  | name :: rest => do
      look answers
      match answers.tree.folder device name with
      | none => findDirectory device scan rest
      | some names =>
          if scan then
            look answers
            if names.any fun entry => entry.length > 3 && (enabledName entry).isSome then pure name
            else findDirectory device scan rest
          else if name ≠ "scan_elements" then pure name
          else findDirectory device scan rest

def directory (device : String) (scan : Bool) : Setup R String :=
  findDirectory answers device scan ["scan_elements", "buffer0", "buffer"]

variable [Scalar R] (numbers : NumberTexts R)

def nearestScale (target : R) (best : Option R) : List R → Except Thrown (Option R)
  | [] => .ok best
  | candidate :: rest =>
      if !Scalar.isFinite candidate || Scalar.le candidate 0.0 then
        .error (.runtimeError "invalid IIO scale")
      else
        let closer := best.all fun best =>
          Scalar.lt (Scalar.abs (candidate - target)) (Scalar.abs (best - target))
        nearestScale target (if closer then some candidate else best) rest

def selectScale (device name : String) (target : R) : Setup R R := do
  let values ← read answers { device, name := name ++ "_available" }
  match ← lift (nearestScale target none (numbers.extract values)) with
  | none => throw (.runtimeError "no available IIO scales")
  | some best =>
      write answers { device, name } (numbers.print best)
      let best ← lift (numbers.stod (← read answers { device, name }))
      if !Scalar.isFinite best || Scalar.le best 0.0 then
        throw (.runtimeError "invalid IIO scale readback")
      else pure best

/-- The part of the loop over the scan directory for one entry. -/
def scanEntry (device : ImuDevice R) (scan entry : String) : Setup R (Option ScanChannel) := do
  look answers
  match enabledName entry with
  | none => pure none
  | some name =>
      let selected := ImuChannel.ofName device.kind name
      let value := if selected.isSome then "1" else "0"
      let enable : AttributePath := { device := device.sysfs, folder := scan, name := entry }
      write answers enable value
      if (← read answers enable) ≠ value then
        throw (.runtimeError "IIO channel enable readback mismatch")
      else
        match selected with
        | none => pure none
        | some channel =>
            let type ← read answers { enable with name := name ++ "_type" }
            lift (checkType name channel type.toList)
            let index ← lift (numbers.stoi (← read answers { enable with name := name ++ "_index" }))
            pure (some ⟨index, channel⟩)

def scanEntries (device : ImuDevice R) (scan : String) : List String → Setup R (List ScanChannel)
  | [] => pure []
  | entry :: rest => do
      let found ← scanEntry answers numbers device scan entry
      let channels ← scanEntries device scan rest
      pure (found.toList ++ channels)

def loadLayout (device : ImuDevice R) (scan : String) : Setup R (ImuDevice R) := do
  look answers
  let channels ← scanEntries answers numbers device scan
    ((answers.tree.folder device.sysfs scan).getD [])
  if channels.length ≠ 4 then throw (.runtimeError "IIO needs xyz and timestamp channels")
  else
    let sorted := channels.mergeSort fun first second => first.index ≤ second.index
    let (device, offset) ← lift (placeChannels device 0 (-1) sorted)
    pure { device with recordBytes := ((offset + 7) / 8 * 8 : Nat) }

end Attributes

section Construct
variable [Scalar R] (answers : SysfsAnswers) (numbers : NumberTexts R)

def occurs (text name : String) : Bool := (RecordScan.find text.toList name.toList).isSome

def kindOf (name : String) : Option ImuKind :=
  if occurs "accel" name then some .accel
  else if occurs "gyro" name || occurs "anglvel" name then some .gyro
  else none

/-- The part of the discovery for one entry. -/
def discover (sysfs nodes entry : String) : Setup R Unit := do
  look answers
  if "iio:device".toList <+: entry.toList then
    let path := sysfs ++ "/" ++ entry
    match kindOf (← read answers { device := path, name := "name" }) with
    | none => pure ()
    | some kind =>
        if (← get).devices.any fun device => device.kind = kind then
          throw (.runtimeError ("ambiguous IIO " ++ kind.name ++ " devices"))
        else
          let device : ImuDevice R :=
            { kind, sysfs := path, chardev := nodes ++ "/" ++ entry, scale := 0.0, rateHz := 0.0 }
          modify fun state => { state with devices := state.devices ++ [device] }
  else pure ()

def checkDisabled (device : ImuDevice R) : Setup R Unit := do
  let buffer ← directory answers device.sysfs false
  if (← read answers { device := device.sysfs, folder := buffer, name := "enable" }) ≠ "0" then
    throw (.runtimeError "IIO buffer already enabled")
  else pure ()

/-- The loop over the axes: the sum of the squares, and whether all samples repeat their byte. -/
def sumGravity (device : String) (scale norm2 : R) (doubled : Bool) :
    List String → Setup R (R × Bool)
  | [] => pure (norm2, doubled)
  | axis :: rest => do
      let raw ← lift (numbers.stoi
        (← readRaw answers { device, name := "in_accel_" ++ axis ++ "_raw" }))
      sumGravity device scale (norm2 + numbers.pow (numbers.fromInt raw * scale) 2.0)
        (doubled && raw % 65536 / 256 = raw % 256) rest

def checkGravity (device : String) : Setup R Unit := do
  let scale ← lift (numbers.stod (← read answers { device, name := "in_accel_scale" }))
  let (norm2, doubled) ← sumGravity answers numbers device scale 0.0 true ["x", "y", "z"]
  if doubled || !Scalar.isFinite norm2 || Scalar.le norm2 (8.3 * 8.3) ||
      Scalar.le (11.3 * 11.3) norm2 then
    throw (.runtimeError "IMU gravity check failed; hold still and check sensor wiring")
  else pure ()

/-- The discovery of the devices and the checks before the first write. -/
def prepare (sysfs nodes : String) : Setup R Unit := do
  look answers
  answers.tree.entries.forM (discover answers sysfs nodes)
  let devices := (← get).devices
  if devices.length ≠ 2 then throw (.runtimeError "missing IIO accelerometer or gyroscope")
  else
    devices.forM (checkDisabled answers)
    -- Two devices of different kinds include an accelerometer.
    match devices.find? fun device => device.kind = .accel with
    | none => pure ()
    | some accel => checkGravity answers numbers accel.sysfs

def enableOf (buffer : String × String) : AttributePath where
  device := buffer.1
  folder := buffer.2
  name := "enable"

def clockOf (device : String) : AttributePath where
  device
  name := "current_timestamp_clock"

def setClock (device : String) : Setup R Unit := do
  write answers (clockOf device) "monotonic"
  if (← read answers (clockOf device)) ≠ "monotonic" then
    throw (.runtimeError "IIO clock is not monotonic")
  else pure ()

def setRate (device : String) : Setup R R := do
  write answers { device, name := "sampling_frequency" } "416"
  let rateHz ← lift (numbers.stod (← read answers { device, name := "sampling_frequency" }))
  if !Scalar.isFinite rateHz || Scalar.lt 0.1 (Scalar.abs (rateHz - 416.0)) then
    throw (.runtimeError "unexpected IIO sample rate")
  else pure rateHz

def setScale (device : ImuDevice R) : Setup R R :=
  match device.kind with
  | .accel => selectScale answers numbers device.sysfs "in_accel_scale" (16.0 * 9.80665 / 32768.0)
  | .gyro =>
      selectScale answers numbers device.sysfs "in_anglvel_scale"
        (2000.0 * numbers.acos (-1.0) / 180.0 / 32768.0)

/-- The watermark is optional. -/
def setLength (watermark : Nat) (buffer : String × String) : Setup R Unit := do
  let setting (name : String) : AttributePath := { device := buffer.1, folder := buffer.2, name }
  look answers
  if ((← get).content (setting "watermark")).isSome then
    write answers (setting "watermark") (toString watermark)
  write answers (setting "length") "4096"

/-- The body of the loop that configures the devices, after the buffer is to be undone. -/
def configureBuffer (watermark : Nat) (device : ImuDevice R) (buffer : String) :
    Setup R (ImuDevice R) := do
  write answers (enableOf (device.sysfs, buffer)) "0"
  setClock answers device.sysfs
  let rateHz ← setRate answers numbers device.sysfs
  let scale ← setScale answers numbers device
  let scan ← directory answers device.sysfs true
  let laid ← loadLayout answers numbers { device with rateHz, scale } scan
  setLength answers watermark (device.sysfs, buffer)
  pure laid

def configure (watermark : Nat) (device : ImuDevice R) : Setup R (ImuDevice R) := do
  let buffer ← directory answers device.sysfs false
  modify fun state => { state with buffers := state.buffers ++ [(device.sysfs, buffer)] }
  configureBuffer answers numbers watermark device buffer

/-- The loop that configures the devices, which are then replaced as a whole. -/
def configureAll (watermark : Nat) : List (ImuDevice R) → Setup R (List (ImuDevice R))
  | [] => pure []
  | device :: rest => do
      let device ← configure answers numbers watermark device
      let others ← configureAll watermark rest
      pure (device :: others)

def enableBuffer (buffer : String × String) : Setup R Unit := do
  write answers (enableOf buffer) "1"
  if (← read answers (enableOf buffer)) ≠ "1" then
    throw (.runtimeError "IIO enable readback failed")
  else pure ()

/-- The part of the constructor that writes attributes. -/
def takeOver (watermark : Nat) : Setup R Unit := do
  let devices ← configureAll answers numbers watermark (← get).devices
  modify fun state => { state with devices }
  (← get).buffers.forM (enableBuffer answers)

/-- The body of the loop of the cleanup, which prints its errors. -/
def disableBuffer (buffer : String × String) : Setup R Unit :=
  tryCatch (store answers.cleanup (enableOf buffer) "0") fun _ => pure ()

def disable : Setup R Unit := do
  (← get).buffers.forM (disableBuffer answers)

def construct (watermark : Nat) (sysfs nodes : String) : Setup R Unit := do
  if watermark = 0 ∨ watermark > 1024 then
    throw (.invalidArgument "IIO watermark must be 1..1024")
  else
    tryCatch
      (do
        prepare answers numbers sysfs nodes
        takeOver answers numbers watermark)
      fun thrown => do
        disable answers
        throw thrown

end Construct
end ImuDevices
end Vio
