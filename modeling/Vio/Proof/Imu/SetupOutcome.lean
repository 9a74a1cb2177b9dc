import Vio.Construction.MavlinkCodec
import Vio.Proof.Imu.SetupAtomic

namespace Vio
open Effects

namespace ImuDevices
variable {R : Type} {answers : SysfsAnswers} {numbers : NumberTexts R}
  {before after : ImuDevices R} {device : ImuDevice R}

/-- No attribute has changed, and no buffer is to be undone yet. -/
structure Untouched (before after : ImuDevices R) : Prop
    extends Changes (fun _ => False) before after where
  buffers : after.buffers = before.buffers

instance : IsPreorder (ImuDevices R) Untouched where
  refl _ := ⟨.same rfl rfl, rfl⟩
  trans _ _ _ first later :=
    ⟨Trans.trans first.toChanges later.toChanges, later.buffers.trans first.buffers⟩

theorem Quiet.untouched {A : Type} {program : Setup R A} (quiet : Keeps Quiet program) :
    Keeps Untouched program :=
  quiet.mono fun _ _ within => ⟨within.toChanges, within.buffers⟩

theorem checkDisabled_quiet (device : ImuDevice R) :
    Keeps Quiet (checkDisabled answers device) := by
  refine (directory_quiet _ _).bind fun buffer => (read_quiet _).bind fun text => ?_
  exact keeps_ite (keeps_throw _) (keeps_pure _)

/-- The buffer of a device is off. -/
def Off (answers : SysfsAnswers) (state : ImuDevices R) (device : ImuDevice R) : Prop :=
  ∃ buffer, bufferOf answers device = some buffer ∧ state.content (enableOf buffer) = some "0"

/-- A device that passes the check has its buffer off. -/
theorem checkDisabled_ok (ran : checkDisabled answers device before = .ok () after) :
    Off answers after device := by
  obtain ⟨buffer, _, located, ran⟩ := bind_ok ran
  obtain ⟨text, _, stored, ran⟩ := bind_ok ran
  split at ran
  · cases ran
  · rename_i same
    cases ran
    refine ⟨(device.sysfs, buffer), ?_, ?_⟩
    · rw [bufferOf, directory_ok located]
      rfl
    · rw [((read_quiet _).ok stored).content _ id, ← not_not.mp same]
      exact read_ok stored

/-- Devices that pass the check have their buffers off. -/
theorem checkAll_ok {devices : List (ImuDevice R)}
    (ran : devices.forM (checkDisabled answers) before = .ok ⟨⟩ after) :
    ∀ device ∈ devices, Off answers after device := by
  have rounds (device : ImuDevice R) (first last : ImuDevices R)
      (ran : checkDisabled answers device first = .ok ⟨⟩ last) : Off answers last device :=
    checkDisabled_ok ran
  refine forM_ok rounds ?_ ran
  rintro entry other state last ran ⟨buffer, own, off⟩
  refine ⟨buffer, own, ?_⟩
  rw [((checkDisabled_quiet other).ok ran).content _ id]
  exact off

section Scalar
variable [Scalar R]

/-- A discovery writes nothing. -/
theorem discover_untouched (sysfs nodes entry : String) :
    Keeps Untouched (discover answers sysfs nodes entry : Setup R Unit) := by
  refine (Quiet.untouched look_quiet).bind fun _ => keeps_ite ?_ (keeps_pure _)
  refine (Quiet.untouched (read_quiet _)).bind fun name => ?_
  split
  · exact keeps_pure _
  · refine keeps_get.bind fun state => keeps_ite (keeps_throw _) ?_
    exact fun state => ⟨.same rfl rfl, rfl⟩

/-- A round of the discovery adds at most one device, of a kind that is new. -/
theorem discover_ok {sysfs nodes entry : String}
    (ran : discover answers sysfs nodes entry before = .ok () after) :
    after.devices = before.devices ∨ ∃ device : ImuDevice R,
      after.devices = before.devices ++ [device] ∧ device.sysfs = sysfs ++ "/" ++ entry ∧
      device.kind ∉ before.devices.map ImuDevice.kind := by
  obtain ⟨_, looked, look, ran⟩ := bind_ok ran
  have lookedDevices := (look_quiet.ok look).devices
  split at ran
  · obtain ⟨name, middle, stored, ran⟩ := bind_ok ran
    have readDevices := ((read_quiet _).ok stored).devices
    cases kind : kindOf name with
    | none =>
        simp only [kind] at ran
        cases ran
        exact .inl (readDevices.trans lookedDevices)
    | some kind' =>
        simp only [kind] at ran
        obtain ⟨_, _, got, ran⟩ := bind_ok ran
        cases got
        split at ran
        · cases ran
        · rename_i new
          cases ran
          right
          let device : ImuDevice R :=
            { kind := kind', sysfs := sysfs ++ "/" ++ entry, chardev := nodes ++ "/" ++ entry
              scale := 0.0, rateHz := 0.0 }
          refine ⟨device, ?_, rfl, ?_⟩
          · exact congrArg (· ++ [device]) (readDevices.trans lookedDevices)
          · rw [← lookedDevices, ← readDevices]
            simpa using new
  · cases ran
    exact .inl lookedDevices

/-- Each entry gives one device at most, and no two devices are of one kind. -/
theorem discoverAll_ok {sysfs nodes : String} {entries : List String}
    (ran : entries.forM (discover answers sysfs nodes) before = .ok ⟨⟩ after)
    (kinds : (before.devices.map ImuDevice.kind).Nodup) :
    (after.devices.map ImuDevice.kind).Nodup ∧ ∃ new, after.devices = before.devices ++ new ∧
      (new.map ImuDevice.sysfs).Sublist (entries.map fun entry => sysfs ++ "/" ++ entry) := by
  induction entries generalizing before with
  | nil =>
      cases ran
      exact ⟨kinds, [], (List.append_nil _).symm, List.Sublist.refl _⟩
  | cons entry rest inductionHypothesis =>
      obtain ⟨_, middle, here, ran⟩ := bind_ok ran
      rcases discover_ok here with same | ⟨device, pushed, path, new⟩
      · obtain ⟨kinds, new, devices, paths⟩ := inductionHypothesis ran (by rwa [same])
        exact ⟨kinds, new, same ▸ devices, paths.cons _⟩
      · have kinds : (middle.devices.map ImuDevice.kind).Nodup := by
          rw [pushed, List.map_append]
          exact kinds.append (List.nodup_singleton _) fun kind old own =>
            new (List.mem_singleton.mp own ▸ old)
        obtain ⟨kinds, later, devices, paths⟩ := inductionHypothesis ran kinds
        refine ⟨kinds, device :: later, ?_, ?_⟩
        · rw [devices, pushed, List.append_assoc]
          rfl
        · rw [List.map_cons, List.map_cons, path]
          exact paths.cons_cons _

/-- The measurement of gravity writes nothing. -/
theorem sumGravity_quiet (path : String) (scale norm2 : R) (doubled : Bool) (axes : List String) :
    Keeps Quiet (sumGravity answers numbers path scale norm2 doubled axes) := by
  induction axes generalizing norm2 doubled with
  | nil => exact keeps_pure _
  | cons axis rest inductionHypothesis =>
      exact (readRaw_quiet _).bind fun _ => (lift_quiet _).bind fun _ => inductionHypothesis _ _

theorem checkGravity_quiet (path : String) : Keeps Quiet (checkGravity answers numbers path) := by
  refine (read_quiet _).bind fun _ => (lift_quiet _).bind fun _ =>
    (sumGravity_quiet _ _ _ _ _).bind fun _ => ?_
  exact keeps_ite (keeps_throw _) (keeps_pure _)

/-- The set-up writes nothing before it takes the devices over. -/
theorem prepare_untouched (sysfs nodes : String) :
    Keeps Untouched (prepare answers numbers sysfs nodes) := by
  refine (Quiet.untouched look_quiet).bind fun _ =>
    (keeps_forM fun entry _ => discover_untouched sysfs nodes entry).bind fun _ =>
      keeps_get.bind fun state => keeps_ite (keeps_throw _) ?_
  refine (Quiet.untouched (keeps_forM fun device _ => checkDisabled_quiet device)).bind fun _ => ?_
  split
  · exact keeps_pure _
  · exact Quiet.untouched (checkGravity_quiet _)

/-- An accelerometer and a gyroscope in different directories, with their buffers off. -/
structure Prepared (answers : SysfsAnswers) (state : ImuDevices R) : Prop where
  kinds : (state.devices.map ImuDevice.kind).Perm [.accel, .gyro]
  distinct : (state.devices.map ImuDevice.sysfs).Nodup
  off : ∀ device ∈ state.devices, Off answers state device

/-- Two devices of different kinds are an accelerometer and a gyroscope. -/
theorem kinds_perm {kinds : List ImuKind} (distinct : kinds.Nodup) (two : kinds.length = 2) :
    kinds.Perm [.accel, .gyro] := by
  have all : ∀ kind ∈ kinds, kind ∈ [ImuKind.accel, .gyro] := by
    intro kind _
    cases kind <;> decide
  exact (List.subperm_of_subset distinct all).perm_of_length_le (by rw [two]; exact Nat.le_refl 2)

/-- The first part ends with the two devices and their buffers off. -/
theorem prepare_ok {sysfs nodes : String}
    (ran : prepare answers numbers sysfs nodes before = .ok () after) (fresh : before.devices = []) :
    Prepared answers after := by
  obtain ⟨_, looked, look, ran⟩ := bind_ok ran
  obtain ⟨_, found, discovered, ran⟩ := bind_ok ran
  obtain ⟨_, _, got, ran⟩ := bind_ok ran
  cases got
  have start : looked.devices = [] := (look_quiet.ok look).devices.trans fresh
  obtain ⟨kinds, new, devices, paths⟩ := discoverAll_ok discovered (by rw [start]; exact List.nodup_nil)
  rw [start, List.nil_append] at devices
  dsimp only at ran
  split at ran
  · cases ran
  · rename_i two
    obtain ⟨_, checked, checks, ran⟩ := bind_ok ran
    have last : Quiet checked after := by
      cases accel : found.devices.find? fun device => decide (device.kind = .accel) with
      | none =>
          simp only [accel] at ran
          cases ran
          exact refl _
      | some accel =>
          simp only [accel] at ran
          exact (checkGravity_quiet _).ok ran
    have loop : Keeps Quiet (found.devices.forM (checkDisabled answers)) :=
      keeps_forM fun device _ => checkDisabled_quiet device
    have same : after.devices = found.devices := last.devices.trans (loop.ok checks).devices
    have injective : Function.Injective fun entry => sysfs ++ "/" ++ entry := by
      intro first second equal
      apply String.toList_injective
      have equal := congrArg String.toList equal
      simpa [String.toList_append] using equal
    constructor
    · rw [same]
      exact kinds_perm kinds (by rw [List.length_map]; exact not_not.mp two)
    · rw [same, devices]
      exact paths.nodup (answers.tree.distinct.map injective)
    · intro device member
      rw [same] at member
      obtain ⟨buffer, own, off⟩ := checkAll_ok checks device member
      exact ⟨buffer, own, (last.content _ id).trans off⟩

omit [Scalar R] in
/-- A buffer that was enabled is on. -/
theorem enableBuffer_ok {buffer : String × String}
    (ran : enableBuffer answers buffer before = .ok () after) :
    after.content (enableOf buffer) = some "1" := by
  obtain ⟨_, middle, _, ran⟩ := bind_ok ran
  obtain ⟨text, last, stored, ran⟩ := bind_ok ran
  split at ran
  · cases ran
  · rename_i same
    cases ran
    rw [((read_quiet _).ok stored).content _ id, read_ok stored, not_not.mp same]

omit [Scalar R] in
/-- After the loop all the buffers are on. -/
theorem enableAll_ok {buffers : List (String × String)}
    (ran : buffers.forM (enableBuffer answers) before = .ok ⟨⟩ after) :
    ∀ buffer ∈ buffers, after.content (enableOf buffer) = some "1" := by
  have rounds (buffer : String × String) (first last : ImuDevices R)
      (ran : enableBuffer answers buffer first = .ok ⟨⟩ last) :
      last.content (enableOf buffer) = some "1" :=
    enableBuffer_ok ran
  refine forM_ok rounds ?_ ran
  intro buffer other state last ran on
  by_cases same : buffer = other
  · rw [same]
    exact enableBuffer_ok ran
  · rw [((enableBuffer_within other).ok ran).content _ fun equal => same (enableOf_injective equal)]
    exact on

/-- The buffer of a device is on, and the device is configured. -/
structure Running (answers : SysfsAnswers) (state : ImuDevices R) (device : ImuDevice R) : Prop
    extends Configured answers state device where
  enabled : ∃ buffer, bufferOf answers device = some buffer ∧
    state.content (enableOf buffer) = some "1"

/-- What the constructor leaves where it returns. -/
structure Ready (answers : SysfsAnswers) (state : ImuDevices R) : Prop where
  kinds : (state.devices.map ImuDevice.kind).Perm [.accel, .gyro]
  running : ∀ device ∈ state.devices, Running answers state device
  undone : ∀ buffer, buffer ∈ state.buffers ↔
    ∃ device ∈ state.devices, bufferOf answers device = some buffer

omit [Scalar R] in
theorem map_bufferOf {devices others : List (ImuDevice R)}
    (same : devices.map ImuDevice.sysfs = others.map ImuDevice.sysfs) :
    devices.map (bufferOf answers) = others.map (bufferOf answers) := by
  let own (path : String) : Option (String × String) := (answers.tree.find path false).map (path, ·)
  have factor : bufferOf answers = own ∘ (ImuDevice.sysfs : ImuDevice R → String) := rfl
  rw [factor, ← List.map_map, ← List.map_map, same]

/-- The second part ends with both devices configured and their buffers on. -/
theorem takeOver_ok {watermark : Nat} (prepared : Prepared answers before) (none : before.buffers = [])
    (ran : takeOver answers numbers watermark before = .ok () after) : Ready answers after := by
  obtain ⟨_, _, got, ran⟩ := bind_ok ran
  cases got
  obtain ⟨devices, configured, ready, ran⟩ := bind_ok ran
  obtain ⟨_, _, moved, ran⟩ := bind_ok ran
  cases moved
  obtain ⟨_, _, got, ran⟩ := bind_ok ran
  cases got
  obtain ⟨sysfs, kinds, each, buffers⟩ := configureAll_ok prepared.distinct ready
  rw [none, List.map_nil, List.nil_append, ← map_bufferOf sysfs] at buffers
  have within := (enableAll_within configured.buffers).ok ran
  have on := enableAll_ok ran
  have undone (buffer : String × String) : buffer ∈ configured.buffers ↔
      ∃ device ∈ devices, bufferOf answers device = some buffer := by
    rw [← List.mem_map, ← buffers, List.mem_map]
    simp
  have same : after.devices = devices := within.devices
  constructor
  · rw [same, kinds]
    exact prepared.kinds
  · rw [same]
    intro device member
    obtain ⟨own, listed, here⟩ := List.mem_map.mp
      (buffers ▸ List.mem_map_of_mem member : bufferOf answers device ∈ configured.buffers.map some)
    have changes : Changes (fun path => ∃ buffer ∈ configured.buffers, path = enableOf buffer)
        configured after :=
      ⟨within.content, within.present, within.writes⟩
    refine ⟨(each device member).frame changes ?_, own, here.symm, on own listed⟩
    rintro path ⟨buffer, _, rfl⟩
    constructor
    · exact fun equal => absurd (congrArg AttributePath.name equal)
        (show "enable" ≠ "current_timestamp_clock" by decide)
    · exact fun scan enables => absurd enables.2.2
        (show ¬ (enabledName "enable").isSome by decide)
  · intro buffer
    rw [within.buffers, same]
    exact undone buffer

section Outcome
variable (cleans : ∀ number path old, answers.cleanup number path old "0" = ("0", true))
include cleans

omit [Scalar R] in
/-- The cleanup of a point in the set-up turns every expected buffer off. -/
theorem Guarded.disable {expected : List (String × String)} (guarded : Guarded expected before) :
    ∃ last, (disable answers : Setup R Unit) before = .ok () last ∧
      ∀ buffer ∈ expected, last.content (enableOf buffer) = some "0" := by
  obtain ⟨last, ran, within, off⟩ := disable_ok cleans before fun buffer listed =>
    guarded.present buffer (guarded.among buffer listed)
  refine ⟨last, ran, fun buffer member => ?_⟩
  by_cases listed : buffer ∈ before.buffers
  · exact off buffer listed
  · rw [within.content _ fun ⟨other, there, same⟩ => listed (enableOf_injective same ▸ there)]
    exact guarded.off buffer member listed

omit [Scalar R] in
/-- The destructor turns the buffers off, and nothing stops it. -/
theorem Ready.disable (ready : Ready answers before) :
    ∃ last, (disable answers : Setup R Unit) before = .ok () last ∧
      ∀ device ∈ before.devices, Off answers last device := by
  have enabled (buffer : String × String) (listed : buffer ∈ before.buffers) :
      (before.content (enableOf buffer)).isSome := by
    obtain ⟨device, member, own⟩ := (ready.undone buffer).mp listed
    obtain ⟨buffer', own', on⟩ := (ready.running device member).enabled
    rw [own] at own'
    rw [Option.some.inj own', on]
    rfl
  obtain ⟨last, ran, _, off⟩ := disable_ok cleans before enabled
  refine ⟨last, ran, fun device member => ?_⟩
  obtain ⟨buffer, own, _⟩ := (ready.running device member).enabled
  exact ⟨buffer, own, off buffer ((ready.undone buffer).mpr ⟨device, member, own⟩)⟩

omit [Scalar R] cleans in
/-- Before the second part no buffer is on. -/
theorem Prepared.guarded (prepared : Prepared answers before) (none : before.buffers = []) :
    Guarded (before.devices.filterMap (bufferOf answers)) before := by
  have off (buffer : String × String)
      (member : buffer ∈ before.devices.filterMap (bufferOf answers)) :
      before.content (enableOf buffer) = some "0" := by
    obtain ⟨device, listed, own⟩ := List.mem_filterMap.mp member
    obtain ⟨buffer', own', off⟩ := prepared.off device listed
    rw [own] at own'
    rwa [Option.some.inj own']
  refine ⟨?_, fun buffer member => ?_, fun buffer member _ => off buffer member⟩
  · rw [none]
    exact nofun
  · rw [off buffer member]
    rfl

omit cleans in
theorem construct_error {watermark : Nat} {sysfs nodes : String} {thrown : Thrown}
    {middle last : ImuDevices R} (valid : ¬ (watermark = 0 ∨ watermark > 1024))
    (failed : (do
        prepare answers numbers sysfs nodes
        takeOver answers numbers watermark : Setup R Unit) before = .error thrown middle)
    (cleaned : (disable answers : Setup R Unit) middle = .ok () last) :
    construct answers numbers watermark sysfs nodes before = .error thrown last := by
  rw [construct, if_neg valid, tryCatch_error failed, bind_eq cleaned]
  rfl

omit cleans in
/-- The constructor is its two parts. -/
theorem construct_ok {watermark : Nat} {sysfs nodes : String}
    (ran : construct answers numbers watermark sysfs nodes before = .ok () after) :
    ∃ prepared, prepare answers numbers sysfs nodes before = .ok () prepared ∧
      takeOver answers numbers watermark prepared = .ok () after := by
  unfold construct at ran
  split at ran
  · cases ran
  · cases body : (do
        prepare answers numbers sysfs nodes
        takeOver answers numbers watermark : Setup R Unit) before with
    | ok _ last =>
        rw [tryCatch_ok body] at ran
        cases ran
        obtain ⟨_, prepared, first, later⟩ := bind_ok body
        exact ⟨prepared, first, later⟩
    | error thrown middle =>
        rw [tryCatch_error body] at ran
        obtain ⟨_, _, _, threw⟩ := bind_ok ran
        cases threw

/-- The set-up of the IMU buffers takes all or nothing. Where it throws before its first write, no
attribute has changed. Where it throws later, the buffers of both devices are off. Where it returns,
both buffers are on, both clocks are monotonic and exactly the channels of the reader are enabled, and
the destructor turns both buffers off. -/
theorem setup_all_or_nothing (content : AttributePath → Option String) (watermark : Nat)
    (sysfs nodes : String) :
    let fresh : ImuDevices R := { content }
    (∀ thrown last, construct answers numbers watermark sysfs nodes fresh = .error thrown last →
      (watermark = 0 ∨ watermark > 1024 ∨
        ∃ early state, prepare answers numbers sysfs nodes fresh = .error early state) →
      last.content = content ∧ last.writes = []) ∧
    (∀ thrown last prepared, construct answers numbers watermark sysfs nodes fresh = .error thrown last →
      prepare answers numbers sysfs nodes fresh = .ok () prepared →
      (prepared.devices.map ImuDevice.kind).Perm [.accel, .gyro] ∧
        ∀ device ∈ prepared.devices, Off answers last device) ∧
    ∀ last, construct answers numbers watermark sysfs nodes fresh = .ok () last →
      (last.devices.map ImuDevice.kind).Perm [.accel, .gyro] ∧
        (∀ device ∈ last.devices, Running answers last device) ∧
        ∃ destroyed, (disable answers : Setup R Unit) last = .ok () destroyed ∧
          ∀ device ∈ last.devices, Off answers destroyed device := by
  intro fresh
  have invalid (bad : watermark = 0 ∨ watermark > 1024) :
      construct answers numbers watermark sysfs nodes fresh =
        .error (.invalidArgument "IIO watermark must be 1..1024") fresh := by
    rw [construct, if_pos bad]
    rfl
  refine ⟨fun thrown last ran early => ?_, fun thrown last prepared ran first => ?_, fun last ran => ?_⟩
  · by_cases bad : watermark = 0 ∨ watermark > 1024
    · rw [invalid bad] at ran
      cases ran
      exact ⟨rfl, rfl⟩
    · obtain ⟨error, middle, failed⟩ := (or_assoc.mpr early).resolve_left bad
      have untouched := (prepare_untouched sysfs nodes).error failed
      have none : middle.buffers = [] := untouched.buffers
      obtain ⟨cleaned, ranCleanup, within, _⟩ := disable_ok cleans middle (by rw [none]; exact nofun)
      rw [construct_error bad (bind_error failed) ranCleanup] at ran
      cases ran
      rw [none] at within
      have nothing (path : AttributePath) : ¬ ∃ buffer ∈ ([] : List (String × String)),
          path = enableOf buffer := fun ⟨_, member, _⟩ => nomatch member
      constructor
      · funext path
        exact (within.content path (nothing path)).trans (untouched.content path id)
      · exact (within.writes nothing).trans (untouched.writes fun _ => id)
  · have facts := prepare_ok first rfl
    have untouched := (prepare_untouched sysfs nodes).ok first
    refine ⟨facts.kinds, fun device member => ?_⟩
    obtain ⟨buffer, own, off⟩ := facts.off device member
    refine ⟨buffer, own, ?_⟩
    by_cases bad : watermark = 0 ∨ watermark > 1024
    · rw [invalid bad] at ran
      cases ran
      rwa [← untouched.content _ id]
    · cases later : takeOver answers numbers watermark prepared with
      | ok _ last =>
          rw [construct, if_neg bad, tryCatch_ok ((bind_eq first).trans later)] at ran
          cases ran
      | error thrown middle =>
          have expected : ∀ device ∈ prepared.devices,
              ∃ buffer ∈ prepared.devices.filterMap (bufferOf answers),
                bufferOf answers device = some buffer := by
            intro device listed
            obtain ⟨buffer, own, _⟩ := facts.off device listed
            exact ⟨buffer, List.mem_filterMap.mpr ⟨device, listed, own⟩, own⟩
          have guarded :=
            (facts.guarded untouched.buffers).takeOver expected numbers watermark
          rw [final_error later] at guarded
          obtain ⟨cleaned, ranCleanup, undone⟩ := guarded.disable cleans
          rw [construct_error bad ((bind_eq first).trans later) ranCleanup] at ran
          cases ran
          exact undone buffer (List.mem_filterMap.mpr ⟨device, member, own⟩)
  · obtain ⟨prepared, first, later⟩ := construct_ok ran
    have untouched := (prepare_untouched sysfs nodes).ok first
    have ready := takeOver_ok (prepare_ok first rfl) untouched.buffers later
    exact ⟨ready.kinds, ready.running, ready.disable cleans⟩

end Outcome

end Scalar
/-- The names in a scan directory of four channels. -/
def sampleScan (stem : String) : List String :=
  [stem ++ "x_en", stem ++ "x_index", stem ++ "x_type", stem ++ "y_en", stem ++ "y_index",
    stem ++ "y_type", stem ++ "z_en", stem ++ "z_index", stem ++ "z_type", "in_timestamp_en",
    "in_timestamp_index", "in_timestamp_type"]

def sampleFolder (device name : String) : Option (List String) :=
  if name = "buffer0" then some ["enable", "length", "watermark"]
  else if name = "scan_elements" then
    if device = "/sys/iio:device0" then some (sampleScan "in_accel_")
    else some (sampleScan "in_anglvel_")
  else none

/-- The sample directory lists no name twice. -/
theorem sampleFolder_nodup (device name : String) (names : List String)
    (listed : sampleFolder device name = some names) : names.Nodup := by
  unfold sampleFolder at listed
  split at listed
  · cases listed
    decide
  · split at listed
    · split at listed <;> cases listed <;> decide
    · cases listed

theorem sampleEntries_nodup : ["iio:device0", "iio:device1"].Nodup := by decide

/-- Two devices whose attributes take each write, except that the rate may be fixed. -/
def sampleAnswers (fixed : Bool) : SysfsAnswers where
  tree :=
    { entries := ["iio:device0", "iio:device1"]
      distinct := sampleEntries_nodup
      folder := sampleFolder
      listed := sampleFolder_nodup }
  look _ := none
  reads _ _ := true
  raw _ path := some (if path.name = "in_accel_z_raw" then "2048" else "0")
  write _ path old value :=
    if fixed ∧ path.name = "sampling_frequency" then (old, false) else (value, true)
  cleanup _ _ _ value := (value, true)

def sampleNumbers : NumberTexts Exact where
  stod text :=
    if text = "416" then .ok 416.0
    else if text = "0.004788" then .ok 0.004788
    else if text = "0.001065" then .ok 0.001065
    else .error (.invalidArgument "stod")
  stoi text :=
    if text = "0" then .ok 0
    else if text = "1" then .ok 1
    else if text = "2" then .ok 2
    else if text = "3" then .ok 3
    else if text = "2048" then .ok 2048
    else .error (.invalidArgument "stoi")
  extract text :=
    if text = "0.000598 0.004788" then [0.000598, 0.004788]
    else if text = "0.000153 0.001065" then [0.000153, 0.001065]
    else []
  print value := if Scalar.lt value 0.002 then "0.001065" else "0.004788"
  fromInt number := ⟨some number⟩
  pow value _ := value * value
  acos _ := 3.141592653589793

/-- The attributes of the devices at rest. -/
def sampleContent (path : AttributePath) : Option String :=
  let accel := path.device = "/sys/iio:device0"
  if path.folder = some "buffer0" then
    if path.name = "enable" then some "0"
    else if path.name = "length" then some "128"
    else if path.name = "watermark" then some "1"
    else none
  else if path.folder = some "scan_elements" then
    if "_type".toList <:+ path.name.toList then
      some (if path.name = "in_timestamp_type" then "le:s64/64>>0" else "le:s16/16>>0")
    else if "_en".toList <:+ path.name.toList then some "0"
    else
      some (if path.name = "in_timestamp_index" then "3"
        else if "z_index".toList <:+ path.name.toList then "2"
        else if "y_index".toList <:+ path.name.toList then "1"
        else "0")
  else if path.name = "name" then some (if accel then "lsm6dsx_accel" else "lsm6dsx_gyro")
  else if path.name = "current_timestamp_clock" then some "realtime"
  else if path.name = "sampling_frequency" then some "416"
  else if path.name = "in_accel_scale" then some "0.004788"
  else if path.name = "in_anglvel_scale" then some "0.001065"
  else if path.name = "in_accel_scale_available" then some "0.000598 0.004788"
  else if path.name = "in_anglvel_scale_available" then some "0.000153 0.001065"
  else none

/-- The number of writes before the throw, if there is one. -/
def writesAtThrow {A : Type} : EStateM.Result Thrown (ImuDevices Exact) A → Option Nat
  | .ok _ _ => none
  | .error _ last => some last.writes.length

/-- The loop that configures the devices, in a form that computes. -/
theorem configureAll_mapM' {R : Type} [Scalar R] (answers : SysfsAnswers) (numbers : NumberTexts R)
    (watermark : Nat) (devices : List (ImuDevice R)) :
    configureAll answers numbers watermark devices =
      devices.mapM' (configure answers numbers watermark) := by
  induction devices with
  | nil => rfl
  | cons device rest inductionHypothesis =>
      rw [configureAll, List.mapM'_cons, inductionHypothesis]

/-- With a fixed rate the set-up throws at its third write, and its cleanup writes once. -/
theorem sample_fails : writesAtThrow (construct (sampleAnswers true) sampleNumbers 8 "/sys" "/dev"
    { content := sampleContent }) = some 4 := by decide +kernel

theorem sample_prepares : writesAtThrow (prepare (sampleAnswers true) sampleNumbers "/sys" "/dev"
    { content := sampleContent }) = none := by decide +kernel

/-- Where every write succeeds, nothing is thrown. -/
theorem sample_succeeds : writesAtThrow (construct (sampleAnswers false) sampleNumbers 8 "/sys" "/dev"
    { content := sampleContent }) = none := by
  simp only [construct, takeOver, configureAll_mapM']
  delta configure configureBuffer loadLayout
  simp only [mergeSort_insertions]
  decide +kernel

/-- A set-up that throws leaves both devices off, and one that returns leaves both running until its
destructor. -/
theorem setup_all_or_nothing_sample :
    (∃ thrown last prepared,
      construct (sampleAnswers true) sampleNumbers 8 "/sys" "/dev" { content := sampleContent } =
          .error thrown last ∧
        prepare (sampleAnswers true) sampleNumbers "/sys" "/dev" { content := sampleContent } =
          .ok () prepared ∧
        last.writes.length = 4 ∧ prepared.devices.length = 2 ∧
        ∀ device ∈ prepared.devices, Off (sampleAnswers true) last device) ∧
    ∃ last destroyed,
      construct (sampleAnswers false) sampleNumbers 8 "/sys" "/dev" { content := sampleContent } =
          .ok () last ∧
        last.devices.length = 2 ∧ (∀ device ∈ last.devices, Running (sampleAnswers false) last device) ∧
        (disable (sampleAnswers false) : Setup Exact Unit) last = .ok () destroyed ∧
        ∀ device ∈ last.devices, Off (sampleAnswers false) destroyed device := by
  have outcome (fixed : Bool) := @setup_all_or_nothing Exact (sampleAnswers fixed) sampleNumbers _
    (fun _ _ _ => rfl) sampleContent 8 "/sys" "/dev"
  constructor
  · have fails := sample_fails
    have prepares := sample_prepares
    cases run : construct (sampleAnswers true) sampleNumbers 8 "/sys" "/dev"
        { content := sampleContent } with
    | ok result last =>
        rw [run] at fails
        cases fails
    | error thrown last =>
        cases first : prepare (sampleAnswers true) sampleNumbers "/sys" "/dev"
            { content := sampleContent } with
        | error thrown prepared =>
            rw [first] at prepares
            cases prepares
        | ok result prepared =>
            rw [run] at fails
            obtain ⟨kinds, off⟩ := (outcome true).2.1 thrown last prepared run first
            refine ⟨thrown, last, prepared, rfl, rfl, Option.some.inj fails, ?_, off⟩
            simpa using kinds.length_eq
  · have succeeds := sample_succeeds
    cases run : construct (sampleAnswers false) sampleNumbers 8 "/sys" "/dev"
        { content := sampleContent } with
    | error thrown last =>
        rw [run] at succeeds
        cases succeeds
    | ok result last =>
        obtain ⟨kinds, running, destroyed, ended, off⟩ := (outcome false).2.2 last run
        refine ⟨last, destroyed, rfl, ?_, running, ended, off⟩
        simpa using kinds.length_eq

end ImuDevices
end Vio
