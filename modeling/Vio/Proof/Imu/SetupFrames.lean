import Vio.Construction.ImuDevices
import Vio.Library.Effects

namespace Vio
open Effects

namespace ImuDevices
variable {R : Type}

/-- Only the touched attributes have changed, and each one is still there. -/
structure Changes (touched : AttributePath → Prop) (before after : ImuDevices R) : Prop where
  content : ∀ path, ¬ touched path → after.content path = before.content path
  present : ∀ path, (before.content path).isSome → (after.content path).isSome
  writes : (∀ path, ¬ touched path) → after.writes = before.writes

/-- A change of attributes alone. -/
structure Within (touched : AttributePath → Prop) (before after : ImuDevices R) : Prop
    extends Changes touched before after where
  buffers : after.buffers = before.buffers
  devices : after.devices = before.devices

/-- No attribute has changed. -/
abbrev Quiet : ImuDevices R → ImuDevices R → Prop := Within fun _ => False

variable {touched wider : AttributePath → Prop} {before after : ImuDevices R}

theorem Changes.same (content : after.content = before.content) (writes : after.writes = before.writes) :
    Changes touched before after :=
  ⟨fun _ _ => by rw [content], fun _ present => by rwa [content], fun _ => writes⟩

instance : IsPreorder (ImuDevices R) (Changes touched) where
  refl _ := .same rfl rfl
  trans _ _ _ first later :=
    ⟨fun path outside => (later.content path outside).trans (first.content path outside),
      fun path present => later.present path (first.present path present),
      fun none => (later.writes none).trans (first.writes none)⟩

instance : IsPreorder (ImuDevices R) (Within touched) where
  refl _ := ⟨.same rfl rfl, rfl, rfl⟩
  trans _ _ _ first later :=
    ⟨Trans.trans first.toChanges later.toChanges, later.buffers.trans first.buffers,
      later.devices.trans first.devices⟩

theorem Changes.mono (changes : Changes touched before after)
    (more : ∀ path, touched path → wider path) : Changes wider before after where
  content path outside := changes.content path fun inside => outside (more path inside)
  present := changes.present
  writes none := changes.writes fun path inside => none path (more path inside)

theorem Within.mono (within : Within touched before after)
    (more : ∀ path, touched path → wider path) : Within wider before after :=
  ⟨within.toChanges.mono more, within.buffers, within.devices⟩

section Accesses
variable {A : Type} {answers : SysfsAnswers} {program : Setup R A}

theorem Quiet.within (quiet : Keeps Quiet program) : Keeps (Within touched) program :=
  quiet.mono fun _ _ within => within.mono fun _ inside => inside.elim

theorem within_mono (within : Keeps (Within touched) program)
    (more : ∀ path, touched path → wider path) : Keeps (Within wider) program :=
  within.mono fun _ _ within => within.mono more

theorem access_quiet : Keeps Quiet (access : Setup R Nat) :=
  fun _ => ⟨.same rfl rfl, rfl, rfl⟩

theorem lift_quiet (value : Except Thrown A) : Keeps Quiet (lift value : Setup R A) := by
  cases value with
  | ok value => exact keeps_pure value
  | error thrown => exact keeps_throw thrown

/-- An access by itself changes nothing. -/
theorem look_quiet : Keeps Quiet (look answers : Setup R Unit) := by
  refine access_quiet.bind fun number => ?_
  split
  · exact keeps_pure _
  · exact keeps_throw _

/-- A read changes nothing. -/
theorem read_quiet (path : AttributePath) : Keeps Quiet (read answers path : Setup R String) := by
  refine access_quiet.bind fun number => keeps_get.bind fun state => ?_
  split
  · exact keeps_throw _
  · exact keeps_ite (keeps_throw _) (keeps_pure _)

/-- A read of a sample changes no attribute. -/
theorem readRaw_quiet (path : AttributePath) :
    Keeps Quiet (readRaw answers path : Setup R String) := by
  refine access_quiet.bind fun number => ?_
  split
  · exact keeps_throw _
  · exact keeps_ite (keeps_throw _) (keeps_pure _)

/-- A read returns the text of the attribute. -/
theorem read_ok {path : AttributePath} {text : String}
    (ran : read answers path before = .ok text after) : before.content path = some text := by
  obtain ⟨number, middle, counted, ran⟩ := bind_ok ran
  obtain ⟨state, same, got, ran⟩ := bind_ok ran
  cases counted
  cases got
  cases found : before.content path with
  | none =>
      simp only [found] at ran
      cases ran
  | some stored =>
      simp only [found] at ran
      split at ran
      · cases ran
      · cases ran
        rfl

/-- A write changes its attribute at most. -/
theorem store_within (answer : Nat → AttributePath → String → String → String × Bool)
    (path : AttributePath) (value : String) :
    Keeps (Within (· = path)) (store answer path value : Setup R Unit) := by
  refine (Quiet.within access_quiet).bind fun number => keeps_get.bind fun state => ?_
  split
  · exact keeps_throw _
  · rename_i old _
    refine Keeps.bind (fun state => ?_) fun _ => ?_
    · refine ⟨⟨?_, ?_, fun none => absurd rfl (none path)⟩, rfl, rfl⟩
      · intro other different
        exact Function.update_of_ne different _ _
      · intro other present
        change (Function.update state.content path (some _) other).isSome
        by_cases same : other = path
        · rw [same, Function.update_self]
          rfl
        · rwa [Function.update_of_ne same]
    · split
      · exact keeps_pure _
      · exact keeps_throw _

/-- What a write leaves in an attribute that is there. -/
theorem store_content {answer : Nat → AttributePath → String → String → String × Bool}
    {path : AttributePath} {value old : String} (stored : before.content path = some old) :
    (final (store answer path value : Setup R Unit) before).content path =
      some (answer before.accesses path old value).1 := by
  let counted : ImuDevices R := { before with accesses := before.accesses + 1 }
  have accessed : (access : Setup R Nat) before = .ok before.accesses counted := rfl
  have got : (get : Setup R (ImuDevices R)) counted = .ok counted counted := rfl
  rw [store, final_bind_ok accessed, final_bind_ok got]
  simp only [show counted.content path = some old from stored]
  let written : ImuDevices R :=
    { counted with
      content := Function.update counted.content path (answer before.accesses path old value).1
      writes := (path, value) :: counted.writes }
  have moved : (modify fun state =>
      { state with
        content := Function.update state.content path (answer before.accesses path old value).1
        writes := (path, value) :: state.writes } : Setup R PUnit) counted = .ok ⟨⟩ written := rfl
  rw [final_bind_ok moved]
  split
  · exact Function.update_self _ _ _
  · exact Function.update_self _ _ _

theorem write_within (path : AttributePath) (value : String) :
    Keeps (Within (· = path)) (write answers path value : Setup R Unit) :=
  (Quiet.within look_quiet).bind fun _ => store_within answers.write path value

/-- A search changes nothing. -/
theorem findDirectory_quiet (device : String) (scan : Bool) (names : List String) :
    Keeps Quiet (findDirectory answers device scan names : Setup R String) := by
  induction names with
  | nil => exact keeps_throw _
  | cons name rest inductionHypothesis =>
      refine look_quiet.bind fun _ => ?_
      split
      · exact inductionHypothesis
      · split
        · refine look_quiet.bind fun _ => ?_
          split
          · exact keeps_pure _
          · exact inductionHypothesis
        · split
          · exact keeps_pure _
          · exact inductionHypothesis

theorem directory_quiet (device : String) (scan : Bool) :
    Keeps Quiet (directory answers device scan : Setup R String) :=
  findDirectory_quiet device scan _

end Accesses

section Steps
variable [Scalar R] {answers : SysfsAnswers} {numbers : NumberTexts R}

/-- The choice of a scale changes its attribute at most. -/
theorem selectScale_within (device name : String) (target : R) :
    Keeps (Within (· = { device, name })) (selectScale answers numbers device name target) := by
  refine (Quiet.within (read_quiet _)).bind fun values =>
    (Quiet.within (lift_quiet _)).bind fun best => ?_
  cases best with
  | none => exact keeps_throw _
  | some best =>
      refine (write_within _ _).bind fun _ => (Quiet.within (read_quiet _)).bind fun text =>
        (Quiet.within (lift_quiet _)).bind fun best => ?_
      split
      · exact keeps_throw _
      · exact keeps_pure _

/-- The attributes that enable the channels of a scan directory. -/
def Enables (device scan : String) (path : AttributePath) : Prop :=
  path.device = device ∧ path.folder = some scan ∧ (enabledName path.name).isSome

omit [Scalar R] in
/-- An element changes its own enable attribute at most. -/
theorem scanEntry_within (device : ImuDevice R) (scan entry : String) :
    Keeps (Within fun path => path.name = entry ∧ Enables device.sysfs scan path)
      (scanEntry answers numbers device scan entry) := by
  refine (Quiet.within look_quiet).bind fun _ => ?_
  split
  · exact keeps_pure _
  · rename_i name named
    have enables : entry = entry ∧ Enables device.sysfs scan
        { device := device.sysfs, folder := scan, name := entry } := by
      refine ⟨rfl, rfl, rfl, ?_⟩
      rw [named]
      rfl
    dsimp only
    refine Keeps.bind (within_mono (write_within _ _) fun path same => same ▸ enables) fun _ =>
      (Quiet.within (read_quiet _)).bind fun text => keeps_ite (keeps_throw _) ?_
    cases ImuChannel.ofName device.kind name with
    | none => exact keeps_pure _
    | some channel =>
        exact (Quiet.within (read_quiet _)).bind fun _ => (Quiet.within (lift_quiet _)).bind fun _ =>
          (Quiet.within (read_quiet _)).bind fun _ => (Quiet.within (lift_quiet _)).bind fun _ =>
            keeps_pure _

omit [Scalar R] in
/-- The elements change their enable attributes at most. -/
theorem scanEntries_within (device : ImuDevice R) (scan : String) (entries : List String) :
    Keeps (Within fun path => path.name ∈ entries ∧ Enables device.sysfs scan path)
      (scanEntries answers numbers device scan entries) := by
  induction entries with
  | nil => exact keeps_pure _
  | cons entry rest inductionHypothesis =>
      refine Keeps.bind (within_mono (scanEntry_within device scan entry) fun path inside => ?_)
        fun _ => Keeps.bind (within_mono inductionHypothesis fun path inside => ?_) fun _ =>
          keeps_pure _
      · exact ⟨inside.1 ▸ List.mem_cons_self .., inside.2⟩
      · exact ⟨List.mem_cons_of_mem _ inside.1, inside.2⟩

omit [Scalar R] in
/-- The layout changes the enable attributes of its directory at most. -/
theorem loadLayout_within (device : ImuDevice R) (scan : String) :
    Keeps (Within (Enables device.sysfs scan)) (loadLayout answers numbers device scan) := by
  refine (Quiet.within look_quiet).bind fun _ =>
    Keeps.bind (within_mono (scanEntries_within device scan _) fun _ inside => inside.2) fun _ => ?_
  split
  · exact keeps_throw _
  · exact (Quiet.within (lift_quiet _)).bind fun _ => keeps_pure _

omit [Scalar R] in
/-- The clock of a device changes its attribute at most. -/
theorem setClock_within (device : String) :
    Keeps (Within (· = clockOf device)) (setClock answers device : Setup R Unit) := by
  refine (write_within _ _).bind fun _ => (Quiet.within (read_quiet _)).bind fun text => ?_
  split
  · exact keeps_throw _
  · exact keeps_pure _

/-- The rate changes its attribute at most. -/
theorem setRate_within (device : String) :
    Keeps (Within (· = { device, name := "sampling_frequency" }))
      (setRate answers numbers device) := by
  refine (write_within _ _).bind fun _ => (Quiet.within (read_quiet _)).bind fun text =>
    (Quiet.within (lift_quiet _)).bind fun _ => ?_
  split
  · exact keeps_throw _
  · exact keeps_pure _

/-- The scale attribute of a device. -/
def scaleOf (device : ImuDevice R) : AttributePath where
  device := device.sysfs
  name := device.kind.stem ++ "scale"

/-- The scale of a device changes its attribute at most. -/
theorem setScale_within (device : ImuDevice R) :
    Keeps (Within (· = scaleOf device)) (setScale answers numbers device) := by
  unfold setScale scaleOf
  cases device.kind with
  | accel => exact selectScale_within _ _ _
  | gyro => exact selectScale_within _ _ _

omit [Scalar R] in
/-- The length changes the two attributes of the buffer at most. -/
theorem setLength_within (watermark : Nat) (buffer : String × String) :
    Keeps (Within fun path => path.device = buffer.1 ∧
      (path.name = "watermark" ∨ path.name = "length"))
      (setLength answers watermark buffer : Setup R Unit) := by
  have length : Keeps (Within fun path => path.device = buffer.1 ∧
      (path.name = "watermark" ∨ path.name = "length"))
      (write answers { device := buffer.1, folder := buffer.2, name := "length" } "4096" :
        Setup R Unit) :=
    within_mono (write_within _ _) fun path same => same ▸ ⟨rfl, .inr rfl⟩
  refine (Quiet.within look_quiet).bind fun _ => keeps_get.bind fun state => ?_
  dsimp only
  split
  · exact Keeps.bind
      (within_mono (write_within _ _) fun path same => same ▸ ⟨rfl, .inl rfl⟩) fun _ => length
  · exact length

/-- The attributes of a device, and of the enable attributes only the one of the buffer. -/
def OfBuffer (buffer : String × String) (path : AttributePath) : Prop :=
  path.device = buffer.1 ∧ (path.name = "enable" → path = enableOf buffer)

/-- The attributes that enable channels are not those that enable buffers. -/
theorem Enables.ofBuffer {device scan buffer : String} {path : AttributePath}
    (enables : Enables device scan path) : OfBuffer (device, buffer) path := by
  refine ⟨enables.1, fun enable => ?_⟩
  have named := enables.2.2
  rw [enable] at named
  exact absurd named (by decide)

/-- Of the enable attributes of buffers, a device changes its own at most. -/
theorem configureBuffer_within (watermark : Nat) (device : ImuDevice R) (buffer : String) :
    Keeps (Within (OfBuffer (device.sysfs, buffer)))
      (configureBuffer answers numbers watermark device buffer) := by
  have other (path : AttributePath) (same : path.device = device.sysfs)
      (different : path.name ≠ "enable") : OfBuffer (device.sysfs, buffer) path :=
    ⟨same, fun enable => absurd enable different⟩
  refine Keeps.bind (within_mono (write_within _ _) fun path same => ?_) fun _ =>
    Keeps.bind (within_mono (setClock_within _) fun path same => ?_) fun _ =>
    Keeps.bind (within_mono (setRate_within _) fun path same => ?_) fun _ =>
    Keeps.bind (within_mono (setScale_within _) fun path same => ?_) fun _ =>
    (Quiet.within (directory_quiet _ _)).bind fun _ =>
    Keeps.bind (within_mono (loadLayout_within _ _) fun path enables => enables.ofBuffer) fun _ =>
    Keeps.bind (within_mono (setLength_within _ _) fun path inside => ?_) fun _ => keeps_pure _
  · exact same ▸ ⟨rfl, fun _ => rfl⟩
  · exact same ▸ other _ rfl (show "current_timestamp_clock" ≠ "enable" by decide)
  · exact same ▸ other _ rfl (show "sampling_frequency" ≠ "enable" by decide)
  · have different : ∀ kind : ImuKind, kind.stem ++ "scale" ≠ "enable" := by
      intro kind
      cases kind <;> decide
    exact same ▸ other _ rfl (different device.kind)
  · obtain ⟨named, watermark | length⟩ := inside
    · exact other path named (watermark ▸ by decide)
    · exact other path named (length ▸ by decide)

omit [Scalar R] in
/-- An enabled buffer changes its attribute at most. -/
theorem enableBuffer_within (buffer : String × String) :
    Keeps (Within (· = enableOf buffer)) (enableBuffer answers buffer : Setup R Unit) := by
  refine (write_within _ _).bind fun _ => (Quiet.within (read_quiet _)).bind fun text => ?_
  split
  · exact keeps_throw _
  · exact keeps_pure _

end Steps
end ImuDevices
end Vio
