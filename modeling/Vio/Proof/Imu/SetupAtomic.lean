import Vio.Proof.Imu.SetupLayout

namespace Vio
open Effects

namespace ImuDevices
variable {R : Type} {answers : SysfsAnswers} {numbers : NumberTexts R}
  {touched : AttributePath → Prop} {before after : ImuDevices R} {device : ImuDevice R}

/-- The x, y, z and timestamp channels of a device are enabled, and no other channel is. -/
def ChannelsEnabled (answers : SysfsAnswers) (state : ImuDevices R) (device : ImuDevice R) : Prop :=
  ∃ scan names, answers.tree.find device.sysfs true = some scan ∧
    answers.tree.folder device.sysfs scan = some names ∧
    (∀ channel : ImuChannel, channel.name device.kind ++ "_en" ∈ names ∧
      state.content (channelPath device.sysfs scan (channel.name device.kind) "_en") = some "1") ∧
    ∀ name, name ++ "_en" ∈ names → (∀ channel : ImuChannel, channel.name device.kind ≠ name) →
      state.content (channelPath device.sysfs scan name "_en") = some "0"

/-- A device before its buffer is enabled. -/
structure Configured (answers : SysfsAnswers) (state : ImuDevices R) (device : ImuDevice R) :
    Prop where
  clock : state.content (clockOf device.sysfs) = some "monotonic"
  channels : ChannelsEnabled answers state device

/-- Changes elsewhere leave a device configured. -/
theorem Configured.frame (configured : Configured answers before device)
    (changes : Changes touched before after)
    (outside : ∀ path, touched path → path ≠ clockOf device.sysfs ∧
      ∀ scan, ¬ Enables device.sysfs scan path) : Configured answers after device := by
  obtain ⟨scan, names, found, listed, selected, others⟩ := configured.channels
  have kept (name : String) : after.content (channelPath device.sysfs scan name "_en") =
      before.content (channelPath device.sysfs scan name "_en") := by
    apply changes.content
    intro inside
    refine (outside _ inside).2 scan ⟨rfl, rfl, ?_⟩
    rw [show (channelPath device.sysfs scan name "_en").name = name ++ "_en" from rfl,
      enabledName_eq_some.mpr rfl]
    rfl
  constructor
  · rw [changes.content _ fun inside => (outside _ inside).1 rfl]
    exact configured.clock
  · refine ⟨scan, names, found, listed, fun channel => ?_, fun name member different => ?_⟩
    · rw [kept]
      exact selected channel
    · rw [kept]
      exact others name member different

/-- A directory that was found can be listed. -/
theorem folder_of_find {path name : String} {scan : Bool}
    (found : answers.tree.find path scan = some name) :
    ∃ names, answers.tree.folder path name = some names := by
  have suits := List.find?_some found
  unfold SysfsTree.suits at suits
  split at suits
  · cases suits
  · rename_i names listed
    exact ⟨names, listed⟩

/-- A channel that reads as enabled has this text in its attribute. -/
theorem configured_scanElement {state : ImuDevices R} {path scan name text : String}
    {kind : ImuKind} (nonempty : text ≠ "")
    (configured : (scanElement numbers state path scan name).configured kind = text) :
    state.content (channelPath path scan name "_en") = some text := by
  unfold ScanElement.configured scanElement at configured
  cases stored : state.content (channelPath path scan name "_en") with
  | none =>
      simp only [stored, Option.elim_none] at configured
      exact absurd configured.symm nonempty
  | some value =>
      simp only [stored, Option.elim_some] at configured
      rw [configured]

/-- A layout without errors means that exactly the four channels are enabled. -/
theorem channels_of_layout {scan : String} {names : List String} {result : ImuDevice R}
    {sorted : List ScanChannel} (found : answers.tree.find device.sysfs true = some scan)
    (listed : answers.tree.folder device.sysfs scan = some names)
    (laid : Laid device (scanDirectory answers numbers after listed) result sorted) :
    ChannelsEnabled answers after device := by
  have elements (element : ScanElement)
      (member : element ∈ (scanDirectory answers numbers after listed).elements) :
      ∃ name, name ++ "_en" ∈ names ∧ element = scanElement numbers after device.sysfs scan name := by
    obtain ⟨name, present, rfl⟩ := List.mem_map.mp member
    obtain ⟨entry, present, named⟩ := List.mem_filterMap.mp present
    exact ⟨name, enabledName_eq_some.mp named ▸ present, rfl⟩
  refine ⟨scan, names, found, listed, fun channel => ?_, fun name member different => ?_⟩
  · have taken := laid.channels.mem_iff.mpr (ImuChannel.mem_all channel)
    obtain ⟨chosen, member, rfl⟩ := List.mem_map.mp taken
    obtain ⟨element, member, chose⟩ := List.mem_filterMap.mp (laid.found.mem_iff.mp member)
    have scanned := laid.each element member
    rw [chose] at scanned
    have selected := (scanChannel_ok scanned).1 chosen rfl
    obtain ⟨name, entry, rfl⟩ := elements element member
    rw [selected.name]
    exact ⟨entry, configured_scanElement (by decide) selected.configured⟩
  · have member : scanElement numbers after device.sysfs scan name ∈
        (scanDirectory answers numbers after listed).elements :=
      List.mem_map.mpr ⟨name, List.mem_filterMap.mpr ⟨_, member, enabledName_eq_some.mpr rfl⟩, rfl⟩
    have scanned := laid.each _ member
    have none : (scanElement numbers after device.sysfs scan name).found device.kind = none := by
      by_contra some
      obtain ⟨chosen, some⟩ := Option.ne_none_iff_exists'.mp some
      rw [some] at scanned
      exact different chosen.channel ((scanChannel_ok scanned).1 chosen rfl).name
    rw [none] at scanned
    exact configured_scanElement (by decide) ((scanChannel_ok scanned).2 rfl).1

/-- A layout that loads keeps the device and enables its four channels. -/
theorem loadLayout_channels {result : ImuDevice R} {scan : String}
    (ran : loadLayout answers numbers device scan before = .ok result after)
    (found : answers.tree.find device.sysfs true = some scan) :
    result.sysfs = device.sysfs ∧ result.kind = device.kind ∧ ChannelsEnabled answers after result := by
  obtain ⟨names, listed⟩ := folder_of_find found
  obtain ⟨loaded, sysfs⟩ := loadLayout_ok listed ran
  obtain ⟨sorted, laid⟩ := Vio.loadLayout_ok loaded
  refine ⟨sysfs, laid.kind, ?_⟩
  rw [ChannelsEnabled, sysfs, laid.kind]
  exact channels_of_layout found listed laid

/-- The clock of a device that was set is the monotonic one. -/
theorem setClock_ok {path : String} (ran : setClock answers path before = .ok () after) :
    after.content (clockOf path) = some "monotonic" := by
  obtain ⟨_, middle, _, ran⟩ := bind_ok ran
  obtain ⟨text, last, stored, ran⟩ := bind_ok ran
  split at ran
  · cases ran
  · rename_i same
    cases ran
    rw [((read_quiet _).ok stored).content _ id, read_ok stored, not_not.mp same]

section Scalar
variable [Scalar R]

omit [Scalar R] in
/-- The clock and the scale of devices are different attributes. -/
theorem clock_ne_scale (path : String) (device : ImuDevice R) : clockOf path ≠ scaleOf device := by
  have different : ∀ kind : ImuKind, "current_timestamp_clock" ≠ kind.stem ++ "scale" := by
    intro kind
    cases kind <;> decide
  exact fun same => different device.kind (congrArg AttributePath.name same)

/-- A device that was configured keeps its directory and its kind. -/
theorem configureBuffer_ok {watermark : Nat} {buffer : String} {result : ImuDevice R}
    (ran : configureBuffer answers numbers watermark device buffer before = .ok result after) :
    result.sysfs = device.sysfs ∧ result.kind = device.kind ∧ Configured answers after result := by
  obtain ⟨_, _, _, ran⟩ := bind_ok ran
  obtain ⟨_, clocked, clock, ran⟩ := bind_ok ran
  obtain ⟨rateHz, _, rated, ran⟩ := bind_ok ran
  obtain ⟨scale, _, scaled, ran⟩ := bind_ok ran
  obtain ⟨scan, _, located, ran⟩ := bind_ok ran
  obtain ⟨laid, loaded, layout, ran⟩ := bind_ok ran
  obtain ⟨_, _, lengthened, ran⟩ := bind_ok ran
  cases ran
  obtain ⟨sysfs, kind, channels⟩ := loadLayout_channels layout (directory_ok located)
  refine ⟨sysfs, kind, ?_⟩
  have rate := ((setRate_within _).ok rated).content (clockOf device.sysfs)
    fun same => absurd (congrArg AttributePath.name same)
      (show "current_timestamp_clock" ≠ "sampling_frequency" by decide)
  have scaling := ((setScale_within _).ok scaled).content (clockOf device.sysfs)
    (clock_ne_scale _ _)
  have search := ((directory_quiet _ _).ok located).content (clockOf device.sysfs) id
  have layoutClock := ((loadLayout_within _ _).ok layout).content (clockOf device.sysfs)
    fun enables => absurd enables.2.1 (by simp [clockOf])
  have configured : Configured answers loaded result := by
    refine ⟨?_, channels⟩
    rw [sysfs]
    exact (((layoutClock.trans search).trans scaling).trans rate).trans (setClock_ok clock)
  refine configured.frame ((setLength_within _ _).ok lengthened).toChanges ?_
  rintro path ⟨_, named⟩
  constructor
  · rintro rfl
    exact absurd named (show ¬ ("current_timestamp_clock" = "watermark" ∨
      "current_timestamp_clock" = "length") by decide)
  · rintro other ⟨_, _, enables⟩
    rcases named with named | named
    · rw [named] at enables
      exact absurd enables (by decide)
    · rw [named] at enables
      exact absurd enables (by decide)

/-- The buffer that a device has. -/
def bufferOf (answers : SysfsAnswers) (device : ImuDevice R) : Option (String × String) :=
  (answers.tree.find device.sysfs false).map (device.sysfs, ·)

/-- A configuration changes the attributes of its device only. -/
theorem configure_changes (watermark : Nat) (device : ImuDevice R) :
    Keeps (Changes fun path => path.device = device.sysfs)
      (configure answers numbers watermark device) := by
  refine Keeps.bind ((Quiet.within (directory_quiet _ _)).mono fun _ _ within => within.toChanges)
    fun buffer => Keeps.bind (fun _ => .same rfl rfl) fun _ => ?_
  exact (configureBuffer_within watermark device buffer).mono fun _ _ within =>
    within.toChanges.mono fun _ inside => inside.1

/-- A device that was configured has its buffer noted for the cleanup. -/
theorem configure_ok {watermark : Nat} {result : ImuDevice R}
    (ran : configure answers numbers watermark device before = .ok result after) :
    result.sysfs = device.sysfs ∧ result.kind = device.kind ∧ Configured answers after result ∧
      ∃ buffer, bufferOf answers device = some buffer ∧ after.buffers = before.buffers ++ [buffer] := by
  obtain ⟨buffer, _, located, ran⟩ := bind_ok ran
  obtain ⟨_, _, pushed, ran⟩ := bind_ok ran
  cases pushed
  obtain ⟨sysfs, kind, configured⟩ := configureBuffer_ok ran
  refine ⟨sysfs, kind, configured, (device.sysfs, buffer), ?_, ?_⟩
  · rw [bufferOf, directory_ok located]
    rfl
  · rw [((configureBuffer_within _ _ _).ok ran).buffers, ← ((directory_quiet _ _).ok located).buffers]

/-- The configuration changes attributes of its devices only. -/
theorem configureAll_changes (watermark : Nat) (devices : List (ImuDevice R)) :
    Keeps (Changes fun path => path.device ∈ devices.map ImuDevice.sysfs)
      (configureAll answers numbers watermark devices) := by
  induction devices with
  | nil => exact keeps_pure _
  | cons device rest inductionHypothesis =>
      refine Keeps.bind ((configure_changes watermark device).mono fun _ _ changes =>
          changes.mono fun path same => ?_) fun _ =>
        Keeps.bind (inductionHypothesis.mono fun _ _ changes => changes.mono fun path inside => ?_)
          fun _ => keeps_pure _
      · exact same ▸ List.mem_cons_self ..
      · exact List.mem_cons_of_mem _ inside

/-- All devices are configured, and each has its buffer on the list to undo. -/
theorem configureAll_ok {watermark : Nat} {devices results : List (ImuDevice R)}
    (distinct : (devices.map ImuDevice.sysfs).Nodup)
    (ran : configureAll answers numbers watermark devices before = .ok results after) :
    results.map ImuDevice.sysfs = devices.map ImuDevice.sysfs ∧
      results.map ImuDevice.kind = devices.map ImuDevice.kind ∧
      (∀ result ∈ results, Configured answers after result) ∧
      after.buffers.map some = before.buffers.map some ++ devices.map (bufferOf answers) := by
  induction devices generalizing before results with
  | nil =>
      cases ran
      exact ⟨rfl, rfl, nofun, (List.append_nil _).symm⟩
  | cons device rest inductionHypothesis =>
      obtain ⟨outside, distinct⟩ := List.nodup_cons.mp distinct
      obtain ⟨result, middle, first, ran⟩ := bind_ok ran
      obtain ⟨others, _, later, ran⟩ := bind_ok ran
      cases ran
      obtain ⟨sysfs, kind, configured, buffer, located, pushed⟩ := configure_ok first
      obtain ⟨sysfsRest, kindRest, configuredRest, buffers⟩ := inductionHypothesis distinct later
      refine ⟨by rw [List.map_cons, List.map_cons, sysfs, sysfsRest],
        by rw [List.map_cons, List.map_cons, kind, kindRest], ?_, ?_⟩
      · refine List.forall_mem_cons.mpr ⟨?_, configuredRest⟩
        refine configured.frame ((configureAll_changes watermark rest).ok later) fun path inside => ?_
        have other : path.device ≠ result.sysfs := fun same => outside (sysfs ▸ same ▸ inside)
        exact ⟨fun same => other (congrArg AttributePath.device same),
          fun _ enables => other enables.1⟩
      · have own : (device :: rest).map (bufferOf answers) =
            some buffer :: rest.map (bufferOf answers) := by
          rw [List.map_cons, located]
        rw [own, buffers, pushed, List.map_append, List.append_assoc]
        rfl

end Scalar

/-- Each buffer has its own enable attribute. -/
theorem enableOf_injective : Function.Injective enableOf := by
  rintro ⟨device, folder⟩ ⟨device', folder'⟩ same
  have devices : device = device' := congrArg AttributePath.device same
  have folders : some folder = some folder' := congrArg AttributePath.folder same
  rw [devices, Option.some.inj folders]

/-- At every point of the set-up: a buffer that the cleanup would not undo is off. -/
structure Guarded (expected : List (String × String)) (state : ImuDevices R) : Prop where
  among : ∀ buffer ∈ state.buffers, buffer ∈ expected
  present : ∀ buffer ∈ expected, (state.content (enableOf buffer)).isSome
  off : ∀ buffer ∈ expected, buffer ∉ state.buffers → state.content (enableOf buffer) = some "0"

variable {expected : List (String × String)}

/-- Changes of attributes keep the guard where they enable only noted buffers. -/
theorem Guarded.within (guarded : Guarded expected before) (within : Within touched before after)
    (undone : ∀ buffer ∈ expected, touched (enableOf buffer) → buffer ∈ before.buffers) :
    Guarded expected after where
  among := by
    rw [within.buffers]
    exact guarded.among
  present buffer member := within.present _ (guarded.present buffer member)
  off buffer member outside := by
    rw [within.buffers] at outside
    rw [within.content _ fun inside => outside (undone buffer member inside)]
    exact guarded.off buffer member outside

theorem Guarded.quiet (guarded : Guarded expected before) (quiet : Quiet before after) :
    Guarded expected after :=
  guarded.within quiet fun _ _ inside => inside.elim

section Scalar
variable [Scalar R]

/-- A configuration keeps the guard, with or without an exception. -/
theorem Guarded.configure (guarded : Guarded expected before) {buffer : String × String}
    (own : bufferOf answers device = some buffer) (member : buffer ∈ expected)
    (numbers : NumberTexts R) (watermark : Nat) :
    Guarded expected (final (configure answers numbers watermark device) before) := by
  unfold ImuDevices.configure
  cases located : directory answers device.sysfs false before with
  | error thrown middle =>
      rw [final_bind_error located]
      exact guarded.quiet ((directory_quiet _ _).error located)
  | ok folder middle =>
      rw [final_bind_ok located]
      have here := guarded.quiet ((directory_quiet _ _).ok located)
      rw [bufferOf, directory_ok located] at own
      obtain rfl := Option.some.inj own
      let pushed : ImuDevices R :=
        { middle with buffers := middle.buffers ++ [(device.sysfs, folder)] }
      have guardedPushed : Guarded expected pushed := by
        refine ⟨?_, here.present, fun buffer member outside => here.off buffer member ?_⟩
        · intro buffer listed
          rcases List.mem_append.mp listed with listed | listed
          · exact here.among buffer listed
          · rwa [List.mem_singleton.mp listed]
        · exact fun listed => outside (List.mem_append_left _ listed)
      have moved : (modify fun state : ImuDevices R =>
          { state with buffers := state.buffers ++ [(device.sysfs, folder)] } : Setup R PUnit) middle =
            .ok ⟨⟩ pushed := rfl
      rw [final_bind_ok moved]
      refine guardedPushed.within (configureBuffer_within watermark device folder pushed) ?_
      intro buffer _ inside
      rw [enableOf_injective (inside.2 rfl)]
      exact List.mem_append_right _ (List.mem_singleton_self _)

/-- The configuration notes each buffer before it can be on. -/
theorem Guarded.configureAll {devices : List (ImuDevice R)} (guarded : Guarded expected before)
    (own : ∀ device ∈ devices, ∃ buffer ∈ expected, bufferOf answers device = some buffer)
    (numbers : NumberTexts R) (watermark : Nat) :
    Guarded expected (final (configureAll answers numbers watermark devices) before) := by
  induction devices generalizing before with
  | nil => exact guarded
  | cons device rest inductionHypothesis =>
      obtain ⟨⟨buffer, member, here⟩, others⟩ := List.forall_mem_cons.mp own
      have first := guarded.configure here member numbers watermark
      unfold ImuDevices.configureAll
      cases ran : ImuDevices.configure answers numbers watermark device before with
      | error thrown middle =>
          rw [final_bind_error ran]
          rwa [final_error ran] at first
      | ok result middle =>
          rw [final_ok ran] at first
          rw [final_bind_ok ran]
          have later := inductionHypothesis first others
          cases ranLater : ImuDevices.configureAll answers numbers watermark rest middle with
          | error thrown last =>
              rw [final_bind_error ranLater]
              rwa [final_error ranLater] at later
          | ok results last =>
              rw [final_bind_ok ranLater]
              rwa [final_ok ranLater] at later

omit [Scalar R] in
theorem enableAll_within (buffers : List (String × String)) :
    Keeps (Within fun path => ∃ buffer ∈ buffers, path = enableOf buffer)
      (buffers.forM (enableBuffer answers) : Setup R PUnit) :=
  keeps_forM fun buffer member =>
    within_mono (enableBuffer_within buffer) fun _ same => ⟨buffer, member, same⟩

/-- At each point where the set-up may throw, the buffers that are on are noted. -/
theorem Guarded.takeOver (guarded : Guarded expected before)
    (own : ∀ device ∈ before.devices, ∃ buffer ∈ expected, bufferOf answers device = some buffer)
    (numbers : NumberTexts R) (watermark : Nat) :
    Guarded expected (final (takeOver answers numbers watermark) before) := by
  unfold ImuDevices.takeOver
  have got : (get : Setup R (ImuDevices R)) before = .ok before before := rfl
  rw [final_bind_ok got]
  have first := guarded.configureAll own numbers watermark
  cases ran : ImuDevices.configureAll answers numbers watermark before.devices before with
  | error thrown middle =>
      rw [final_bind_error ran]
      rwa [final_error ran] at first
  | ok devices middle =>
      rw [final_ok ran] at first
      rw [final_bind_ok ran]
      have moved : (modify fun state : ImuDevices R => { state with devices } : Setup R PUnit) middle =
          .ok ⟨⟩ { middle with devices } := rfl
      have replaced : Guarded expected { middle with devices } :=
        ⟨first.among, first.present, first.off⟩
      rw [final_bind_ok moved]
      refine replaced.within (enableAll_within middle.buffers _) ?_
      rintro buffer _ ⟨other, listed, same⟩
      rwa [enableOf_injective same]

end Scalar
section Cleanup

theorem disableBuffer_within (buffer : String × String) :
    Keeps (Within (· = enableOf buffer)) (disableBuffer answers buffer : Setup R Unit) :=
  (store_within answers.cleanup (enableOf buffer) "0").tryCatch fun _ => keeps_pure _

/-- A round of the cleanup goes on after an exception. -/
theorem disableBuffer_eq (buffer : String × String) (state : ImuDevices R) :
    disableBuffer answers buffer state =
      .ok () (final (store answers.cleanup (enableOf buffer) "0") state) := by
  unfold disableBuffer
  cases ran : store answers.cleanup (enableOf buffer) "0" state with
  | ok _ last => rw [tryCatch_ok ran, final_ok ran]
  | error thrown last =>
      rw [tryCatch_error ran, final_error ran]
      rfl

variable (cleans : ∀ number path old, answers.cleanup number path old "0" = ("0", true))
include cleans

/-- A buffer that was disabled is off, or its attribute is gone. -/
theorem disableBuffer_ok {buffer : String × String} {last : ImuDevices R}
    (ran : disableBuffer answers buffer before = .ok () last) :
    last.content (enableOf buffer) = some "0" ∨ last.content (enableOf buffer) = none := by
  rw [disableBuffer_eq] at ran
  cases ran
  cases stored : before.content (enableOf buffer) with
  | none =>
      right
      let counted : ImuDevices R := { before with accesses := before.accesses + 1 }
      have accessed : (access : Setup R Nat) before = .ok before.accesses counted := rfl
      have got : (get : Setup R (ImuDevices R)) counted = .ok counted counted := rfl
      rw [store, final_bind_ok accessed, final_bind_ok got]
      simp only [show counted.content (enableOf buffer) = none from stored]
      exact stored
  | some old =>
      left
      rw [store_content stored, cleans]

/-- The cleanup turns off each buffer on its list and changes nothing else. -/
theorem disable_ok (state : ImuDevices R)
    (present : ∀ buffer ∈ state.buffers, (state.content (enableOf buffer)).isSome) :
    ∃ last, (disable answers : Setup R Unit) state = .ok () last ∧
      Within (fun path => ∃ buffer ∈ state.buffers, path = enableOf buffer) state last ∧
      ∀ buffer ∈ state.buffers, last.content (enableOf buffer) = some "0" := by
  have returns : ∃ last, state.buffers.forM (disableBuffer answers) state = .ok ⟨⟩ last :=
    forM_returns (fun buffer state => ⟨_, disableBuffer_eq buffer state⟩) state.buffers state
  obtain ⟨last, ran⟩ := returns
  have loop : Keeps (Within fun path => ∃ buffer ∈ state.buffers, path = enableOf buffer)
      (state.buffers.forM (disableBuffer answers) : Setup R PUnit) :=
    keeps_forM fun buffer member =>
      within_mono (disableBuffer_within buffer) fun _ same => ⟨buffer, member, same⟩
  have within := loop.ok ran
  refine ⟨last, ran, within, fun buffer member => ?_⟩
  have left : ∀ buffer ∈ state.buffers,
      last.content (enableOf buffer) = some "0" ∨ last.content (enableOf buffer) = none := by
    have rounds (buffer : String × String) (first last : ImuDevices R)
        (ran : disableBuffer answers buffer first = .ok ⟨⟩ last) :
        last.content (enableOf buffer) = some "0" ∨ last.content (enableOf buffer) = none :=
      disableBuffer_ok cleans ran
    refine forM_ok rounds ?_ ran
    intro entry other state last ran held
    by_cases same : entry = other
    · rw [same]
      exact disableBuffer_ok cleans ran
    · rw [((disableBuffer_within other).ok ran).content _ fun equal =>
        same (enableOf_injective equal)]
      exact held
  refine (left buffer member).resolve_right fun none => ?_
  have there := within.present _ (present buffer member)
  rw [none] at there
  cases there

end Cleanup

end ImuDevices
end Vio
