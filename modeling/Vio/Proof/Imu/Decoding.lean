import Mathlib.Algebra.Field.Rat
import Mathlib.Algebra.Order.Ring.Unbundled.Rat
import Vio.Construction.KalibrImuCsv
import Vio.Proof.Imu.Queues
import Vio.Proof.Imu.ToolLayout

namespace Vio
open FallibleLoop

/-- Half of the range of a number of one byte more. -/
def halfRange : Nat → Int
  | 0 => 128
  | count + 1 => 256 * halfRange count

/-- The value of some bytes lies in the range of that many bytes. -/
theorem signed_bounds (first : UInt8) (rest : List UInt8) :
    -halfRange rest.length ≤ signed (first :: rest) ∧ signed (first :: rest) < halfRange rest.length := by
  induction rest generalizing first with
  | nil => exact ⟨first.toInt8.le_toInt, first.toInt8.toInt_lt⟩
  | cons second rest inductionHypothesis =>
      obtain ⟨low, high⟩ := inductionHypothesis second
      have byte := first.toNat_lt
      rw [List.length_cons, halfRange, signed.eq_3 _ _ (by simp)]
      omega

/-- A number of eight bytes fits into 64 bits. -/
theorem signed_bmod {bytes : List UInt8} (length : bytes.length = 8) :
    (signed bytes).bmod 18446744073709551616 = signed bytes := by
  cases bytes with
  | nil => cases length
  | cons first rest =>
      have bounds := signed_bounds first rest
      rw [Nat.succ.inj length] at bounds
      have half : halfRange 7 = 9223372036854775808 := rfl
      apply Int.bmod_eq_of_le
      · omega
      · omega

section Accept
variable {K : Type} [Zero K] [LinearOrder K] {device : ImuDevice K} {dev : ImuDev K}

/-- An accepted device has the layout and the scale that were read. -/
theorem acceptDevice_fields (accepted : acceptDevice device = .ok dev) :
    dev.record = device.recordBytes.toNat ∧ dev.scale = device.scale ∧
      dev.timestampOffset = (device.offset .timestamp).toNat ∧
      ∀ axis, dev.axisOffsets axis = (device.offset (.axis axis)).toNat := by
  unfold acceptDevice at accepted
  split at accepted
  · cases accepted
  · split at accepted
    · cases accepted
    · cases accepted
      exact ⟨rfl, rfl, rfl, fun axis => rfl⟩

/-- The runner accepts the layout of every accepted directory. -/
theorem Laid.accepted {start : ImuDevice K} {scan : ScanDirectory} {sorted : List ScanChannel}
    (laid : Laid start scan device sorted) (positive : 0 < device.scale) :
    ∃ dev, acceptDevice device = .ok dev := by
  have timestamp : 0 ≤ device.timestampOffset ∧ device.timestampOffset + 8 ≤ device.recordBytes :=
    laid.inside .timestamp
  have axes (axis : Fin 3) : 0 ≤ device.axisOffsets axis ∧ device.axisOffsets axis + 2 ≤ device.recordBytes :=
    laid.inside (.axis axis)
  have small := laid.recordBytes_le
  unfold acceptDevice
  rw [dif_neg, dif_neg]
  · exact ⟨_, rfl⟩
  · rintro ⟨axis, outside⟩
    have inside := axes axis
    omega
  · rintro (low | high | negative | late | scale)
    · omega
    · omega
    · omega
    · omega
    · exact positive.not_ge scale

end Accept

section Sidecar
variable {K : Type} {readName : String → Except Thrown String} {path : String}
  {devices : List (ImuDevice K)} {device : ImuDevice K} {side : Sidecar K}

/-- What the sidecar keeps about a device. -/
structure Kept (path : String) (device : ImuDevice K) (kept : SidecarDevice K) : Prop where
  scale : kept.scale = device.scale
  recordBytes : kept.recordBytes = device.recordBytes
  channels : kept.channels = device.channels
  file : kept.file = path ++ ".imu_" ++ device.kind.name ++ ".bin"

/-- Saving one device leaves the entries of the others. -/
theorem saveDevice_entry {before after : Sidecar K}
    (saved : saveDevice readName path before device = .ok after) :
    (∃ kept, after device.kind = some kept ∧ Kept path device kept) ∧
      ∀ kind ≠ device.kind, after kind = before kind := by
  obtain ⟨name, _, saved⟩ := bind_ok saved
  cases saved
  constructor
  · exact ⟨_, Function.update_self .., rfl, rfl, rfl, rfl⟩
  · intro kind other
    exact Function.update_of_ne other ..

/-- The sidecar keeps an entry, if no later device has its kind. -/
theorem saveDevices_other {before : Sidecar K} {kind : ImuKind}
    (saved : devices.foldlM (saveDevice readName path) before = .ok side)
    (other : kind ∉ devices.map ImuDevice.kind) : side kind = before kind := by
  induction devices generalizing before with
  | nil =>
      cases saved
      rfl
  | cons first rest inductionHypothesis =>
      rw [List.map_cons, List.mem_cons, not_or] at other
      rw [List.foldlM_cons] at saved
      obtain ⟨next, entry, saved⟩ := bind_ok saved
      rw [inductionHypothesis saved other.2, (saveDevice_entry entry).2 kind other.1]

/-- The sidecar has an entry for each device. -/
theorem saveMetadata_kept (saved : saveMetadata readName path devices = .ok side)
    (distinct : (devices.map ImuDevice.kind).Nodup) (member : device ∈ devices) :
    ∃ kept, side device.kind = some kept ∧ Kept path device kept := by
  unfold saveMetadata at saved
  generalize (fun _ => none : Sidecar K) = before at saved
  induction devices generalizing before with
  | nil => exact nomatch member
  | cons first rest inductionHypothesis =>
      rw [List.map_cons, List.nodup_cons] at distinct
      rw [List.foldlM_cons] at saved
      obtain ⟨next, entry, later⟩ := bind_ok saved
      rcases List.mem_cons.mp member with rfl | member
      · rw [saveDevices_other later distinct.1]
        exact (saveDevice_entry entry).1
      · exact inductionHypothesis distinct.2 member _ later

end Sidecar

/-- A field is found by its name. -/
theorem namedField_describe {K : Type} (device : ImuDevice K) (channel : ImuChannel) :
    namedField device.channels (channel.name device.kind) = .ok (device.describe channel) := by
  have found : device.channels.find? (fun field => field.name = channel.name device.kind) =
      some (device.describe channel) := by
    have own := ImuChannel.ofName_eq_some_iff.mpr (rfl : channel.name device.kind = _)
    rw [ImuDevice.channels, List.find?_map]
    exact congrArg (Option.map device.describe) own
  rw [namedField, found]

/-- The records of a buffer are whole. -/
theorem record_length {bytes : List UInt8} {size index : Nat} (inside : index < bytes.length / size) :
    ((bytes.drop (index * size)).take size).length = size := by
  have next : (index + 1) * size ≤ bytes.length :=
    (Nat.mul_le_mul_right size inside).trans (Nat.div_mul_le_self _ _)
  rw [Nat.add_mul] at next
  rw [List.length_take, List.length_drop]
  omega

/-- The library accepts the record type of every laid out device. -/
theorem Laid.recordType {K : Type} {start device : ImuDevice K} {scan : ScanDirectory} {sorted : List ScanChannel}
    (laid : Laid start scan device sorted) : recordType device.channels device.recordBytes = .ok () := by
  have storages : (device.channels.any fun field => decide (field.storage ∉ [1, 2, 4, 8])) = false := rfl
  have names : (device.channels.map Channel.name).Nodup := by
    rw [ImuDevice.channels, List.map_map]
    exact List.Nodup.map (ImuChannel.name_injective device.kind) (by decide)
  have inside : (device.channels.any fun field =>
      field.offset < 0 || field.offset + field.storage > device.recordBytes) = false := by
    rw [List.any_eq_false]
    intro field member
    obtain ⟨channel, _, rfl⟩ := List.mem_map.mp member
    obtain ⟨low, high⟩ := laid.inside channel
    simp only [Bool.or_eq_true, decide_eq_true_eq, not_or, not_lt]
    exact ⟨low, high⟩
  rw [Vio.recordType, storages, inside, if_neg (by decide), if_neg (not_not.mpr names), if_neg (by decide)]

/-- Whole records in a sequence of buffers are read as if they came in one. -/
theorem ImuDev.samples_flatten {K : Type} [Field K] (dev : ImuDev K) {batches : List (List UInt8)}
    (whole : ∀ batch ∈ batches, batch.length % dev.record = 0) :
    dev.samples batches.flatten = batches.flatMap dev.samples := by
  induction batches with
  | nil => rw [List.flatten_nil, List.flatMap_nil, samples, List.length_nil, Nat.zero_div, List.range_zero,
      List.map_nil]
  | cons batch rest inductionHypothesis =>
      rw [List.flatten_cons, List.flatMap_cons, dev.samples_append _ (whole batch List.mem_cons_self),
        inductionHypothesis fun other member => whole other (List.mem_cons_of_mem _ member)]

section Agreement
variable {K : Type} [Field K] [LinearOrder K] {start device : ImuDevice K} {scan : ScanDirectory}
  {sorted : List ScanChannel} {dev : ImuDev K}

/-- Both decoders read the same number of a channel from a whole record. -/
theorem Laid.decode (laid : Laid start scan device sorted) (accepted : acceptDevice device = .ok dev)
    {record : List UInt8} (whole : record.length = device.recordBytes.toNat) :
    (((device.describe .timestamp).decode record).bmod 18446744073709551616,
      fun axis => ((![device.describe (.axis 0), device.describe (.axis 1), device.describe (.axis 2)]
        axis).decode record : K) * device.scale) = dev.parse record := by
  obtain ⟨_, scale, timestamp, axes⟩ := acceptDevice_fields accepted
  have axis (index : Fin 3) : (![device.describe (.axis 0), device.describe (.axis 1),
      device.describe (.axis 2)] index) = device.describe (.axis index) :=
    match index with
    | 0 => rfl
    | 1 => rfl
    | 2 => rfl
  have inside := laid.inside .timestamp
  have time : ((device.describe .timestamp).decode record).bmod 18446744073709551616 =
      signed ((record.drop dev.timestampOffset).take 8) := by
    rw [timestamp]
    have size : (ImuChannel.timestamp.bytes : Int) = 8 := rfl
    have length : ((record.drop (device.offset .timestamp).toNat).take 8).length = 8 := by
      rw [List.length_take, List.length_drop, whole]
      omega
    exact signed_bmod length
  rw [time, ImuDev.parse, scale]
  congr 1
  funext index
  rw [axis, axes]
  rfl

/-- The offline tool decodes the recorded bytes as the thread decodes the buffers. -/
theorem Laid.load (laid : Laid start scan device sorted) (accepted : acceptDevice device = .ok dev)
    {path : String} {kept : SidecarDevice K} (keeps : Kept path device kept) {side : Sidecar K}
    (entry : side device.kind = some kept) {contents : String → List UInt8} :
    kalibrLoad contents side device.kind =
      .ok (dev.samples (contents (path ++ ".imu_" ++ device.kind.name ++ ".bin"))) := by
  have size := (acceptDevice_fields accepted).1
  have x := namedField_describe device (.axis 0)
  have y := namedField_describe device (.axis 1)
  have z := namedField_describe device (.axis 2)
  have timestamp := namedField_describe device .timestamp
  simp only [ImuChannel.name] at x y z timestamp
  unfold kalibrLoad
  rw [entry]
  dsimp only
  rw [keeps.channels, keeps.recordBytes, keeps.file, keeps.scale, laid.recordType, x, y, z, timestamp]
  simp only [bind, Except.bind, pure, Except.pure]
  rw [ImuDev.samples, List.map_map, size]
  congr 1
  apply List.map_congr_left
  intro index member
  exact laid.decode accepted (record_length (List.mem_range.mp member))

/-- Live decoding and replay decoding agree. The fields of every accepted layout are aligned, disjoint
and inside the record, the runner and the tool agree on them, and both decoders read the same samples
from whole records. -/
theorem imu_decoding_agrees (loaded : loadLayout start scan = .ok device) (positive : 0 < start.scale) :
    (∀ channel, (channel.bytes : Int) ∣ device.offset channel ∧ 0 ≤ device.offset channel ∧
      device.offset channel + channel.bytes ≤ device.recordBytes) ∧
    (∀ first second, first ≠ second → device.offset first + first.bytes ≤ device.offset second ∨
      device.offset second + second.bytes ≤ device.offset first) ∧
    (∀ directory, ∃ channels record, ImuDeviceTool.layout directory
      (ScanElement.configured start.kind) scan = .ok (channels, record) ∧
        channels.Perm device.channels ∧ (record : Int) = device.recordBytes) ∧
    ∃ dev, acceptDevice device = .ok dev ∧
      ∀ batches : List (List UInt8), (∀ batch ∈ batches, batch.length % dev.record = 0) →
        (∀ batch ∈ batches, ∀ place < batch.length, place % dev.record = 0 →
          place + dev.timestampOffset + 8 ≤ batch.length ∧
          ∀ axis, place + dev.axisOffsets axis + 2 ≤ batch.length) ∧
        ∀ (readName : String → Except Thrown String) (path : String) (devices : List (ImuDevice K))
          (side : Sidecar K) (contents : String → List UInt8),
          saveMetadata readName path devices = .ok side → (devices.map ImuDevice.kind).Nodup →
          device ∈ devices →
          contents (path ++ ".imu_" ++ device.kind.name ++ ".bin") = batches.flatten →
            kalibrLoad contents side device.kind = .ok (batches.flatMap dev.samples) := by
  obtain ⟨sorted, laid⟩ := loadLayout_ok loaded
  obtain ⟨dev, accepted⟩ := laid.accepted (by rwa [laid.scale])
  obtain ⟨record, _, timestamp, axes⟩ := acceptDevice_fields accepted
  refine ⟨fun channel => ⟨laid.aligned channel, laid.inside channel⟩,
    fun first second different => laid.disjoint different, fun directory => ?_, dev, accepted,
    fun batches whole => ⟨fun batch member place before multiple => ?_, ?_⟩⟩
  · obtain ⟨channels, computed, same⟩ := laid.tool_layout directory
    have bounds := laid.inside .timestamp
    exact ⟨channels, _, computed, same, Int.toNat_of_nonneg (by omega)⟩
  · -- The record that begins there ends inside the batch.
    have next : place + dev.record ≤ batch.length := by
      have distance := Nat.le_of_dvd (Nat.sub_pos_of_lt before) (Nat.dvd_sub
        (Nat.dvd_of_mod_eq_zero (whole batch member)) (Nat.dvd_of_mod_eq_zero multiple))
      omega
    have time : 0 ≤ device.offset .timestamp ∧ device.offset .timestamp + 8 ≤ device.recordBytes :=
      laid.inside .timestamp
    refine ⟨by omega, fun axis => ?_⟩
    have bounds : 0 ≤ device.offset (.axis axis) ∧ device.offset (.axis axis) + 2 ≤ device.recordBytes :=
      laid.inside (.axis axis)
    have place := axes axis
    omega
  · intro readName path devices side contents saved distinct member recorded
    obtain ⟨kept, entry, keeps⟩ := saveMetadata_kept saved distinct member
    rw [laid.load accepted keeps entry, recorded, dev.samples_flatten whole]

end Agreement

def plainElement (name type : String) (index : Int) : ScanElement where
  name := name
  enable text := .ok text
  type := .ok type.toList
  index := .ok index

/-- A directory with the time first and a channel that the reader disables. -/
def timeFirst : ScanDirectory where
  elements := [plainElement "in_timestamp" "le:s64/64>>0" 0, plainElement "in_accel_x" "le:s16/16>>0" 1,
    plainElement "in_temp" "le:s16/16>>0" 2, plainElement "in_accel_z" "le:s16/16>>0" 3,
    plainElement "in_accel_y" "le:s16/16>>0" 4]
  distinct := by decide

def restingDevice : ImuDevice ℚ where
  kind := .accel
  sysfs := "/sys/bus/iio/devices/iio:device0"
  chardev := "/dev/iio:device0"
  scale := 1
  rateHz := 416

theorem timeFirst_channels : scanChannels .accel timeFirst.elements =
    .ok [⟨0, .timestamp⟩, ⟨1, .axis 0⟩, ⟨3, .axis 2⟩, ⟨4, .axis 1⟩] := by rfl

/-- The timestamp comes first, so the axes follow it. -/
theorem timeFirst_loaded : loadLayout restingDevice timeFirst =
    .ok { restingDevice with
      recordBytes := 16
      timestampOffset := 0
      axisOffsets := ![8, 12, 10] } := by
  unfold loadLayout
  rw [show restingDevice.kind = .accel from rfl, timeFirst_channels]
  simp only [bind, Except.bind]
  rw [List.mergeSort_of_pairwise (by decide)]
  rw [if_neg (by decide)]
  have offsets : Function.update (Function.update (Function.update restingDevice.axisOffsets 0 8) 2 10) 1 12 =
      ![8, 12, 10] := by
    funext axis
    revert axis
    decide
  rw [← offsets]
  rfl

/-- The runner and the tool read the same samples of two records. -/
theorem imu_decoding_agrees_timeFirst : ∃ device dev side, loadLayout restingDevice timeFirst = .ok device ∧
    device.recordBytes = 16 ∧ acceptDevice device = .ok dev ∧
    saveMetadata (fun _ => .ok "lsm6dsm_accel") "run" [device] = .ok side ∧
    kalibrLoad (fun _ => List.range 32 |>.map UInt8.ofNat) side .accel =
      .ok (dev.samples (List.range 32 |>.map UInt8.ofNat)) := by
  obtain ⟨_, _, _, dev, accepted, decodes⟩ := imu_decoding_agrees timeFirst_loaded zero_lt_one
  have record : dev.record = 16 := (acceptDevice_fields accepted).1
  obtain ⟨_, replay⟩ := decodes [List.range 32 |>.map UInt8.ofNat] (by
    intro batch member
    rw [List.mem_singleton.mp member, record]
    rfl)
  have loaded := replay (fun _ => .ok "lsm6dsm_accel") "run" [_] _ (fun _ => List.range 32 |>.map UInt8.ofNat)
    rfl (List.nodup_singleton _) (List.mem_singleton_self _) (List.append_nil _).symm
  rw [List.flatMap_singleton] at loaded
  exact ⟨_, dev, _, timeFirst_loaded, rfl, accepted, rfl, loaded⟩

end Vio
