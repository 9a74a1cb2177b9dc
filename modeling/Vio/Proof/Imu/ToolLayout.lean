import Vio.Proof.Imu.RecordLayout

namespace Vio
open ImuDeviceTool

/-- A selected channel as the tool reads it. -/
def ScanChannel.tool (kind : ImuKind) (channel : ScanChannel) : ToolChannel where
  index := channel.index
  name := channel.channel.name kind
  endian := .little
  signed := true
  bits := channel.channel.bits
  storage := channel.bytes
  shift := 0

/-- A placed channel as the tool returns it. -/
def ScanChannel.placed (kind : ImuKind) (entry : ScanChannel × Nat) : Channel where
  name := entry.1.channel.name kind
  offset := entry.2
  endian := .little
  signed := true
  bits := entry.1.channel.bits
  storage := entry.1.bytes
  shift := 0

variable {kind : ImuKind} {directory : String}

/-- The tool reads a selected element as the runner does. -/
theorem readChannel_selected {element : ScanElement} {found : ScanChannel}
    (selected : Selected kind element found) :
    readChannel directory element = .ok (found.tool kind) := by
  obtain ⟨text, type, read⟩ := selected.type
  have storage : found.channel.bits / 8 = found.bytes := found.channel.bits_div
  unfold readChannel
  rw [type, selected.index]
  simp only [rd, bind, Except.bind, read, storage, ← selected.name]
  rfl

/-- The tool reads the channels that the runner enabled. -/
theorem readChannels_configured {elements : List ScanElement}
    (each : ∀ element ∈ elements, scanChannel kind element = .ok (element.found kind)) :
    readChannels directory (elements.filter fun element => element.configured kind = "1") =
      .ok ((elements.filterMap (ScanElement.found kind)).map (ScanChannel.tool kind)) := by
  induction elements with
  | nil => rfl
  | cons element rest inductionHypothesis =>
      obtain ⟨selected, other⟩ := scanChannel_ok (each element List.mem_cons_self)
      have later := inductionHypothesis fun element member => each element (List.mem_cons_of_mem _ member)
      rw [List.filterMap_cons]
      cases found : element.found kind with
      | none =>
          have disabled := (other found).1
          rw [List.filter_cons_of_neg (by rw [disabled]; decide)]
          exact later
      | some channel =>
          have enabled := (selected channel found).configured
          rw [List.filter_cons_of_pos (by rw [enabled]; decide), readChannels,
            readChannel_selected (selected channel found), later]
          rfl

/-- The tool packs the channels as the runner does. -/
theorem placeChannels_pack (channels : List ScanChannel) (offset : Nat) :
    ImuDeviceTool.placeChannels offset (channels.map (ScanChannel.tool kind)) =
      .ok ((Packing.pack ScanChannel.bytes offset channels).map (ScanChannel.placed kind),
        Packing.finish ScanChannel.bytes offset channels) := by
  induction channels generalizing offset with
  | nil => rfl
  | cons channel rest inductionHypothesis =>
      have padded : offset + ((-(offset : Int)) % (channel.bytes : Int)).toNat =
          Packing.alignUp offset channel.bytes := Packing.add_pad channel.bytes_pos
      have storage : (channel.tool kind).storage = channel.bytes := rfl
      rw [List.map_cons, ImuDeviceTool.placeChannels, storage, if_neg channel.bytes_pos.ne', padded]
      dsimp only
      rw [inductionHypothesis]
      rfl

namespace Laid
variable {K : Type} {device result : ImuDevice K} {scan : ScanDirectory} {sorted : List ScanChannel}
  (laid : Laid device scan result sorted)
include laid

/-- The tool sorts the channels as the runner does, in whatever order it finds them. -/
theorem tool_sorted {elements : List ScanElement} (perm : elements.Perm scan.elements) :
    ((elements.filterMap (ScanElement.found device.kind)).map (ScanChannel.tool device.kind)).mergeSort
      (fun first second => first.index ≤ second.index) = sorted.map (ScanChannel.tool device.kind) := by
  rw [← List.map_mergeSort (r := fun first second => decide (first.index ≤ second.index))
    fun _ _ _ _ => rfl]
  congr 1
  have same : ((elements.filterMap (ScanElement.found device.kind)).mergeSort
      fun first second => decide (first.index ≤ second.index)).Perm sorted :=
    (List.mergeSort_perm _ _).trans ((perm.filterMap _).trans laid.found.symm)
  -- Equal indices name one channel.
  have unique (first second : ScanChannel) (one : first ∈ sorted) (two : second ∈ sorted)
      (before : first.index ≤ second.index) (after : second.index ≤ first.index) : first = second := by
    by_contra different
    have apart : sorted.Pairwise fun first second => first.index ≠ second.index :=
      laid.increasing.imp fun before => before.ne
    have symmetric : Std.Symm fun first second : ScanChannel => first.index ≠ second.index :=
      ⟨fun _ _ => Ne.symm⟩
    exact apart.forall one two different (le_antisymm before after)
  exact same.eq_of_pairwise (fun first second one two => unique first second (same.mem_iff.mp one) two)
    (mergeSort_ascending ScanChannel.index _) (laid.increasing.imp fun before => before.le)

/-- The timestamp has the largest storage, which aligns the record. -/
theorem tool_align : ((sorted.map (ScanChannel.tool device.kind)).map ToolChannel.storage).max? = some 8 := by
  rw [List.map_map, List.max?_eq_some_iff]
  constructor
  · obtain ⟨channel, member, same⟩ := List.mem_map.mp (laid.channels.mem_iff.mpr
      (ImuChannel.mem_all .timestamp))
    refine List.mem_map.mpr ⟨channel, member, ?_⟩
    show channel.channel.bytes = 8
    rw [same]
    rfl
  · intro size member
    obtain ⟨channel, _, rfl⟩ := List.mem_map.mp member
    exact channel.channel.bytes_le

/-- The placed channels are those of the sidecar, in scan order. -/
theorem tool_channels : ((Packing.pack ScanChannel.bytes 0 sorted).map
    (ScanChannel.placed device.kind)).Perm result.channels := by
  have described : (Packing.pack ScanChannel.bytes 0 sorted).map (ScanChannel.placed device.kind) =
      (sorted.map ScanChannel.channel).map result.describe := by
    conv_rhs => rw [← Packing.pack_fields ScanChannel.bytes 0 sorted]
    rw [List.map_map, List.map_map]
    apply List.map_congr_left
    intro entry member
    simp only [ScanChannel.placed, Function.comp, ImuDevice.describe, laid.offsets entry member, laid.kind]
    rfl
  rw [described]
  exact laid.channels.map _

/-- The tool computes the layout of the runner. -/
theorem tool_layout (directory : String) : ∃ channels, layout directory (ScanElement.configured device.kind) scan =
    .ok (channels, result.recordBytes.toNat) ∧ channels.Perm result.channels := by
  refine ⟨_, ?_, laid.tool_channels⟩
  have perm := List.mergeSort_perm scan.elements fun first second =>
    decide (first.name ++ "_en" ≤ second.name ++ "_en")
  have each := fun element member => laid.each element (perm.mem_iff.mp member)
  unfold layout
  dsimp only
  rw [readChannels_configured each]
  simp only [bind, Except.bind]
  rw [laid.tool_sorted perm, placeChannels_pack]
  simp only
  rw [laid.tool_align, laid.record]
  have padded : Packing.finish ScanChannel.bytes 0 sorted +
      ((-(Packing.finish ScanChannel.bytes 0 sorted : Int)) % ((8 : Nat) : Int)).toNat =
        Packing.alignUp (Packing.finish ScanChannel.bytes 0 sorted) 8 := Packing.add_pad (by omega)
  simp only [padded, Int.toNat_natCast]
  rfl

end Laid
end Vio
