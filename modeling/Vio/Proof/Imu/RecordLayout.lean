import Mathlib.Data.List.Nodup
import Mathlib.Data.List.Sort
import Vio.Construction.ImuDeviceTool
import Vio.Library.FallibleLoop
import Vio.Library.Packing

namespace Vio
open FallibleLoop

/-- A list sorted by a number ascends in it. -/
theorem mergeSort_ascending {α : Type} (key : α → Int) (elements : List α) :
    (elements.mergeSort fun first second => key first ≤ key second).Pairwise
      fun first second => key first ≤ key second := by
  let below (first second : α) : Bool := decide (key first ≤ key second)
  have transitive (first second third : α) (one : below first second) (two : below second third) :
      below first third := decide_eq_true ((of_decide_eq_true one).trans (of_decide_eq_true two))
  have total (first second : α) : below first second || below second first := by
    simpa [below] using le_total (key first) (key second)
  have sorted := List.pairwise_mergeSort transitive total elements
  exact sorted.imp fun ordered => of_decide_eq_true ordered

/-- The stable sort by a number, by insertions. -/
theorem mergeSort_insertions {α : Type} (key : α → Int) (elements : List α) :
    (elements.mergeSort fun first second => key first ≤ key second) =
      elements.insertionSort fun first second => key first ≤ key second := by
  let below (first second : α) : Bool := decide (key first ≤ key second)
  have transitive (first second third : α) (one : below first second) (two : below second third) :
      below first third := decide_eq_true ((of_decide_eq_true one).trans (of_decide_eq_true two))
  have total (first second : α) : below first second || below second first := by
    simpa [below] using le_total (key first) (key second)
  induction elements with
  | nil => exact List.mergeSort_nil
  | cons first rest inductionHypothesis =>
      obtain ⟨smaller, others, sorted, same, above⟩ :=
        List.mergeSort_cons transitive total first rest
      have ascending := mergeSort_ascending key (first :: rest)
      rw [List.insertionSort_cons, ← inductionHypothesis]
      refine sorted.trans ?_
      rw [show (rest.mergeSort fun first second => key first ≤ key second) = smaller ++ others from same]
      rw [show ((first :: rest).mergeSort fun first second => key first ≤ key second) =
        smaller ++ first :: others from sorted] at ascending
      clear sorted same inductionHypothesis
      induction smaller with
      | nil =>
          cases others with
          | nil => rfl
          | cons next later =>
              have least := (List.pairwise_cons.mp ascending).1 next List.mem_cons_self
              exact (List.orderedInsert_cons_of_le _ later least).symm
      | cons one smaller inductionHypothesis =>
          have greater : ¬ key first ≤ key one := by
            simpa [below] using above one List.mem_cons_self
          have later := inductionHypothesis
            (fun other member => above other (List.mem_cons_of_mem _ member))
            (List.pairwise_cons.mp ascending).2
          exact (congrArg (one :: ·) later).trans
            (List.orderedInsert_of_not_le _ (smaller ++ others) greater).symm

namespace ImuChannel
variable {kind : ImuKind} {channel : ImuChannel} {text : String}

/-- The list has every channel. -/
theorem mem_all (channel : ImuChannel) : channel ∈ all := by
  cases channel with
  | axis axis =>
      revert axis
      decide
  | timestamp => decide

theorem name_injective (kind : ImuKind) : Function.Injective (name kind) := by
  have different : ∀ first ∈ all, ∀ second ∈ all, first.name kind = second.name kind → first = second := by
    cases kind <;> decide
  exact fun first second => different first (mem_all first) second (mem_all second)

/-- A channel is found by its name only. -/
theorem ofName_eq_some_iff : ofName kind text = some channel ↔ channel.name kind = text := by
  constructor
  · intro found
    simpa using List.find?_some found
  · rintro rfl
    have found : (ofName kind (channel.name kind)).isSome := by
      rw [ofName, List.find?_isSome]
      exact ⟨channel, mem_all channel, by simp⟩
    obtain ⟨other, same⟩ := Option.isSome_iff_exists.mp found
    have names : other.name kind = channel.name kind := by simpa using List.find?_some same
    rw [same, name_injective kind names]

theorem bytes_pos (channel : ImuChannel) : 0 < channel.bytes := by
  cases channel with
  | axis => exact Nat.zero_lt_succ 1
  | timestamp => exact Nat.zero_lt_succ 7

theorem bytes_le (channel : ImuChannel) : channel.bytes ≤ 8 := by
  cases channel with
  | axis => exact Nat.le_add_right 2 6
  | timestamp => exact Nat.le_refl 8

theorem bits_div (channel : ImuChannel) : channel.bits / 8 = channel.bytes := by
  cases channel with
  | axis => exact Nat.mul_div_cancel_left 2 (Nat.zero_lt_succ 7)
  | timestamp => exact Nat.mul_div_cancel_left 8 (Nat.zero_lt_succ 7)

end ImuChannel

section Scan
variable {kind : ImuKind} {element : ScanElement} {elements : List ScanElement} {channel : ImuChannel}

/-- An accepted type is signed, little-endian and without a shift. -/
theorem checkType_ok {text : List Char} (accepted : checkType element.name channel text = .ok ()) :
    ScanType.read text = some (⟨.little, true, channel.bits, channel.bits, 0⟩, []) := by
  have stoi_ok {value result : Nat} (converted : stoi value = .ok result) : result = value := by
    unfold stoi at converted
    split at converted
    · cases converted
    · exact (Except.ok.inj converted).symm
  unfold checkType at accepted
  dsimp only at accepted
  split at accepted
  · rename_i type read
    split at accepted
    · cases accepted
    · rename_i plain
      obtain ⟨bits, converted, accepted⟩ := bind_ok accepted
      cases stoi_ok converted
      split at accepted
      · cases accepted
      · rename_i bits
        obtain ⟨storage, converted, accepted⟩ := bind_ok accepted
        cases stoi_ok converted
        split at accepted
        · cases accepted
        · rename_i storage
          obtain ⟨shift, converted, accepted⟩ := bind_ok accepted
          cases stoi_ok converted
          split at accepted
          · cases accepted
          · rename_i shift
            rw [read]
            obtain ⟨endian, signed, _, _, _⟩ := type
            simp only [not_or, not_not, Bool.not_eq_false] at plain bits storage shift
            rw [plain.1, plain.2, bits, storage, shift]
  · cases accepted

/-- The text that the configuration leaves in an `_en` attribute. -/
def ScanElement.configured (kind : ImuKind) (element : ScanElement) : String :=
  match element.enable (if (ImuChannel.ofName kind element.name).isSome then "1" else "0") with
  | .ok text => text
  | .error _ => ""

/-- The channel that the loop takes from an attribute. -/
def ScanElement.found (kind : ImuKind) (element : ScanElement) : Option ScanChannel :=
  match scanChannel kind element with
  | .ok found => found
  | .error _ => none

/-- The attributes of a channel that the loop takes. -/
structure Selected (kind : ImuKind) (element : ScanElement) (found : ScanChannel) : Prop where
  name : found.channel.name kind = element.name
  configured : element.configured kind = "1"
  index : element.index = .ok found.index
  type : ∃ text, element.type = .ok text ∧
    ScanType.read text = some (⟨.little, true, found.channel.bits, found.channel.bits, 0⟩, [])

/-- The loop takes a channel with its attributes, or disables it. -/
theorem scanChannel_ok {found : Option ScanChannel} (scanned : scanChannel kind element = .ok found) :
    (∀ channel ∈ found, Selected kind element channel) ∧
      (found = none → element.configured kind = "0" ∧ ImuChannel.ofName kind element.name = none) := by
  unfold scanChannel at scanned
  dsimp only at scanned
  obtain ⟨readback, enabled, scanned⟩ := bind_ok scanned
  have written : element.configured kind = readback := by rw [ScanElement.configured, enabled]
  cases selected : ImuChannel.ofName kind element.name with
  | none =>
      simp only [selected, Option.isSome_none, Bool.false_eq_true, if_false] at scanned
      split at scanned
      · cases scanned
      · rename_i same
        cases scanned
        exact ⟨(fun _ member => nomatch member), fun _ => ⟨written.trans (not_not.mp same), rfl⟩⟩
  | some channel =>
      simp only [selected, Option.isSome_some, if_true] at scanned
      split at scanned
      · cases scanned
      · rename_i same
        obtain ⟨text, type, scanned⟩ := bind_ok scanned
        obtain ⟨_, checked, scanned⟩ := bind_ok scanned
        obtain ⟨index, read, scanned⟩ := bind_ok scanned
        cases scanned
        refine ⟨?_, fun none => nomatch none⟩
        rintro _ ⟨⟩
        exact
          { name := ImuChannel.ofName_eq_some_iff.mp selected
            configured := written.trans (not_not.mp same)
            index := read
            type := ⟨text, type, checkType_ok checked⟩ }

/-- The channels are those of the elements that are enabled. -/
theorem scanChannels_ok {channels : List ScanChannel} (scanned : scanChannels kind elements = .ok channels) :
    (∀ element ∈ elements, scanChannel kind element = .ok (element.found kind)) ∧
      channels = elements.filterMap (ScanElement.found kind) := by
  induction elements generalizing channels with
  | nil =>
      cases scanned
      exact ⟨(fun _ member => nomatch member), rfl⟩
  | cons element rest inductionHypothesis =>
      obtain ⟨found, first, scanned⟩ := bind_ok scanned
      obtain ⟨others, scanned, last⟩ := bind_ok scanned
      obtain ⟨each, same⟩ := inductionHypothesis scanned
      have taken : element.found kind = found := by rw [ScanElement.found, first]
      cases last
      constructor
      · intro other member
        rcases List.mem_cons.mp member with rfl | member
        · rw [taken, first]
        · exact each other member
      · rw [same, List.filterMap_cons, taken]
        cases found <;> rfl

/-- The channels of a directory are different. -/
theorem channels_nodup {scan : ScanDirectory}
    (each : ∀ element ∈ scan.elements, scanChannel kind element = .ok (element.found kind)) :
    ((scan.elements.filterMap (ScanElement.found kind)).map ScanChannel.channel).Nodup := by
  have names : (scan.elements.filterMap (ScanElement.found kind)).map ScanChannel.channel =
      (scan.elements.map ScanElement.name).filterMap (ImuChannel.ofName kind) := by
    rw [List.map_filterMap, List.filterMap_map]
    apply List.filterMap_congr
    intro element member
    obtain ⟨selected, other⟩ := scanChannel_ok (each element member)
    cases found : element.found kind with
    | none => exact (other found).2.symm
    | some channel => exact (ImuChannel.ofName_eq_some_iff.mpr (selected channel found).name).symm
  rw [names]
  refine List.Nodup.filterMap (fun first second channel one two => ?_) scan.distinct
  rw [← ImuChannel.ofName_eq_some_iff.mp one, ← ImuChannel.ofName_eq_some_iff.mp two]

end Scan

section Place
variable {K : Type} {device result : ImuDevice K} {offset finish : Nat} {previous : Int}
  {channels : List ScanChannel}

/-- An offset that is set leaves the others. -/
theorem ImuDevice.offset_setOffset (device : ImuDevice K) (start : Int) (channel other : ImuChannel) :
    (device.setOffset start channel).offset other =
      if other = channel then start else device.offset other := by
  cases channel with
  | axis axis =>
      cases other with
      | axis other =>
          simp only [setOffset, ImuDevice.offset, Function.update_apply, ImuChannel.axis.injEq]
      | timestamp => rfl
  | timestamp =>
      cases other with
      | axis => rfl
      | timestamp => rfl

/-- The size of a selected channel's field. -/
def ScanChannel.bytes (channel : ScanChannel) : Nat := channel.channel.bytes

theorem ScanChannel.bytes_pos (channel : ScanChannel) : 0 < channel.bytes := channel.channel.bytes_pos

/-- A channel is placed at the next aligned offset, and the rest behind it. -/
theorem placeChannels_cons {channel : ScanChannel} {rest : List ScanChannel}
    (placed : placeChannels device offset previous (channel :: rest) = .ok (result, finish)) :
    0 ≤ channel.index ∧ channel.index ≠ previous ∧
      placeChannels (device.setOffset (Packing.alignUp offset channel.bytes : Nat) channel.channel)
        (Packing.alignUp offset channel.bytes + channel.bytes) channel.index rest = .ok (result, finish) := by
  rw [placeChannels] at placed
  split at placed
  · cases placed
  · rename_i valid
    rw [not_or, not_lt] at valid
    exact ⟨valid.1, valid.2, placed⟩

/-- The loop changes the offsets only. -/
theorem placeChannels_device (placed : placeChannels device offset previous channels = .ok (result, finish)) :
    result.kind = device.kind ∧ result.scale = device.scale ∧
      finish = Packing.finish ScanChannel.bytes offset channels := by
  induction channels generalizing device offset previous with
  | nil =>
      cases placed
      exact ⟨rfl, rfl, rfl⟩
  | cons channel rest inductionHypothesis =>
      obtain ⟨kind, scale, finished⟩ := inductionHypothesis (placeChannels_cons placed).2.2
      have same (start : Int) : (device.setOffset start channel.channel).kind = device.kind ∧
          (device.setOffset start channel.channel).scale = device.scale := by
        cases channel.channel <;> exact ⟨rfl, rfl⟩
      exact ⟨kind.trans (same _).1, scale.trans (same _).2, finished⟩

/-- Channels that are not placed keep their offsets. -/
theorem placeChannels_other (placed : placeChannels device offset previous channels = .ok (result, finish))
    {other : ImuChannel} (outside : other ∉ channels.map ScanChannel.channel) :
    result.offset other = device.offset other := by
  induction channels generalizing device offset previous with
  | nil =>
      cases placed
      rfl
  | cons channel rest inductionHypothesis =>
      rw [List.map_cons, List.mem_cons, not_or] at outside
      rw [inductionHypothesis (placeChannels_cons placed).2.2 outside.2, ImuDevice.offset_setOffset,
        if_neg outside.1]

/-- Each channel is placed where the packed record has it. -/
theorem placeChannels_offset (placed : placeChannels device offset previous channels = .ok (result, finish))
    (distinct : (channels.map ScanChannel.channel).Nodup) :
    ∀ entry ∈ Packing.pack ScanChannel.bytes offset channels,
      result.offset entry.1.channel = (entry.2 : Nat) := by
  induction channels generalizing device offset previous with
  | nil => exact fun entry member => nomatch member
  | cons channel rest inductionHypothesis =>
      rw [List.map_cons, List.nodup_cons] at distinct
      have placed := (placeChannels_cons placed).2.2
      intro entry member
      rcases List.mem_cons.mp member with rfl | member
      · rw [placeChannels_other placed distinct.1, ImuDevice.offset_setOffset, if_pos rfl]
      · exact inductionHypothesis placed distinct.2 entry member

/-- The scan indices of the sorted channels increase. -/
theorem placeChannels_increasing
    (placed : placeChannels device offset previous channels = .ok (result, finish))
    (sorted : channels.Pairwise fun first second => first.index ≤ second.index)
    (after : ∀ channel ∈ channels, previous ≤ channel.index) :
    channels.Pairwise (fun first second => first.index < second.index) ∧
      ∀ channel ∈ channels, previous < channel.index := by
  induction channels generalizing device offset previous with
  | nil => exact ⟨.nil, fun channel member => nomatch member⟩
  | cons channel rest inductionHypothesis =>
      rw [List.pairwise_cons] at sorted
      obtain ⟨_, different, placed⟩ := placeChannels_cons placed
      obtain ⟨increasing, later⟩ := inductionHypothesis placed sorted.2 sorted.1
      have first : previous < channel.index :=
        lt_of_le_of_ne (after channel List.mem_cons_self) (Ne.symm different)
      refine ⟨List.pairwise_cons.mpr ⟨later, increasing⟩, ?_⟩
      intro other member
      rcases List.mem_cons.mp member with rfl | member
      · exact first
      · exact first.trans (later other member)

/-- What the layout of an accepted directory is. The channels are in scan order. -/
structure Laid (device : ImuDevice K) (scan : ScanDirectory) (result : ImuDevice K)
    (sorted : List ScanChannel) : Prop where
  each : ∀ element ∈ scan.elements, scanChannel device.kind element = .ok (element.found device.kind)
  found : sorted.Perm (scan.elements.filterMap (ScanElement.found device.kind))
  increasing : sorted.Pairwise fun first second => first.index < second.index
  channels : (sorted.map ScanChannel.channel).Perm ImuChannel.all
  offsets : ∀ entry ∈ Packing.pack ScanChannel.bytes 0 sorted, result.offset entry.1.channel = (entry.2 : Nat)
  record : result.recordBytes = (Packing.alignUp (Packing.finish ScanChannel.bytes 0 sorted) 8 : Nat)
  kind : result.kind = device.kind
  scale : result.scale = device.scale

/-- A layout that loads has its channels sorted by index and placed in that order. -/
theorem loadLayout_ok {scan : ScanDirectory} (loaded : loadLayout device scan = .ok result) :
    ∃ sorted, Laid device scan result sorted := by
  obtain ⟨channels, scanned, loaded⟩ := bind_ok loaded
  obtain ⟨each, rfl⟩ := scanChannels_ok scanned
  split at loaded
  · cases loaded
  · rename_i four
    obtain ⟨⟨placedDevice, finish⟩, placed, loaded⟩ := bind_ok loaded
    cases loaded
    have perm := List.mergeSort_perm (scan.elements.filterMap (ScanElement.found device.kind))
      fun first second => decide (first.index ≤ second.index)
    have ascending := mergeSort_ascending ScanChannel.index
      (scan.elements.filterMap (ScanElement.found device.kind))
    have distinct := (perm.map ScanChannel.channel).nodup_iff.mpr (channels_nodup each)
    obtain ⟨kind, scale, finished⟩ := placeChannels_device placed
    refine ⟨_, each, perm, ?_, ?_, ?_, ?_, kind, scale⟩
    · refine (placeChannels_increasing placed ascending fun channel member => ?_).1
      -- The first index is not negative, and the others follow it.
      cases sorted : (scan.elements.filterMap (ScanElement.found device.kind)).mergeSort
          fun first second => decide (first.index ≤ second.index) with
      | nil =>
          rw [sorted] at member
          exact nomatch member
      | cons first rest =>
          rw [sorted] at member placed ascending
          have start := (placeChannels_cons placed).1
          rcases List.mem_cons.mp member with rfl | member
          · omega
          · have order := (List.pairwise_cons.mp ascending).1 channel member
            omega
    · apply (List.subperm_of_subset distinct fun channel _ => ImuChannel.mem_all channel).perm_of_length_le
      rw [List.length_map, perm.length_eq, not_not.mp four]
      exact Nat.le_refl 4
    · intro entry member
      rw [← placeChannels_offset placed distinct entry member]
      cases entry.1.channel <;> rfl
    · rw [← finished]
      rfl

namespace Laid
variable {scan : ScanDirectory} {sorted : List ScanChannel} (laid : Laid device scan result sorted)
include laid

/-- Each channel has its place in the packed record. -/
theorem place (channel : ImuChannel) : ∃ entry ∈ Packing.pack ScanChannel.bytes 0 sorted,
    entry.1.channel = channel ∧ result.offset channel = (entry.2 : Nat) := by
  have member := laid.channels.mem_iff.mpr (ImuChannel.mem_all channel)
  obtain ⟨found, chosen, rfl⟩ := List.mem_map.mp member
  rw [← Packing.pack_fields ScanChannel.bytes 0 sorted] at chosen
  obtain ⟨entry, packed, rfl⟩ := List.mem_map.mp chosen
  exact ⟨entry, packed, rfl, laid.offsets entry packed⟩

theorem aligned (channel : ImuChannel) : (channel.bytes : Int) ∣ result.offset channel := by
  obtain ⟨entry, member, rfl, offset⟩ := laid.place channel
  rw [offset]
  exact Int.natCast_dvd_natCast.mpr (Packing.pack_aligned entry member)

/-- Each channel lies within the record. -/
theorem inside (channel : ImuChannel) :
    0 ≤ result.offset channel ∧ result.offset channel + channel.bytes ≤ result.recordBytes := by
  obtain ⟨entry, member, rfl, offset⟩ := laid.place channel
  have bounded := (Packing.pack_bounded ScanChannel.bytes_pos entry member).2
  have end_le := (Packing.alignUp_bounds (Packing.finish ScanChannel.bytes 0 sorted)
    (by decide : 0 < 8)).1
  have size : entry.1.bytes = entry.1.channel.bytes := rfl
  rw [offset, laid.record]
  omega

/-- Two channels share no byte. -/
theorem disjoint {first second : ImuChannel} (different : first ≠ second) :
    result.offset first + first.bytes ≤ result.offset second ∨
      result.offset second + second.bytes ≤ result.offset first := by
  obtain ⟨one, oneMember, rfl, oneOffset⟩ := laid.place first
  obtain ⟨two, twoMember, rfl, twoOffset⟩ := laid.place second
  have apart := Packing.pack_apart ScanChannel.bytes_pos oneMember twoMember fun same =>
    different (by rw [same])
  have oneSize : one.1.bytes = one.1.channel.bytes := rfl
  have twoSize : two.1.bytes = two.1.channel.bytes := rfl
  rw [oneOffset, twoOffset]
  omega

theorem length : sorted.length = 4 := by
  have count := laid.channels.length_eq
  rwa [List.length_map] at count

/-- The record is small. -/
theorem recordBytes_le : result.recordBytes ≤ 72 := by
  have finished := Packing.finish_le ScanChannel.bytes_pos (fun channel => channel.channel.bytes_le) 0 sorted
  have rounded := (Packing.alignUp_bounds (Packing.finish ScanChannel.bytes 0 sorted)
    (by decide : 0 < 8)).2
  rw [laid.length] at finished
  rw [laid.record]
  omega

end Laid
end Place
end Vio
