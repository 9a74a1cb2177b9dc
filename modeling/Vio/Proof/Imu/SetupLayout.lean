import Vio.Proof.Imu.RecordLayout
import Vio.Proof.Imu.SetupFrames

namespace Vio
open Effects

/-- The folder is the one that the set-up looks for. -/
def SysfsTree.suits (tree : SysfsTree) (device : String) (scan : Bool) (name : String) : Bool :=
  match tree.folder device name with
  | none => false
  | some names =>
      if scan then
        names.any fun entry => entry.length > 3 && (ImuDevices.enabledName entry).isSome
      else name ≠ "scan_elements"

/-- The scan directory or the buffer directory of a device. -/
def SysfsTree.find (tree : SysfsTree) (device : String) (scan : Bool) : Option String :=
  ["scan_elements", "buffer0", "buffer"].find? (tree.suits device scan)

namespace ImuDevices
variable {R : Type} {answers : SysfsAnswers} {numbers : NumberTexts R}
  {before after : ImuDevices R}

/-- The search returns the first suitable directory. -/
theorem findDirectory_ok {device found : String} {scan : Bool} {names : List String}
    (ran : findDirectory answers device scan names before = .ok found after) :
    names.find? (answers.tree.suits device scan) = some found := by
  induction names generalizing before with
  | nil => cases ran
  | cons name rest inductionHypothesis =>
      obtain ⟨_, looked, _, ran⟩ := bind_ok ran
      rw [List.find?_cons]
      cases listed : answers.tree.folder device name with
      | none =>
          simp only [listed] at ran
          rw [show answers.tree.suits device scan name = false by rw [SysfsTree.suits, listed]]
          exact inductionHypothesis ran
      | some names =>
          simp only [listed] at ran
          cases scan with
          | true =>
              rw [if_pos rfl] at ran
              obtain ⟨_, again, _, ran⟩ := bind_ok ran
              split at ran
              · rename_i suits
                cases ran
                rw [show answers.tree.suits device true found = true by
                  rw [SysfsTree.suits, listed]
                  exact suits]
              · rename_i other
                rw [show answers.tree.suits device true name = false by
                  rw [SysfsTree.suits, listed]
                  exact eq_false_of_ne_true other]
                exact inductionHypothesis ran
          | false =>
              rw [if_neg Bool.false_ne_true] at ran
              split at ran
              · rename_i different
                cases ran
                rw [show answers.tree.suits device false found = true by
                  rw [SysfsTree.suits, listed]
                  exact decide_eq_true different]
              · rename_i same
                rw [show answers.tree.suits device false name = false by
                  rw [SysfsTree.suits, listed]
                  exact decide_eq_false same]
                exact inductionHypothesis ran

theorem directory_ok {device found : String} {scan : Bool}
    (ran : directory answers device scan before = .ok found after) :
    answers.tree.find device scan = some found :=
  findDirectory_ok ran

/-- The attribute of a channel with an ending. -/
def channelPath (device scan name ending : String) : AttributePath where
  device
  folder := scan
  name := name ++ ending

/-- The enable attribute is the name with its suffix. -/
theorem enabledName_eq_some {entry name : String} :
    enabledName entry = some name ↔ entry = name ++ "_en" := by
  unfold enabledName
  constructor
  · intro named
    split at named
    · rename_i ends
      obtain ⟨stem, split⟩ := ends
      cases named
      apply String.toList_injective
      rw [String.toList_append, String.toList_ofList, ← split]
      simp
    · cases named
  · rintro rfl
    rw [if_pos (by rw [String.toList_append]; exact List.suffix_append _ _)]
    congr 1
    apply String.toList_injective
    rw [String.toList_ofList, String.toList_append]
    simp

/-- The other attributes of a channel do not enable one. -/
theorem enabledName_other {name ending : String} (long : "_en".toList.length ≤ ending.toList.length)
    (other : ¬ "_en".toList <:+ ending.toList) : enabledName (name ++ ending) = none := by
  unfold enabledName
  rw [if_neg]
  intro ends
  rw [String.toList_append] at ends
  exact other (List.suffix_of_suffix_length_le ends (List.suffix_append _ _) long)

/-- The attributes of one channel, as they are read in a state. -/
def scanElement (numbers : NumberTexts R) (state : ImuDevices R) (device scan name : String) :
    ScanElement where
  name
  enable _ := (state.content (channelPath device scan name "_en")).elim
    (.error .badOptionalAccess) .ok
  type := (state.content (channelPath device scan name "_type")).elim
    (.error .badOptionalAccess) fun text => .ok text.toList
  index := (state.content (channelPath device scan name "_index")).elim
    (.error .badOptionalAccess) numbers.stoi

/-- A pure step leaves the state. -/
theorem lift_ok {A : Type} {step : Except Thrown A} {value : A}
    (ran : (lift step : Setup R A) before = .ok value after) :
    step = .ok value ∧ after = before := by
  cases step with
  | ok result =>
      cases ran
      exact ⟨rfl, rfl⟩
  | error thrown => cases ran

/-- An entry of the loop is a channel of the directory that the set-up leaves. -/
theorem scanEntry_ok {device : ImuDevice R} {scan entry : String} {found : Option ScanChannel}
    (ran : scanEntry answers numbers device scan entry before = .ok found after) :
    (enabledName entry = none ∧ found = none) ∨ ∃ name, enabledName entry = some name ∧
      ∀ later : ImuDevices R,
        (∀ ending ∈ ["_en", "_type", "_index"],
          later.content (channelPath device.sysfs scan name ending) =
            after.content (channelPath device.sysfs scan name ending)) →
        scanChannel device.kind (scanElement numbers later device.sysfs scan name) = .ok found := by
  obtain ⟨_, _, looked, ran⟩ := bind_ok ran
  cases named : enabledName entry with
  | none =>
      simp only [named] at ran
      cases ran
      exact .inl ⟨rfl, rfl⟩
  | some name =>
      refine .inr ⟨name, rfl, fun later agrees => ?_⟩
      obtain ⟨enable, type, index⟩ : later.content _ = _ ∧ later.content _ = _ ∧ later.content _ = _ :=
        by simpa using agrees
      simp only [named] at ran
      rw [enabledName_eq_some.mp named] at ran
      obtain ⟨_, _, written, ran⟩ := bind_ok ran
      obtain ⟨readback, middle, enabled, ran⟩ := bind_ok ran
      have readback_eq := read_ok enabled
      have unchanged := (read_quiet _).ok enabled
      cases selected : ImuChannel.ofName device.kind name with
      | none =>
          simp only [selected, Option.isSome_none, Bool.false_eq_true, if_false] at ran
          split at ran
          · cases ran
          · rename_i same
            cases ran
            have stored : later.content (channelPath device.sysfs scan name "_en") = some "0" := by
              rw [enable, unchanged.content _ id, ← not_not.mp same]
              exact readback_eq
            simp [scanChannel, scanElement, selected, stored, bind, Except.bind, pure, Except.pure]
      | some channel =>
          simp only [selected, Option.isSome_some, if_true] at ran
          split at ran
          · cases ran
          · rename_i same
            obtain ⟨typeText, _, typed, ran⟩ := bind_ok ran
            obtain ⟨_, _, checked, ran⟩ := bind_ok ran
            obtain ⟨indexText, _, indexed, ran⟩ := bind_ok ran
            obtain ⟨number, _, converted, ran⟩ := bind_ok ran
            cases ran
            have toIndex := Trans.trans ((read_quiet _).ok typed) ((lift_quiet _).ok checked)
            have whole := Trans.trans (Trans.trans toIndex ((read_quiet _).ok indexed))
              ((lift_quiet _).ok converted)
            have stored : later.content (channelPath device.sysfs scan name "_en") = some "1" := by
              rw [enable, whole.content _ id, unchanged.content _ id, ← not_not.mp same]
              exact readback_eq
            have storedType :
                later.content (channelPath device.sysfs scan name "_type") = some typeText := by
              rw [type, whole.content _ id]
              exact read_ok typed
            have storedIndex :
                later.content (channelPath device.sysfs scan name "_index") = some indexText := by
              rw [index, whole.content _ id, ← toIndex.content _ id]
              exact read_ok indexed
            simp [scanChannel, scanElement, selected, stored, storedType, storedIndex,
              (lift_ok checked).1, (lift_ok converted).1, bind, Except.bind, pure, Except.pure]

/-- The loop finds the channels of the directory that the set-up leaves. -/
theorem scanEntries_ok {device : ImuDevice R} {scan : String} {entries : List String}
    {channels : List ScanChannel} (distinct : entries.Nodup)
    (ran : scanEntries answers numbers device scan entries before = .ok channels after) :
    scanChannels device.kind ((entries.filterMap enabledName).map
      (scanElement numbers after device.sysfs scan)) = .ok channels := by
  induction entries generalizing before channels with
  | nil =>
      cases ran
      rfl
  | cons entry rest inductionHypothesis =>
      obtain ⟨outside, distinct⟩ := List.nodup_cons.mp distinct
      obtain ⟨found, middle, first, ran⟩ := bind_ok ran
      obtain ⟨others, _, later, ran⟩ := bind_ok ran
      cases ran
      have rest_ok := inductionHypothesis distinct later
      have within := (scanEntries_within device scan rest).ok later
      rcases scanEntry_ok first with ⟨unnamed, rfl⟩ | ⟨name, named, scanned⟩
      · rw [List.filterMap_cons_none unnamed]
        exact rest_ok
      · have entry_eq := enabledName_eq_some.mp named
        have type_none : enabledName (name ++ "_type") = none :=
          enabledName_other (by decide) (by decide)
        have index_none : enabledName (name ++ "_index") = none :=
          enabledName_other (by decide) (by decide)
        have element := scanned after fun ending member => by
          apply within.content
          rintro ⟨inside, enables⟩
          have enables := enables.2.2
          simp only [List.mem_cons, List.not_mem_nil, or_false] at member
          rcases member with rfl | rfl | rfl
          · exact outside (entry_eq ▸ inside)
          · rw [show (channelPath device.sysfs scan name "_type").name = name ++ "_type" from rfl,
              type_none] at enables
            cases enables
          · rw [show (channelPath device.sysfs scan name "_index").name = name ++ "_index" from rfl,
              index_none] at enables
            cases enables
        rw [List.filterMap_cons_some named, List.map_cons, scanChannels, element]
        exact congrArg (Except.map (found.toList ++ ·)) rest_ok

/-- The scan directory of a device, as it is read in a state. -/
def scanDirectory (answers : SysfsAnswers) (numbers : NumberTexts R) (state : ImuDevices R)
    {device scan : String} {names : List String}
    (listed : answers.tree.folder device scan = some names) : ScanDirectory where
  elements := (names.filterMap enabledName).map (scanElement numbers state device scan)
  distinct := by
    rw [List.map_map, show ScanElement.name ∘ scanElement numbers state device scan = id from rfl,
      List.map_id]
    refine (answers.tree.listed device scan names listed).filterMap fun first second name one two => ?_
    rw [enabledName_eq_some.mp one, enabledName_eq_some.mp two]

/-- The placement leaves the directory of the device. -/
theorem placeChannels_sysfs {device result : ImuDevice R} {offset finish : Nat} {previous : Int}
    {channels : List ScanChannel}
    (placed : placeChannels device offset previous channels = .ok (result, finish)) :
    result.sysfs = device.sysfs := by
  induction channels generalizing device offset previous with
  | nil =>
      cases placed
      rfl
  | cons channel rest inductionHypothesis =>
      obtain ⟨_, _, placed⟩ := placeChannels_cons placed
      rw [inductionHypothesis placed]
      cases channel.channel <;> rfl

/-- The layout is the one of the scan directory that the set-up leaves. -/
theorem loadLayout_ok {device result : ImuDevice R} {scan : String} {names : List String}
    (listed : answers.tree.folder device.sysfs scan = some names)
    (ran : loadLayout answers numbers device scan before = .ok result after) :
    Vio.loadLayout device (scanDirectory answers numbers after listed) = .ok result ∧
      result.sysfs = device.sysfs := by
  obtain ⟨_, _, looked, ran⟩ := bind_ok ran
  obtain ⟨channels, middle, scanned, ran⟩ := bind_ok ran
  rw [listed, Option.getD_some] at scanned
  have found := scanEntries_ok (answers.tree.listed _ _ _ listed) scanned
  split at ran
  · cases ran
  · rename_i four
    obtain ⟨⟨placed, offset⟩, _, fits, ran⟩ := bind_ok ran
    cases ran
    obtain ⟨packed, rfl⟩ := lift_ok fits
    have sysfs : placed.sysfs = device.sysfs := placeChannels_sysfs packed
    refine ⟨?_, sysfs⟩
    have scanned : scanChannels device.kind (scanDirectory answers numbers after listed).elements =
        .ok channels := found
    simp only [Vio.loadLayout, scanned, packed, if_neg four, bind, Except.bind]
    rfl

end ImuDevices
end Vio
