import Mathlib.Algebra.Field.Rat
import Vio.Construction.BagFromRaw
import Vio.Library.FallibleLoop
import Vio.Library.Merging
import Vio.Proof.Imu.OfflinePairing

namespace Vio
namespace BagFromRaw
open FallibleLoop Interpolation

section Streams

theorem int64_small {value : Int} (low : -9223372036854775808 ≤ value)
    (high : value < 9223372036854775808) : int64 value = value := by
  apply Int.bmod_eq_of_le
  · omega
  · omega

/-- A value beyond the range of 64 bits wraps to a negative one. -/
theorem int64_large {value : Int} (low : 9223372036854775808 ≤ value)
    (high : value < 18446744073709551616) : int64 value < 0 := by
  rw [int64, Int.bmod_def]
  split
  · omega
  · omega

/-- Over times of one sign the check of the differences is that of strict increase. -/
theorem diff_positive_iff {times : List Int}
    (bounds : ∀ time ∈ times, 0 ≤ time ∧ time < 9223372036854775808) :
    (∀ step ∈ diff times, 0 < step) ↔ times.Pairwise (· < ·) := by
  induction times with
  | nil => simp [diff]
  | cons first times inductionHypothesis =>
      obtain ⟨firstBounds, later⟩ := List.forall_mem_cons.mp bounds
      have rest := inductionHypothesis later
      cases times with
      | nil => simp [diff]
      | cons second times =>
          have secondBounds := later second (List.mem_cons_self ..)
          have same : int64 (second - first) = second - first := int64_small (by omega) (by omega)
          have split : diff (first :: second :: times) =
              int64 (second - first) :: diff (second :: times) := rfl
          rw [split, List.forall_mem_cons, rest, same, List.pairwise_cons (a := first)]
          refine and_congr_left fun ordered => ?_
          constructor
          · intro step time member
            rcases List.mem_cons.mp member with rfl | member
            · omega
            · have := (List.pairwise_cons.mp ordered).1 time member
              omega
          · intro before
            have := before second (List.mem_cons_self ..)
            omega

/-- The camera's stream: there is a frame, and the times increase within 63 bits. -/
structure Timed {A : Type} (camera : List (Int × A)) : Prop where
  some : camera ≠ []
  increasing : Increasing camera
  bounds : ∀ frame ∈ camera, 0 ≤ frame.1 ∧ frame.1 < 9223372036854775808

theorem Timed.sublist {A : Type} {camera kept : List (Int × A)} (timed : Timed camera)
    (keeps : kept.Sublist camera) (some : kept ≠ []) : Timed kept where
  some := some
  increasing := timed.increasing.sublist keeps
  bounds frame member := timed.bounds frame (keeps.subset member)

/-- The stamps lie in the range of 64 bits. -/
theorem cameraStamps_bounds {metadata : List UInt8} {tc : List Int}
    (found : cameraStamps metadata = .ok tc) :
    ∀ time ∈ tc, 0 ≤ time ∧ time < 9223372036854775808 := by
  unfold cameraStamps at found
  dsimp only at found
  split at found
  · cases found
  · next small =>
      cases found
      intro time member
      obtain ⟨value, listed, rfl⟩ := List.mem_map.mp member
      have below := List.any_eq_false.mp (Bool.eq_false_iff.mpr small) value listed
      rw [decide_eq_true_eq] at below
      show 0 ≤ (value : Int) ∧ (value : Int) < 9223372036854775808
      omega

/-- Frames take the stamps as their times. -/
theorem cameraFrames_timed {frames : List (List Nat)} {tc : List Int} {camera : List (Int × List Nat)}
    (bounds : ∀ time ∈ tc, 0 ≤ time ∧ time < 9223372036854775808)
    (paired : cameraFrames frames tc = .ok camera) : Timed camera := by
  unfold cameraFrames at paired
  dsimp only at paired
  split at paired
  · cases paired
  · split at paired
    · cases paired
    · next forward =>
        split at paired
        · cases paired
        · next some =>
            cases paired
            have kept : ∀ time ∈ tc.take (min tc.length frames.length),
                0 ≤ time ∧ time < 9223372036854775808 :=
              fun time member => bounds time (List.mem_of_mem_take member)
            have times : ((tc.take (min tc.length frames.length)).zip
                (frames.take (min tc.length frames.length))).map Prod.fst =
                  tc.take (min tc.length frames.length) := by
              apply List.map_fst_zip
              rw [List.length_take, List.length_take]
              omega
            have none := List.filter_eq_nil_iff.mp
              (List.length_eq_zero_iff.mp (Nat.eq_zero_of_not_pos forward))
            refine ⟨?_, ?_, ?_⟩
            · intro empty
              have length := congrArg List.length (times.symm.trans (congrArg _ empty))
              rw [List.length_take, List.map_nil, List.length_nil] at length
              omega
            · apply List.pairwise_map.mp
              rw [times]
              apply (diff_positive_iff kept).mp
              intro step member
              have := none step member
              rw [decide_eq_true_eq] at this
              omega
            · intro frame member
              apply kept frame.1
              rw [← times]
              exact List.mem_map_of_mem member

variable {K : Type} [Field K]

/-- A capture that loads has times in the range of 64 bits. -/
theorem capture_timed {arguments : Arguments} {files : Files K} {recording : Capture K}
    (recorded : capture arguments files = .ok recording) : Timed recording.camera := by
  obtain ⟨frames, _, recorded⟩ := bind_ok recorded
  obtain ⟨tc, found, recorded⟩ := bind_ok recorded
  obtain ⟨camera, paired, recorded⟩ := bind_ok recorded
  obtain ⟨gyro, _, recorded⟩ := bind_ok recorded
  obtain ⟨accel, _, recorded⟩ := bind_ok recorded
  obtain ⟨_, _, recorded⟩ := bind_ok recorded
  obtain ⟨_, _, recorded⟩ := bind_ok recorded
  cases recorded
  exact cameraFrames_timed (cameraStamps_bounds found) paired

end Streams

section Kept
variable {K : Type} {recording : Capture K}

/-- The kept frames are those in the span of the gyroscope, and there is one. -/
theorem keptFrames_spans {trimToImu : Bool} {kept : List (Int × List Nat)}
    (timed : Timed recording.camera) (keeps : keptFrames trimToImu recording = .ok kept) :
    kept = recording.camera.filter (fun frame => spans recording.gyro frame.1) ∧ Timed kept := by
  unfold keptFrames at keeps
  split at keeps
  · next gyroFirst gyroLast first last gyroBegins gyroEnds begins ends =>
      have inside (frame : Int × List Nat) : spans recording.gyro frame.1 =
          (decide (gyroFirst.1 ≤ frame.1) && decide (frame.1 ≤ gyroLast.1)) := by
        rw [spans, gyroBegins, gyroEnds, Option.any_some, Option.any_some]
      simp only [inside]
      split at keeps
      · split at keeps
        · cases keeps
        · dsimp only at keeps
          split at keeps
          · cases keeps
          · next enough =>
              cases keeps
              refine ⟨rfl, timed.sublist List.filter_sublist fun empty => enough ?_⟩
              rw [empty]
              decide
      · next covers =>
          cases keeps
          refine ⟨(List.filter_eq_self.mpr fun frame member => ?_).symm, timed⟩
          have early := timed.increasing.head_le begins member
          have late := timed.increasing.le_last ends member
          rw [Bool.and_eq_true, decide_eq_true_eq, decide_eq_true_eq]
          omega
  · cases keeps

/-- Without `--trim-to-imu` no frame is dropped. -/
theorem keptFrames_untrimmed {kept : List (Int × List Nat)}
    (keeps : keptFrames false recording = .ok kept) : kept = recording.camera := by
  unfold keptFrames at keeps
  split at keeps
  · split at keeps
    · cases keeps
    · cases keeps
      rfl
  · cases keeps

/-- The rows of the bag are samples of the gyroscope, in their order. -/
theorem keptSamples_sublist {kept : List (Int × List Nat)} {samples : List (ImuSample K)}
    (keeps : keptSamples recording kept = .ok samples) : samples.Sublist recording.gyro := by
  unfold keptSamples at keeps
  split at keeps
  · cases keeps
    exact List.filter_sublist
  · cases keeps

/-- The window of the kept samples around the first and the last kept frame. -/
theorem keptSamples_window {kept : List (Int × List Nat)} {samples : List (ImuSample K)}
    {first last : Int × List Nat} (begins : kept.head? = some first) (ends : kept.getLast? = some last)
    (keeps : keptSamples recording kept = .ok samples) :
    samples = recording.gyro.filter fun sample =>
      decide (int64 (first.1 - 1000000000) ≤ sample.1) &&
        decide (sample.1 ≤ int64 (last.1 + 1000000000)) && spans recording.accel sample.1 := by
  unfold keptSamples at keeps
  rw [begins, ends] at keeps
  split at keeps
  · next accelFirst accelLast found same accelBegins accelEnds =>
      cases found
      cases same
      cases keeps
      apply List.filter_congr
      intro sample _
      rw [spans, accelBegins, accelEnds, Option.any_some, Option.any_some, Bool.and_assoc]
  · cases keeps

end Kept

section Messages
variable {K : Type}

def BagMessage.time : BagMessage K → Int
  | .image time _ => time
  | .imu time _ => time

def BagMessage.header : BagMessage K → Header
  | .image _ message => message.header
  | .imu _ message => message.header

def BagMessage.isImage : BagMessage K → Bool
  | .image _ _ => true
  | .imu _ _ => false

def Header.ns (header : Header) : Int := 1000000000 * header.sec + header.nanosec

@[simp] theorem imageMessage_time (arguments : Arguments) (frame : Int × List Nat) :
    (imageMessage arguments frame : BagMessage K).time = frame.1 := rfl

@[simp] theorem imuMessage_time (row : KalibrRow K) : (imuMessage row).time = row.timestamp := rfl

@[simp] theorem imageMessage_isImage (arguments : Arguments) (frame : Int × List Nat) :
    (imageMessage arguments frame : BagMessage K).isImage = true := rfl

@[simp] theorem imuMessage_isImage (row : KalibrRow K) : (imuMessage row).isImage = false := rfl

theorem stamp_ns (ns : Int) (frame : String) : (stamp ns frame).ns = ns := Int.mul_ediv_add_emod ns _

/-- The loop merges the images and the IMU messages by their times. -/
theorem playback_eq (arguments : Arguments) (frames : List (Int × List Nat))
    (rows : List (KalibrRow K)) :
    playback arguments frames rows =
      Merging.byKey BagMessage.time (frames.map (imageMessage arguments)) (rows.map imuMessage) := by
  unfold Merging.byKey
  induction frames, rows using playback.induct with
  | case1 => rw [playback, List.map_nil, List.map_nil, List.nil_merge]
  | case2 frame frames inductionHypothesis =>
      rw [playback, inductionHypothesis, List.map_nil, List.merge_right, List.merge_right, List.map_cons]
  | case3 row rows inductionHypothesis =>
      rw [playback, inductionHypothesis, List.map_nil, List.nil_merge, List.nil_merge, List.map_cons]
  | case4 frame frames row rows early inductionHypothesis =>
      rw [playback, if_pos early, inductionHypothesis, List.map_cons, List.map_cons,
        List.cons_merge_cons, imageMessage_time, imuMessage_time, if_pos (decide_eq_true early)]
  | case5 frame frames row rows late inductionHypothesis =>
      rw [playback, if_neg late, inductionHypothesis, List.map_cons, List.map_cons,
        List.cons_merge_cons, imageMessage_time, imuMessage_time, if_neg (by simpa using late)]

section Loop
variable {arguments : Arguments} {frames : List (Int × List Nat)} {rows : List (KalibrRow K)}

/-- The messages are written in the order of their times. -/
theorem playback_sorted (frameOrder : Increasing frames)
    (rowOrder : rows.Pairwise fun early late => early.timestamp < late.timestamp) :
    (playback arguments frames rows).Pairwise fun early late => early.time ≤ late.time := by
  rw [playback_eq]
  apply Merging.byKey_sorted
  · exact List.pairwise_map.mpr (frameOrder.imp fun before => Int.le_of_lt before)
  · exact List.pairwise_map.mpr (rowOrder.imp fun before => Int.le_of_lt before)

variable (arguments frames rows) in
/-- The images and the IMU messages are the frames and the rows, each once and in their order. -/
theorem playback_parts :
    (playback arguments frames rows).filter BagMessage.isImage = frames.map (imageMessage arguments) ∧
      (playback arguments frames rows).filter (fun message => !message.isImage) =
        rows.map imuMessage := by
  rw [playback_eq]
  apply Merging.filter_merge
  · intro message member
    obtain ⟨frame, _, rfl⟩ := List.mem_map.mp member
    exact imageMessage_isImage arguments frame
  · intro message member
    obtain ⟨row, _, rfl⟩ := List.mem_map.mp member
    exact imuMessage_isImage row

/-- The header of each message has its time. -/
theorem playback_ns {message : BagMessage K} (member : message ∈ playback arguments frames rows) :
    message.header.ns = message.time := by
  rw [playback_eq, Merging.byKey, List.mem_merge] at member
  rcases member with member | member
  · obtain ⟨frame, _, rfl⟩ := List.mem_map.mp member
    exact stamp_ns ..
  · obtain ⟨row, _, rfl⟩ := List.mem_map.mp member
    exact stamp_ns ..

end Loop

/-- Each image lies between the first and the last IMU message. -/
def Covered (messages : List (BagMessage K)) : Prop :=
  ∀ message ∈ messages, message.isImage = true →
    (∃ first ∈ (messages.filter fun message => !message.isImage).head?, first.time ≤ message.time) ∧
    ∃ last ∈ (messages.filter fun message => !message.isImage).getLast?, message.time ≤ last.time

instance (messages : List (BagMessage K)) : Decidable (Covered messages) :=
  inferInstanceAs (Decidable (∀ _ ∈ _, _ → _))

/-- The written samples cover the images where they span the frames. -/
theorem playback_covered (arguments : Arguments) (interp : Int → List Int → List K → K)
    (accel : List (ImuSample K)) {frames : List (Int × List Nat)} {stream : List (ImuSample K)} :
    Covered (playback arguments frames (stream.map (imuRow interp accel))) ↔
      ∀ frame ∈ frames, spans stream frame.1 = true := by
  obtain ⟨images, samples⟩ := playback_parts arguments frames
    (stream.map (imuRow interp accel))
  have ends (frame : Int × List Nat) : spans stream frame.1 = true ↔
      (∃ first ∈ ((stream.map (imuRow interp accel)).map imuMessage).head?, first.time ≤ frame.1) ∧
      ∃ last ∈ ((stream.map (imuRow interp accel)).map imuMessage).getLast?, frame.1 ≤ last.time := by
    rw [spans_iff]
    simp only [List.head?_map, List.getLast?_map, Option.map_map, Option.mem_def,
      Option.map_eq_some_iff, exists_exists_and_eq_and, Function.comp_apply, imuMessage_time, imuRow]
  unfold Covered
  rw [samples]
  constructor
  · intro covered frame member
    have written : imageMessage arguments frame ∈
        (playback arguments frames (stream.map (imuRow interp accel))).filter BagMessage.isImage := by
      rw [images]
      exact List.mem_map_of_mem member
    exact (ends frame).mpr (covered _ (List.mem_of_mem_filter written) rfl)
  · intro inside message member image
    have written := List.mem_filter.mpr ⟨member, image⟩
    rw [images] at written
    obtain ⟨frame, kept, rfl⟩ := List.mem_map.mp written
    exact (ends frame).mp (inside frame kept)

end Messages

section Coverage
variable {K : Type}

/-- The gyroscope has a sample in the accelerometer's span within the second up to the first frame that
it covers, and one within the second from the last such frame on. -/
def Capture.Covers (recording : Capture K) : Prop :=
  (∀ first ∈ (recording.camera.filter fun frame => spans recording.gyro frame.1).head?,
    ∃ sample ∈ recording.gyro, spans recording.accel sample.1 = true ∧
      first.1 - 1000000000 ≤ sample.1 ∧ sample.1 ≤ first.1) ∧
  ∀ last ∈ (recording.camera.filter fun frame => spans recording.gyro frame.1).getLast?,
    ∃ sample ∈ recording.gyro, spans recording.accel sample.1 = true ∧
      last.1 ≤ sample.1 ∧ sample.1 ≤ last.1 + 1000000000 ∧ last.1 + 1000000000 < 9223372036854775808

instance (recording : Capture K) : Decidable recording.Covers :=
  inferInstanceAs (Decidable (_ ∧ _))

/-- The kept samples span the kept frames exactly where the recording covers its frames. -/
theorem keptSamples_covers {recording : Capture K} {trimToImu : Bool} {kept : List (Int × List Nat)}
    {samples : List (ImuSample K)} (timed : Timed recording.camera)
    (increasing : Increasing recording.gyro) (frames : keptFrames trimToImu recording = .ok kept)
    (keeps : keptSamples recording kept = .ok samples) :
    (∀ frame ∈ kept, spans samples frame.1 = true) ↔ recording.Covers := by
  obtain ⟨same, keptTimed⟩ := keptFrames_spans timed frames
  have begins := List.head?_eq_some_head keptTimed.some
  have ends := List.getLast?_eq_some_getLast keptTimed.some
  generalize kept.head keptTimed.some = first at begins
  generalize kept.getLast keptTimed.some = last at ends
  have firstBounds := keptTimed.bounds first (List.mem_of_head? begins)
  have lastBounds := keptTimed.bounds last (List.mem_of_getLast? ends)
  have forward : first.1 ≤ last.1 := keptTimed.increasing.le_last ends (List.mem_of_head? begins)
  have margin : int64 (first.1 - 1000000000) = first.1 - 1000000000 :=
    int64_small (by omega) (by omega)
  have window := keptSamples_window begins ends keeps
  have samplesIncreasing : Increasing samples := increasing.sublist (keptSamples_sublist keeps)
  have listed (sample : ImuSample K) : sample ∈ samples ↔ sample ∈ recording.gyro ∧
      (first.1 - 1000000000 ≤ sample.1 ∧ sample.1 ≤ int64 (last.1 + 1000000000)) ∧
        spans recording.accel sample.1 = true := by
    rw [window, List.mem_filter, margin]
    simp only [Bool.and_eq_true, decide_eq_true_eq]
  rw [forall_spans_iff samplesIncreasing keptTimed.increasing begins ends, Capture.Covers, ← same, begins, ends]
  simp only [Option.mem_def, Option.some.injEq, forall_eq']
  constructor
  · rintro ⟨⟨early, earlyMember, before⟩, late, lateMember, after⟩
    obtain ⟨earlyGyro, earlyWindow, earlyAccel⟩ := (listed early).mp earlyMember
    obtain ⟨lateGyro, lateWindow, lateAccel⟩ := (listed late).mp lateMember
    refine ⟨⟨early, earlyGyro, earlyAccel, earlyWindow.1, before⟩, late, lateGyro, lateAccel, after, ?_⟩
    -- A window that wraps around ends before every frame.
    rcases lt_or_ge (last.1 + 1000000000) 9223372036854775808 with fits | wraps
    · have := int64_small (by omega) fits
      omega
    · have := int64_large wraps (by omega)
      omega
  · rintro ⟨⟨early, earlyGyro, earlyAccel, near, before⟩, late, lateGyro, lateAccel, after, close, fits⟩
    have upper := int64_small (by omega) fits
    have earlyMember : early ∈ samples := (listed early).mpr ⟨earlyGyro, ⟨near, by omega⟩, earlyAccel⟩
    have lateMember : late ∈ samples := (listed late).mpr ⟨lateGyro, ⟨by omega, by omega⟩, lateAccel⟩
    exact ⟨⟨early, earlyMember, before⟩, late, lateMember, after⟩

/-- The messages of a bag come from the kept frames and the kept samples. -/
theorem main_written [Field K] {interp : Int → List Int → List K → K}
    {read : List (BagMessage K) → List String} {arguments : Arguments} {files : Files K}
    {recording : Capture K} {messages : List (BagMessage K)}
    (recorded : capture arguments files = .ok recording)
    (converts : main interp read arguments files = .ok messages) :
    ∃ kept samples, keptFrames arguments.trimToImu recording = .ok kept ∧
      keptSamples recording kept = .ok samples ∧
      messages = playback arguments kept (samples.map (imuRow interp recording.accel)) := by
  obtain ⟨found, same, converts⟩ := bind_ok converts
  obtain rfl := Except.ok.inj (recorded.symm.trans same)
  obtain ⟨kept, frames, converts⟩ := bind_ok converts
  obtain ⟨samples, keeps, converts⟩ := bind_ok converts
  obtain ⟨_, _, converts⟩ := bind_ok converts
  exact ⟨kept, samples, frames, keeps, (Except.ok.inj converts).symm⟩

/-- A bag holds its messages in the order of their stamps, with each kept frame and each kept sample
once. Each image lies between the first and the last IMU message exactly where the gyroscope has samples
in the accelerometer's span close to both ends of the frames that it covers. -/
theorem bag_coverage [Field K] {interp : Int → List Int → List K → K}
    {read : List (BagMessage K) → List String} {arguments : Arguments} {files : Files K}
    {recording : Capture K} {messages : List (BagMessage K)}
    (recorded : capture arguments files = .ok recording) (increasing : Increasing recording.gyro)
    (converts : main interp read arguments files = .ok messages) :
    ∃ kept samples, keptFrames arguments.trimToImu recording = .ok kept ∧
      keptSamples recording kept = .ok samples ∧
      kept = recording.camera.filter (fun frame => spans recording.gyro frame.1) ∧
      (arguments.trimToImu = false → kept = recording.camera) ∧
      messages.Pairwise (fun early late => early.time ≤ late.time) ∧
      (∀ message ∈ messages, message.header.ns = message.time) ∧
      messages.filter BagMessage.isImage = kept.map (imageMessage arguments) ∧
      messages.filter (fun message => !message.isImage) =
        samples.map (fun sample => imuMessage (imuRow interp recording.accel sample)) ∧
      (Covered messages ↔ recording.Covers) := by
  obtain ⟨kept, samples, frames, keeps, rfl⟩ := main_written recorded converts
  have timed := capture_timed recorded
  obtain ⟨same, keptTimed⟩ := keptFrames_spans timed frames
  have rowsIncreasing : (samples.map (imuRow interp recording.accel)).Pairwise fun early late =>
      early.timestamp < late.timestamp :=
    List.pairwise_map.mpr (increasing.sublist (keptSamples_sublist keeps))
  obtain ⟨images, imus⟩ := playback_parts arguments kept (samples.map (imuRow interp recording.accel))
  refine ⟨kept, samples, frames, keeps, same, fun untrimmed => ?_,
    playback_sorted keptTimed.increasing rowsIncreasing, fun message member => playback_ns member,
    images, ?_, ?_⟩
  · rw [untrimmed] at frames
    exact keptFrames_untrimmed frames
  · rw [imus, List.map_map]
    rfl
  · rw [playback_covered]
    exact keptSamples_covers timed increasing frames keeps

section Example

def walkChannel (name : String) (offset : Int) (storage : Nat) : Channel where
  name := name
  offset := offset
  endian := .little
  signed := true
  bits := 8 * storage
  storage := storage
  shift := 0

def walkDevice (kind : ImuKind) : SidecarDevice ℚ where
  sysfs := "/sys/bus/iio/devices/iio:device0"
  chardev := "/dev/iio:device0"
  name := "imu"
  odrHz := 1
  scale := 1 / 2
  timestampClock := "monotonic"
  recordBytes := 16
  channels := [walkChannel (kind.stem ++ "x") 0 2, walkChannel (kind.stem ++ "y") 2 2,
    walkChannel (kind.stem ++ "z") 4 2, walkChannel "in_timestamp" 8 8]
  file := kind.name

/-- Two frames of one pixel at 600 and 900, and gyroscope samples at 512, 768 and 1024. -/
def walk (accel : List UInt8) : Files ℚ where
  y16 := [0, 1, 0, 2]
  metadata := ascii "[\x7b\"SensorTimestamp\": 600\x7d, \x7b\"SensorTimestamp\": 900\x7d]"
  side kind := some (walkDevice kind)
  contents file :=
    if file = ImuKind.gyro.name then ImuThread.wire 0 2 1 ++ ImuThread.wire 0 3 1 ++ ImuThread.wire 0 4 1
    else accel

def walkArguments : Arguments where
  path := "walk"
  width := 1
  height := 1

/-- Both frames lie within the span of the samples. -/
theorem bag_coverage_walk :
    let files := walk (ImuThread.wire 0 2 8 ++ ImuThread.wire 0 4 8)
    ∃ recording messages, capture walkArguments files = .ok recording ∧
      main ImuThread.lineInterp (List.map BagMessage.topic) walkArguments files = .ok messages ∧
      recording.Covers ∧ Covered messages ∧
      messages.map BagMessage.time = [512, 600, 768, 900, 1024] := by
  intro files
  have read : (capture walkArguments files).toOption.any (fun recording =>
      decide (recording.Covers ∧ recording.gyro.Pairwise fun left right => left.1 < right.1)) = true := by
    decide +kernel
  have times : (main ImuThread.lineInterp (List.map BagMessage.topic) walkArguments files).toOption.any
      (fun messages => decide (messages.map BagMessage.time = [512, 600, 768, 900, 1024])) = true := by
    decide +kernel
  obtain ⟨recording, recorded, facts⟩ := ok_of_any read
  obtain ⟨covers, increasing⟩ := decide_eq_true_eq.mp facts
  obtain ⟨messages, converts, written⟩ := ok_of_any times
  obtain ⟨kept, samples, _, _, _, _, _, _, _, _, covered⟩ := bag_coverage recorded increasing converts
  exact ⟨recording, messages, recorded, converts, covers, covered.mpr covers, decide_eq_true_eq.mp written⟩

/-- The accelerometer starts after the first frame, and the bag begins with that frame. -/
theorem image_before_imu :
    let files := walk (ImuThread.wire 0 3 8 ++ ImuThread.wire 0 4 8)
    ∃ recording messages, capture walkArguments files = .ok recording ∧
      Increasing recording.camera ∧ Increasing recording.gyro ∧ Increasing recording.accel ∧
      main ImuThread.lineInterp (List.map BagMessage.topic) walkArguments files = .ok messages ∧
      messages.map BagMessage.time = [600, 768, 900, 1024] ∧ ¬ Covered messages := by
  intro files
  have read : (capture walkArguments files).toOption.any (fun recording =>
      decide ((recording.gyro.Pairwise fun left right => left.1 < right.1) ∧
        recording.accel.Pairwise fun left right => left.1 < right.1)) = true := by
    decide +kernel
  have times : (main ImuThread.lineInterp (List.map BagMessage.topic) walkArguments files).toOption.any
      (fun messages => decide (messages.map BagMessage.time = [600, 768, 900, 1024] ∧
        ¬ Covered messages)) = true := by
    decide +kernel
  obtain ⟨recording, recorded, facts⟩ := ok_of_any read
  obtain ⟨gyro, accel⟩ := decide_eq_true_eq.mp facts
  obtain ⟨messages, converts, written⟩ := ok_of_any times
  exact ⟨recording, messages, recorded, (capture_timed recorded).increasing, gyro, accel, converts,
    decide_eq_true_eq.mp written⟩

end Example

end Coverage

end BagFromRaw
end Vio
