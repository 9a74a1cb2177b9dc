import Vio.Proof.Camera.FrameRoundTrip
import Vio.Proof.Capture.FeatureJoin
import Vio.Proof.Fifo.FifoPairing

namespace Vio
open RecordScan

namespace MetaThread

/-- A text without quotation marks holds no record. -/
theorem numbers_skip {skipped : List UInt8} (plain : 34 ∉ skipped) (rest : List UInt8) :
    numbers (skipped ++ rest) = numbers rest := by
  have missing : ∀ place < skipped.length, ¬ key <+: (skipped ++ rest).drop place := by
    intro place inside occurs
    have head : key = 34 :: key.tail := by decide
    have here : (skipped ++ rest)[place]? = some 34 := by
      obtain ⟨later, same⟩ := occurs
      rw [← List.head?_drop, ← same, head]
      rfl
    rw [List.getElem?_append_left inside] at here
    exact plain (List.mem_of_getElem? here)
  rw [numbers, scan_drop missing, List.drop_left, ← numbers]

/-- A byte that does not begin the key is skipped. -/
theorem numbers_other {byte : UInt8} {rest : List UInt8} (other : ¬ key <+: byte :: rest) :
    numbers (byte :: rest) = numbers rest := by
  have missing : ∀ place < 1, ¬ key <+: (byte :: rest).drop place := by
    intro place first
    obtain rfl := Nat.lt_one_iff.mp first
    exact other
  rw [numbers, scan_drop missing]
  rfl

theorem numbers_byte {byte : UInt8} (plain : byte ≠ 34) (rest : List UInt8) :
    numbers (byte :: rest) = numbers rest :=
  @numbers_skip [byte] (by simpa using plain.symm) rest

/-- A number between a key and a byte that ends it is a record. -/
theorem numbers_key {digits : List UInt8} (all : ∀ byte ∈ digits, Decimal.isDigit byte = true)
    {last : UInt8} (ends : endsNumber last = true) (rest : List UInt8) :
    numbers (key ++ (58 :: (digits ++ last :: rest))) = digits :: numbers (last :: rest) := by
  have colon : findFrom isColon (key ++ (58 :: (digits ++ last :: rest))) 0 = some 17 := by
    refine findFrom_eq_some.mpr ⟨Nat.zero_le _, ?_, fun place _ before => ?_⟩
    · rw [List.getElem?_append_right (Nat.le_of_eq key_length), key_length]
      rfl
    · rw [List.getElem?_append_left (by rw [key_length]; exact before)]
      revert place
      decide
  have after : (key ++ (58 :: (digits ++ last :: rest))).drop 18 = digits ++ last :: rest := by
    have split : key ++ (58 :: (digits ++ last :: rest)) = (key ++ [58]) ++ (digits ++ last :: rest) := by
      rw [List.append_assoc]
      rfl
    rw [split, List.drop_left' (by rw [List.length_append, key_length]; rfl)]
  have inner (byte : UInt8) (digit : Decimal.isDigit byte = true) : endsNumber byte = false := by
    have different : byte ≠ 44 ∧ byte ≠ 125 ∧ byte ≠ 10 := by
      refine ⟨?_, ?_, ?_⟩ <;> rintro rfl <;> revert digit <;> decide
    simp [endsNumber, different]
  have closing : findFrom endsNumber (key ++ (58 :: (digits ++ last :: rest))) 17 =
      some (18 + digits.length) := by
    refine findFrom_eq_some.mpr ⟨by omega, ?_, fun place late before => ?_⟩
    · rw [← List.getElem?_drop, after, List.getElem?_append_right (Nat.le_refl _), Nat.sub_self]
      exact ends
    · rcases Nat.eq_or_lt_of_le late with rfl | later
      · rw [List.getElem?_append_right (Nat.le_of_eq key_length), key_length]
        rfl
      · obtain ⟨offset, rfl⟩ := Nat.exists_eq_add_of_le later
        have inside : offset < digits.length := by omega
        rw [Nat.succ_eq_add_one, ← List.getElem?_drop, after, List.getElem?_append_left inside,
          List.getElem?_eq_getElem inside]
        exact inner _ (all _ (List.getElem_mem inside))
  have record : entry isColon endsNumber (key ++ (58 :: (digits ++ last :: rest))) =
      some (digits, 18 + digits.length) := by
    refine entry_eq_some.mpr ⟨17, colon, closing, ?_⟩
    rw [after, show 18 + digits.length - 17 - 1 = digits.length by omega, List.take_left]
  rw [numbers, scan_entry (List.prefix_append _ _) record (by omega), ← List.drop_drop, after,
    List.drop_left, numbers]

/-- The letters of the second member. -/
def sequenceName : List UInt8 := ascii "Sequence"

/-- The second member of the metadata holds no record. -/
theorem numbers_sequence (rest : List UInt8) :
    numbers (34 :: (sequenceName ++ 34 :: 58 :: rest)) = numbers rest := by
  have first : ¬ key <+: 34 :: (sequenceName ++ 34 :: 58 :: rest) := by
    intro occurs
    have begins : [34, 83, 101, 110] <+: key := by decide
    have letters : sequenceName = [83, 101, 113, 117, 101, 110, 99, 101] := by decide
    have clash := begins.trans occurs
    rw [letters] at clash
    simp at clash
  have second : ¬ key <+: 34 :: 58 :: rest := by
    intro occurs
    have begins : [34, 83] <+: key := by decide
    have clash := begins.trans occurs
    simp at clash
  rw [numbers_other first, numbers_skip (by decide), numbers_other second, numbers_byte (by decide)]

/-- The metadata of a frame holds one number. -/
theorem numbers_frameMetadata (idx : Nat) (frame : CameraFrame) (rest : List UInt8) :
    numbers (frameMetadata idx frame ++ rest) =
      Decimal.print frame.timestamp_ns :: numbers rest := by
  have separator : 34 ∉ (if idx = 1 then [] else ascii ",\n") ++ ascii "\x7b" := by
    split <;> decide
  have text : frameMetadata idx frame ++ rest =
      ((if idx = 1 then [] else ascii ",\n") ++ ascii "\x7b") ++
        (key ++ (58 :: (Decimal.print frame.timestamp_ns ++ 44 ::
          (34 :: (sequenceName ++ 34 :: 58 ::
            (Decimal.print frame.sequence ++ (ascii "\x7d" ++ rest))))))) := by
    simp only [frameMetadata, List.append_assoc]
    rfl
  have plain : 34 ∉ Decimal.print frame.sequence := not_quote_of_digit (Decimal.print_digits _)
  rw [text, numbers_skip separator, numbers_key (Decimal.print_digits _) (by decide),
    numbers_byte (by decide), numbers_sequence, numbers_skip plain,
    numbers_skip (by decide)]

/-- The numbers of the metadata are the printed stamps, in order. -/
theorem numbers_metadataText (idx : Nat) (frames : List CameraFrame) (rest : List UInt8) :
    numbers (metadataText idx frames ++ rest) =
      frames.map (fun frame => Decimal.print frame.timestamp_ns) ++ numbers rest := by
  induction frames generalizing idx with
  | nil => rfl
  | cons frame frames inductionHypothesis =>
      rw [metadataText, List.append_assoc, numbers_frameMetadata, inductionHypothesis]
      rfl

/-- The largest 64-bit timestamp. -/
def lastTimestamp : Nat := 9223372036854775807

/-- A printed stamp in the range of 64 bits is read back. -/
theorem stoll_print {value : Nat} (ranged : value ≤ lastTimestamp) :
    stoll (Decimal.print value) = .ok (value : Int) := by
  have digits := Decimal.print_digits value
  have ended : Decimal.Stops [] := by intro byte rest same; cases same
  have read := Decimal.read_print value ended
  rw [List.append_nil] at read
  cases same : Decimal.print value with
  | nil => exact absurd same (Decimal.print_ne_nil value)
  | cons byte more =>
      have digit := digits byte (by rw [same]; exact List.mem_cons_self)
      obtain ⟨solid, unsigned⟩ := InputStream.not_isSpace_of_isDigit digit
      rw [same] at read
      unfold stoll
      rw [List.dropWhile_cons_of_neg (by rw [solid]; exact Bool.false_ne_true)]
      unfold lastTimestamp at ranged
      split
      · rename_i head
        exact absurd (List.cons.inj head).1 unsigned.1
      · rename_i head
        exact absurd (List.cons.inj head).1 unsigned.2
      · simp only [read]
        rw [if_neg]
        · rfl
        · simp only [Bool.false_eq_true, if_false]
          omega

end MetaThread

namespace FrameReplay

/-- The first bytes of a stream give the first frames. -/
theorem frameThread_append {npx : Nat} (positive : 0 < 2 * npx) (idx : Nat) (bytes later : List UInt8) (stamps : List Int) :
    (frameThread npx idx bytes stamps).1 <+: (frameThread npx idx (bytes ++ later) stamps).1 ∧
    ((frameThread npx idx (bytes ++ later) stamps).2 = none →
      (frameThread npx idx bytes stamps).2 = none ∧
      (frameThread npx idx bytes stamps).1 =
        (frameThread npx idx (bytes ++ later) stamps).1.take (bytes.length / (2 * npx))) := by
  induction stamps generalizing idx bytes with
  | nil => exact ⟨List.nil_prefix, fun _ => ⟨rfl, List.take_nil.symm⟩⟩
  | cons ts stamps inductionHypothesis =>
      by_cases short : bytes.length < 2 * npx
      · rw [frameThread_short short, Nat.div_eq_of_lt short]
        exact ⟨List.nil_prefix, fun _ => ⟨rfl, rfl⟩⟩
      · obtain ⟨raw, rest, whole, rfl⟩ : ∃ raw rest : List UInt8, raw.length = 2 * npx ∧
            bytes = raw ++ rest :=
          ⟨bytes.take (2 * npx), bytes.drop (2 * npx),
            by rw [List.length_take, Nat.min_eq_left (Nat.not_lt.mp short)],
            (List.take_append_drop _ _).symm⟩
        obtain ⟨begins, all⟩ := inductionHypothesis (idx + 1) rest
        rw [List.append_assoc, frameThread_cons whole, frameThread_cons whole]
        by_cases tainted : lowBytesClear npx (if idx + 1 = 1 then 1 else 997) raw = false
        · rw [if_pos tainted, if_pos tainted]
          refine ⟨List.prefix_rfl, fun clear => ?_⟩
          cases clear
        · rw [if_neg tainted, if_neg tainted]
          refine ⟨(List.prefix_cons_inj _).mpr begins, fun clear => ?_⟩
          obtain ⟨none, same⟩ := all clear
          refine ⟨none, ?_⟩
          rw [List.length_append, whole, Nat.add_comm (2 * npx), Nat.add_div_right _ positive,
            List.take_succ_cons, ← same]

end FrameReplay

namespace NativeCapture
open MetaThread
variable {files : List RecordingFile} {capture : NativeCapture} {filePrefix : String}
    {estimateLog : Option String}

/-- The metadata chunks of consecutive frames. -/
def metadataChunks : Nat → List CameraFrame → List RecordingChunk
  | _, [] => []
  | idx, frame :: frames =>
      recordingText 3 (frameMetadata idx frame) :: metadataChunks (idx + 1) frames

/-- The metadata file gets one chunk for each frame. -/
theorem chunks_metadata (idx : Nat) (frames : List CameraFrame) :
    (chunksOf (cameraRecords idx frames)).filter (fun chunk => chunk.file = 3) =
      metadataChunks idx frames := by
  induction frames generalizing idx with
  | nil => rfl
  | cons frame frames inductionHypothesis =>
      have split : chunksOf (cameraRecords idx (frame :: frames)) =
          (cameraRecord idx frame).chunks ++ chunksOf (cameraRecords (idx + 1) frames) := rfl
      rw [split, List.filter_append, inductionHypothesis]
      rfl

/-- A beginning of the chunks is the chunks of the first frames. -/
theorem metadataChunks_begin {idx : Nat} {frames : List CameraFrame} {chunks : List RecordingChunk}
    (begins : chunks <+: metadataChunks idx frames) :
    ∃ count, chunks = metadataChunks idx (frames.take count) := by
  induction frames generalizing idx chunks with
  | nil =>
      obtain rfl := List.prefix_nil.mp begins
      exact ⟨0, rfl⟩
  | cons frame frames inductionHypothesis =>
      cases chunks with
      | nil => exact ⟨0, rfl⟩
      | cons chunk chunks =>
          obtain ⟨rfl, later⟩ := List.cons_prefix_cons.mp begins
          obtain ⟨count, rfl⟩ := inductionHypothesis later
          exact ⟨count + 1, rfl⟩

/-- The bytes of the chunks are the text of the frames. -/
theorem bytes_metadataChunks (idx : Nat) (frames : List CameraFrame) :
    (metadataChunks idx frames).flatMap RecordingChunk.bytes = metadataText idx frames := by
  induction frames generalizing idx with
  | nil => rfl
  | cons frame frames inductionHypothesis =>
      rw [metadataChunks, List.flatMap_cons, inductionHypothesis]
      rfl

/-- What a file holds follows the records of the frames, up to a torn end. -/
theorem Sound.begun (sound : capture.Sound files) {index : Nat} (own : writes .camera index)
    {file : RecordingFile} (here : files[index]? = some file) :
    ∃ chunks, chunks <+: (chunksOf (cameraRecords 1 capture.frames)).filter
        (fun chunk => chunk.file = index) ∧
      capture.content index <+: file.header ++ chunks.flatMap RecordingChunk.bytes ++ file.footer := by
  have started := sound.recorder.flow.started
  have shaped (record : RecordingRecord)
      (member : record ∈ handedRecords capture.recording.history) : Shaped record :=
    sound.shaped (started.subset member)
  have first : chunksOf (onStream .camera (handedRecords capture.recording.history)) <+:
      chunksOf (cameraRecords 1 capture.frames) :=
    (((started.filter _).trans sound.camera.begins).trans (due_begins _ _ _)).flatMap _
  obtain ⟨chunks, _, ends, given⟩ := sound.stored.given
  have whole := ends.filter fun chunk => chunk.file = index
  rw [chunks_onStream own shaped] at whole
  refine ⟨_, whole.trans (first.filter _), ?_⟩
  rw [content]
  cases found : capture.recording.sinkState.outputs[index]? with
  | none => exact List.nil_prefix
  | some output =>
      obtain ⟨file', here', stored⟩ := given index output found
      rw [sound.stored.files, here] at here'
      cases here'
      have ending : outputText file index chunks ++ capture.recording.sinkState.ending file <+:
          outputText file index chunks ++ file.footer := by
        rw [FileSink.ending]
        split
        · exact (List.prefix_append_right_inj _).mpr List.nil_prefix
        · exact List.prefix_rfl
      exact stored.begins.trans ending

/-- The metadata comes from the first frames, up to a torn end. -/
theorem Sound.metadataBegun (sound : capture.Sound (captureFiles filePrefix estimateLog)) :
    ∃ count, capture.content 3 <+:
      ascii "[\n" ++ metadataText 1 (capture.frames.take count) ++ ascii "\n]\n" := by
  have file : (captureFiles filePrefix estimateLog)[3]? =
      some ⟨filePrefix ++ ".meta.json", ascii "[\n", ascii "\n]\n"⟩ := rfl
  obtain ⟨chunks, first, begins⟩ := sound.begun (.inr rfl) file
  rw [chunks_metadata] at first
  obtain ⟨count, rfl⟩ := metadataChunks_begin first
  rw [bytes_metadataChunks] at begins
  exact ⟨count, begins⟩

/-- A file that was cut holds the beginning of the raw frames. -/
theorem Sound.pixelsBegun (sound : capture.Sound (captureFiles filePrefix estimateLog)) :
    capture.content 2 <+: capture.frames.flatMap fun frame => rawPixels frame.pixels := by
  have file : (captureFiles filePrefix estimateLog)[2]? =
      some ⟨filePrefix ++ ".y16", [], []⟩ := rfl
  obtain ⟨chunks, first, begins⟩ := sound.begun (.inl rfl) file
  rw [List.nil_append, List.append_nil] at begins
  refine begins.trans ?_
  rw [← addressed_raw 1]
  exact first.flatMap _

/-- A frame as the frame thread hands it on. -/
def replayed (frame : CameraFrame) : Int × List UInt8 := (frame.timestamp_ns, frame.pixels)

def stampOf (frame : CameraFrame) : Int := frame.timestamp_ns

/-- The stamps of the first frames pair with the pixels of these frames. -/
theorem zip_replayed (frames : List CameraFrame) (count : Nat) :
    ((frames.take count).map stampOf).zip (frames.map CameraFrame.pixels) =
      (frames.map replayed).take count := by
  induction frames generalizing count with
  | nil => rw [List.take_nil, List.map_nil, List.map_nil, List.map_nil, List.take_nil, List.zip_nil_left]
  | cons frame frames inductionHypothesis =>
      cases count with
      | zero => rfl
      | succ count => exact congrArg (replayed frame :: ·) (inductionHypothesis count)

/-- A part of the raw bytes gives the frames that are whole in it. -/
theorem frameThread_begun {npx : Nat} (positive : 0 < npx) {frames : List CameraFrame}
    (sized : ∀ frame ∈ frames, frame.pixels.length = npx) {bytes : List UInt8}
    (begins : bytes <+: frames.flatMap fun frame => rawPixels frame.pixels) (count : Nat) :
    FrameReplay.frameThread npx 0 bytes ((frames.take count).map stampOf) =
      ((frames.map replayed).take (min (bytes.length / (2 * npx)) count), none) := by
  obtain ⟨later, whole⟩ := begins
  have raw : frames.flatMap (fun frame => rawPixels frame.pixels) =
      ((frames.map CameraFrame.pixels).map rawPixels).flatten := by
    rw [List.map_map, List.flatMap_def]
    rfl
  have all : FrameReplay.frameThread npx 0 (bytes ++ later) ((frames.take count).map stampOf) =
      ((frames.map replayed).take count, none) := by
    rw [whole, raw, FrameReplay.frameThread_rawPixels positive, zip_replayed]
    intro pixels member
    obtain ⟨frame, inside, rfl⟩ := List.mem_map.mp member
    exact sized frame inside
  obtain ⟨_, part⟩ := FrameReplay.frameThread_append (Nat.mul_pos Nat.two_pos positive) 0 bytes
    later ((frames.take count).map stampOf)
  rw [all] at part
  obtain ⟨none, first⟩ := part rfl
  rw [← List.take_take]
  exact Prod.ext first none

/-- The numbers of the metadata are the timestamps of the first frames. -/
theorem mapM_print {frames : List CameraFrame}
    (ranged : ∀ frame ∈ frames, frame.timestamp_ns ≤ lastTimestamp) :
    (frames.map fun frame => Decimal.print frame.timestamp_ns).mapM stoll =
      .ok (frames.map stampOf) := by
  induction frames with
  | nil => rfl
  | cons frame frames inductionHypothesis =>
      obtain ⟨here, later⟩ := List.forall_mem_cons.mp ranged
      rw [List.map_cons, List.mapM_cons, stoll_print here, inductionHypothesis later]
      rfl

theorem numbers_metadataFile (frames : List CameraFrame) :
    numbers (ascii "[\n" ++ metadataText 1 frames ++ ascii "\n]\n") =
      frames.map fun frame => Decimal.print frame.timestamp_ns := by
  have ending : numbers (ascii "\n]\n") = [] := by decide
  rw [List.append_assoc, numbers_skip (by decide), numbers_metadataText, ending, List.append_nil]

/-- A cut of the metadata file may only lose numbers, so it gives the stamps of the first frames. -/
theorem Sound.numbersBegun (sound : capture.Sound (captureFiles filePrefix estimateLog)) :
    ∃ count, numbers (capture.content 3) =
      (capture.frames.take count).map fun frame => Decimal.print frame.timestamp_ns := by
  obtain ⟨count, later, whole⟩ := sound.metadataBegun
  have begins : numbers (capture.content 3) <+: numbers (capture.content 3 ++ later) :=
    scanFrom_append 0 later
  rw [whole, numbers_metadataFile] at begins
  have first := List.prefix_iff_eq_take.mp begins
  rw [← List.map_take, List.take_take] at first
  exact ⟨_, first⟩

/-- Frames of one size take as much of the raw file each. -/
theorem rawFrames_length {size : Nat} {frames : List CameraFrame}
    (sized : ∀ frame ∈ frames, frame.pixels.length = size) :
    (frames.flatMap fun frame => rawPixels frame.pixels).length = frames.length * (2 * size) := by
  induction frames with
  | nil => rw [List.flatMap_nil, List.length_nil, List.length_nil, Nat.zero_mul]
  | cons frame frames inductionHypothesis =>
      obtain ⟨here, later⟩ := List.forall_mem_cons.mp sized
      rw [List.flatMap_cons, List.length_append, inductionHypothesis later, rawPixels_length, here,
        List.length_cons, Nat.add_mul frames.length 1, Nat.one_mul, Nat.add_comm]

/-- The number of camera records that were accepted. -/
def accepted (capture : NativeCapture) : Nat :=
  (onStream .camera (acceptedRecords capture.recording.history)).length

/-- The number of camera records that were written. -/
def written (capture : NativeCapture) : Nat :=
  (onStream .camera (returnedRecords capture.recording.history)).length

/-- Only frames that were read are written. -/
theorem Sound.writtenFrames (sound : capture.Sound files) :
    (capture.frames.take capture.written).length = capture.written := by
  obtain ⟨rest, handed, _⟩ := sound.stored.last
  have accepted : returnedRecords capture.recording.history <+:
      acceptedRecords capture.recording.history := by
    refine List.IsPrefix.trans ?_ sound.recorder.flow.started
    rw [handed]
    exact List.prefix_append _ _
  have first := congrArg List.length (sound.firstFrames accepted)
  rw [cameraRecords_length] at first
  exact first.symm

theorem Sound.acceptedFrames (sound : capture.Sound files) :
    (capture.frames.take capture.accepted).length = capture.accepted := by
  have first := congrArg List.length (sound.firstFrames List.prefix_rfl)
  rw [cameraRecords_length] at first
  exact first.symm

/-- The files hold the numbers and the pixels of the frames that were written. -/
theorem Sound.writtenWhole (sound : capture.Sound (captureFiles filePrefix estimateLog))
    (present : 3 < capture.recording.sinkState.outputs.length) :
    capture.written ≤ (numbers (capture.content 3)).length ∧
      capture.written * (2 * (capture.width * capture.height)) ≤ (capture.content 2).length := by
  rcases Nat.eq_zero_or_pos capture.written with zero | some
  · rw [zero, Nat.zero_mul]
    exact ⟨Nat.zero_le _, Nat.zero_le _⟩
  have rawFile : (captureFiles filePrefix estimateLog)[2]? =
      Option.some ⟨filePrefix ++ ".y16", [], []⟩ := rfl
  have metadataFile : (captureFiles filePrefix estimateLog)[3]? =
      Option.some ⟨filePrefix ++ ".meta.json", ascii "[\n", ascii "\n]\n"⟩ := rfl
  have raw := sound.cameraContent (.inl rfl) rawFile (Nat.lt_of_succ_lt present) some
  have metadata := sound.cameraContent (.inr rfl) metadataFile present some
  rw [outputText, addressed_raw, List.nil_append] at raw
  rw [outputText, addressed_metadata] at metadata
  dsimp only at metadata
  have counted := sound.writtenFrames
  constructor
  · obtain ⟨rest, whole⟩ := metadata
    rw [← whole, List.append_assoc, numbers_skip (by decide), numbers_metadataText,
      List.length_append, List.length_map]
    exact Nat.le_trans (Nat.le_of_eq counted.symm) (Nat.le_add_right _ _)
  · rw [← counted, ← rawFrames_length fun frame member =>
      sound.camera.sized frame (List.mem_of_mem_take member)]
    exact raw.length_le

/-- The files of a recording that was drained hold the accepted frames. -/
theorem Sound.drainedFiles (sound : capture.Sound (captureFiles filePrefix estimateLog))
    (separated : Separated capture.recording.history)
    (drained : saysDrained capture.recording.sinkState.report = true) :
    numbers (capture.content 3) = (capture.frames.take capture.accepted).map
        (fun frame => Decimal.print frame.timestamp_ns) ∧
      capture.content 2 =
        (capture.frames.take capture.accepted).flatMap fun frame => rawPixels frame.pixels := by
  obtain ⟨_, secured⟩ := sound.stored.reported drained
  have whole := secured.complete
  rw [(secured.lossless separated).handed] at whole
  have shaped (record : RecordingRecord)
      (member : record ∈ acceptedRecords capture.recording.history) : Shaped record :=
    sound.shaped member
  have frames := sound.firstFrames List.prefix_rfl
  have stored {index : Nat} {file : RecordingFile} (own : writes .camera index)
      (here : (captureFiles filePrefix estimateLog)[index]? = some file) :
      capture.content index = file.header ++ addressed index
        (chunksOf (cameraRecords 1 (capture.frames.take capture.accepted))) ++ file.footer := by
    have inside := (List.getElem?_eq_some_iff.mp here).1
    rw [← sound.stored.files, ← whole.length] at inside
    obtain ⟨file', here', text⟩ := whole.content index _ (List.getElem?_eq_getElem inside)
    rw [sound.stored.files, here] at here'
    cases here'
    rw [content, List.getElem?_eq_getElem inside]
    refine text.trans ?_
    rw [outputText, addressed_onStream own shaped, frames]
    rfl
  have rawFile : (captureFiles filePrefix estimateLog)[2]? =
      some ⟨filePrefix ++ ".y16", [], []⟩ := rfl
  have metadataFile : (captureFiles filePrefix estimateLog)[3]? =
      some ⟨filePrefix ++ ".meta.json", ascii "[\n", ascii "\n]\n"⟩ := rfl
  rw [stored (.inl rfl) rawFile, stored (.inr rfl) metadataFile, addressed_metadata, addressed_raw,
    numbers_metadataFile, List.nil_append, List.append_nil]
  exact ⟨rfl, rfl⟩

/-- Feeding the files of a recording to the threads that read a capture gives the frames of that
recording again, with their timestamps, however the streams are cut: only a failed read ends the frame
thread with an error, none of the frames that were written is missing at the end, and of a recording
whose report says drained each accepted frame comes back. -/
theorem replay_faithful {filePrefix : String} {estimateLog : Option String}
    {width height maxQueue : Nat} {capture : NativeCapture}
    (reached : Reached (captureFiles filePrefix estimateLog) width height maxQueue capture)
    (positive : 0 < capture.width * capture.height)
    (ranged : ∀ frame ∈ capture.frames, frame.timestamp_ns ≤ lastTimestamp)
    {actions : List FifoAction} {last : FifoCapture}
    (ran : (FifoCapture.start (capture.width * capture.height) positive (capture.content 2)
      (capture.content 3)).run actions = some last) :
    last.handed <+: capture.frames.map replayed ∧
    (∀ thrown, last.stage = .threw thrown → ∃ polling reason,
      thrown = FifoCapture.readFailure polling reason) ∧
    (last.stage = .ended → last.stop = false →
      3 < capture.recording.sinkState.outputs.length →
      (capture.frames.map replayed).take capture.written <+: last.handed) ∧
    (last.stage = .ended → last.stop = false → Separated capture.recording.history →
      saysDrained capture.recording.sinkState.report = true →
      last.handed = (capture.frames.map replayed).take capture.accepted) := by
  have sound := reached.sound
  obtain ⟨count, same⟩ := sound.numbersBegun
  have converted : (numbers (capture.content 3)).mapM stoll =
      .ok ((capture.frames.take count).map stampOf) := by
    rw [same]
    exact mapM_print fun frame member => ranged frame (List.mem_of_mem_take member)
  have pass := frameThread_begun positive sound.camera.sized sound.pixelsBegun count
  have replay := (FifoCapture.start_sound _ positive _ _).run ran
  have npx : last.npx = capture.width * capture.height := FifoCapture.run_npx ran
  obtain ⟨begins, complete, threw⟩ := replay.pairing converted
  rw [npx, pass] at begins complete threw
  refine ⟨begins.trans (List.take_prefix _ _), fun thrown died => ?_, ?_, ?_⟩
  · rcases threw thrown died with read | ⟨reason, _, refused⟩
    · exact read
    · cases (Prod.mk.inj refused).2
  · intro ended unstopped present
    obtain ⟨stamped, stored⟩ := sound.writtenWhole present
    obtain ⟨handed, _⟩ := Prod.mk.inj (complete ended unstopped)
    rw [same, List.length_map] at stamped
    rw [← handed]
    refine List.take_prefix_take_left ?_
    refine Nat.le_min.mpr ⟨?_, Nat.le_trans stamped (List.length_take_le _ _)⟩
    exact (Nat.le_div_iff_mul_le (Nat.mul_pos Nat.two_pos positive)).mpr stored
  · intro ended unstopped separated drained
    obtain ⟨handed, _⟩ := Prod.mk.inj (complete ended unstopped)
    obtain ⟨stamped, stored⟩ := sound.drainedFiles separated drained
    have counted := sound.acceptedFrames
    have enough := congrArg List.length (same.symm.trans stamped)
    rw [List.length_map, List.length_map, counted] at enough
    have size : (capture.content 2).length =
        capture.accepted * (2 * (capture.width * capture.height)) := by
      rw [stored, rawFrames_length fun frame member =>
        sound.camera.sized frame (List.mem_of_mem_take member), counted]
    have within : capture.accepted ≤ count := enough ▸ List.length_take_le _ _
    rw [← handed, size, Nat.mul_div_cancel _ (Nat.mul_pos Nat.two_pos positive),
      Nat.min_eq_left within]

namespace SampleCapture

/-- The files of the sample are read in two parts each. -/
def replaying : List FifoAction :=
  [.checkFrames, .readFrames 1, .checkMetadata, .readMetadata 30, .checkFrames, .readFrames 1, .scan,
    .scan, .pair true, .checkMetadata, .readMetadata 20, .scan, .checkFrames, .readFrames 2,
    .checkMetadata, .readMetadata 0, .pair true]

/-- The replay of a capture that ends by itself. -/
def replay (capture : NativeCapture) : Option FifoCapture :=
  if positive : 0 < capture.width * capture.height then
    ((FifoCapture.start (capture.width * capture.height) positive (capture.content 2)
      (capture.content 3)).run replaying).filter fun last => last.stage = .ended ∧ last.stop = false
  else none

/-- Both frames were read, the metadata of the second one is torn, and the files are open. -/
theorem replayed : (start.run actions).any (fun capture =>
    (replay capture).isSome && capture.frames = [first, second] && capture.written = 1 &&
      3 < capture.recording.sinkState.outputs.length) = true := by decide +kernel

end SampleCapture

/-- A capture that was cut still replays its first frame. -/
theorem replay_faithful_torn : ∃ capture last, Reached SampleCapture.outputs 1 1 2 capture ∧
    SampleCapture.replay capture = some last ∧ capture.frames.map replayed = [(100, [9]), (150, [8])] ∧
    last.handed <+: capture.frames.map replayed ∧ [(100, [9])] <+: last.handed := by
  obtain ⟨capture, ran, facts⟩ := (Option.any_eq_true _ _).mp SampleCapture.replayed
  rw [Bool.and_eq_true, Bool.and_eq_true, Bool.and_eq_true, decide_eq_true_iff, decide_eq_true_iff,
    decide_eq_true_iff] at facts
  obtain ⟨⟨⟨replays, frames⟩, written⟩, present⟩ := facts
  obtain ⟨last, replays⟩ := Option.isSome_iff_exists.mp replays
  have reached : Reached SampleCapture.outputs 1 1 2 capture :=
    ⟨1000, 4, false, true, true, SampleCapture.fresh, SampleCapture.actions, rfl, ran⟩
  have played := replays
  unfold SampleCapture.replay at played
  split at played
  · rename_i positive
    obtain ⟨played, ends⟩ := Option.filter_eq_some_iff.mp played
    obtain ⟨ended, unstopped⟩ := of_decide_eq_true ends
    have ranged : ∀ frame ∈ capture.frames, frame.timestamp_ns ≤ lastTimestamp := by
      rw [frames]
      decide
    obtain ⟨begins, _, complete, _⟩ := replay_faithful reached positive ranged played
    have whole := complete ended unstopped present
    have same : capture.frames.map replayed = [(100, [9]), (150, [8])] := by
      rw [frames]
      rfl
    rw [same, written] at whole
    exact ⟨capture, last, reached, replays, same, begins, whole⟩
  · cases played

end NativeCapture
end Vio
