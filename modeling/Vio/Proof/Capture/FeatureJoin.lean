import Vio.Proof.Capture.CaptureSteps
import Vio.Proof.Capture.Texts

namespace Vio
open History

namespace NativeCapture
variable {capture next : NativeCapture} {files : List RecordingFile}

/-- A record is one of the three shapes that a capture submits. -/
inductive Shaped : RecordingRecord → Prop
  | camera (idx : Nat) (frame : CameraFrame) : Shaped (cameraRecord idx frame)
  | features (frame : FeatureFrame) : Shaped (featuresRecord frame)
  | foreign (record : RecordingRecord) (foreign : Foreign record) : Shaped record

/-- Each record of the camera stream is the record of a frame. -/
theorem mem_cameraRecords {idx : Nat} {frames : List CameraFrame} {record : RecordingRecord}
    (member : record ∈ cameraRecords idx frames) : ∃ idx frame, record = cameraRecord idx frame := by
  induction frames generalizing idx with
  | nil => cases member
  | cons frame frames inductionHypothesis =>
      rcases List.mem_cons.mp member with same | member
      · exact ⟨idx, frame, same⟩
      · exact inductionHypothesis member

/-- An accepted record of the files was made by one of the threads. -/
theorem Sound.shaped (sound : capture.Sound files) {record : RecordingRecord}
    (member : record ∈ acceptedRecords capture.recording.history) : Shaped record := by
  by_cases camera : record.stream = .camera
  · have here : record ∈ acceptedCamera capture.recording :=
      List.mem_filter.mpr ⟨member, by simp [camera]⟩
    obtain ⟨idx, frame, rfl⟩ := mem_cameraRecords
      ((due_begins _ _ _).subset (sound.camera.begins.subset here))
    exact .camera idx frame
  by_cases features : record.stream = .features
  · obtain ⟨before, after, split⟩ := List.append_of_mem member
    obtain ⟨frame, _, rfl, _⟩ := sound.features.joined before record after split features
    exact .features frame
  · have here : record ∈ onStream record.stream (acceptedRecords capture.recording.history) :=
      List.mem_filter.mpr ⟨member, by simp⟩
    have offered := (sound.recorder.ordered record.stream).started.subset here
    exact .foreign record (sound.foreign record (List.mem_filter.mp offered).1 camera features)

/-- The streams whose records go to the three files. -/
def writes : RecordingStream → Nat → Prop
  | .camera, file => file = 2 ∨ file = 3
  | .features, file => file = 4
  | _, _ => False

/-- A file holds chunks of the records of its stream only. -/
theorem chunks_onStream {stream : RecordingStream} {file : Nat} (own : writes stream file)
    {records : List RecordingRecord} (shaped : ∀ record ∈ records, Shaped record) :
    (chunksOf records).filter (fun chunk => chunk.file = file) =
      (chunksOf (onStream stream records)).filter (fun chunk => chunk.file = file) := by
  induction records with
  | nil => rfl
  | cons record records inductionHypothesis =>
      have rest := inductionHypothesis fun record member => shaped record (List.mem_cons_of_mem _ member)
      have split : chunksOf (record :: records) = record.chunks ++ chunksOf records := rfl
      rw [split, List.filter_append, rest]
      by_cases here : record.stream = stream
      · have split : chunksOf (onStream stream (record :: records)) =
            record.chunks ++ chunksOf (onStream stream records) := by
          rw [onStream, List.filter_cons_of_pos (by simp [here])]
          rfl
        rw [split, List.filter_append]
      · have split : onStream stream (record :: records) = onStream stream records := by
          rw [onStream, List.filter_cons_of_neg (by simp [here])]
          rfl
        have none : record.chunks.filter (fun chunk => chunk.file = file) = [] := by
          rw [List.filter_eq_nil_iff]
          intro chunk member same
          have same : chunk.file = file := by simpa using same
          have kind := shaped record List.mem_cons_self
          cases stream <;> simp only [writes] at own
          · cases kind with
            | camera => exact here rfl
            | features frame =>
                rw [List.mem_singleton.mp member] at same
                rcases own with own | own <;> rw [own] at same <;> cases same
            | foreign _ foreign =>
                have other := foreign.2.2 chunk member
                rcases own with own | own <;> rw [own] at same
                · exact other.1 same
                · exact other.2.1 same
          · cases kind with
            | camera idx frame =>
                rw [own] at same
                rcases List.mem_cons.mp member with rfl | member
                · cases same
                · rw [List.mem_singleton.mp member] at same
                  cases same
            | features => exact here rfl
            | foreign _ foreign =>
                rw [own] at same
                exact (foreign.2.2 chunk member).2.2 same
        rw [split, none, List.nil_append]

theorem addressed_onStream {stream : RecordingStream} {file : Nat} (own : writes stream file)
    {records : List RecordingRecord} (shaped : ∀ record ∈ records, Shaped record) :
    addressed file (chunksOf records) = addressed file (chunksOf (onStream stream records)) := by
  rw [addressed, chunks_onStream own shaped, addressed]

theorem addressed_cameraRecords (file idx : Nat) (frame : CameraFrame) (frames : List CameraFrame) :
    addressed file (chunksOf (cameraRecords idx (frame :: frames))) =
      addressed file (cameraRecord idx frame).chunks ++
        addressed file (chunksOf (cameraRecords (idx + 1) frames)) := by
  rw [← addressed_append]
  rfl

/-- The raw file gets the pixels of each frame in order. -/
theorem addressed_raw (idx : Nat) (frames : List CameraFrame) :
    addressed 2 (chunksOf (cameraRecords idx frames)) =
      frames.flatMap fun frame => rawPixels frame.pixels := by
  induction frames generalizing idx with
  | nil => rfl
  | cons frame frames inductionHypothesis =>
      rw [addressed_cameraRecords, inductionHypothesis, List.flatMap_cons]
      simp [addressed, cameraRecord, recordingText]

/-- The metadata file gets the text of each frame in order. -/
theorem addressed_metadata (idx : Nat) (frames : List CameraFrame) :
    addressed 3 (chunksOf (cameraRecords idx frames)) = metadataText idx frames := by
  induction frames generalizing idx with
  | nil => rfl
  | cons frame frames inductionHypothesis =>
      rw [addressed_cameraRecords, inductionHypothesis, metadataText]
      simp [addressed, cameraRecord, recordingText]

/-- Each prefix of the accepted records holds the records of the first frames. -/
theorem Sound.firstFrames (sound : capture.Sound files) {records : List RecordingRecord}
    (begins : records <+: acceptedRecords capture.recording.history) :
    onStream .camera records =
      cameraRecords 1 (capture.frames.take (onStream .camera records).length) := by
  have prefix' : onStream .camera records <+: cameraRecords 1 capture.frames :=
    ((begins.filter _).trans sound.camera.begins).trans (due_begins _ _ _)
  rw [← cameraRecords_take]
  exact List.prefix_iff_eq_take.mp prefix'

/-- The bytes that storage holds for one file. -/
def content (capture : NativeCapture) (file : Nat) : List UInt8 :=
  ((capture.recording.sinkState.outputs[file]?).map FileStream.content).getD []

open RenderTracking

/-- Features whose text is the same have the same index and timestamp. -/
theorem featuresRecord_key {first second : FeatureFrame}
    (same : featuresRecord first = featuresRecord second) :
    first.frame_index = second.frame_index ∧ first.timestamp_ns = second.timestamp_ns := by
  have text : featureRecord first = featureRecord second := by
    simpa [featuresRecord, recordingText] using same
  have rows : frameRow (featureRecord first) = frameRow (featureRecord second) := by rw [text]
  rw [frameRow_featureRecord, frameRow_featureRecord] at rows
  simpa using rows

section Files
variable {filePrefix : String} {estimateLog : Option String}

/-- The index and the timestamp that a frame of features is joined by. -/
def joinKey (frame : FeatureFrame) : Nat × Nat := (frame.frame_index, frame.timestamp_ns)

/-- The features file gets one line for each record. -/
theorem chunks_features (features : List FeatureFrame) :
    (chunksOf (features.map featuresRecord)).filter (fun chunk => chunk.file = 4) =
      features.map fun frame => recordingText 4 (featureRecord frame) := by
  induction features with
  | nil => rfl
  | cons frame features inductionHypothesis =>
      have split : chunksOf ((frame :: features).map featuresRecord) =
          [recordingText 4 (featureRecord frame)] ++ chunksOf (features.map featuresRecord) := rfl
      rw [split, List.filter_append, inductionHypothesis]
      rfl

/-- The chunks of the features file are whole records of features. -/
theorem addressed_features {features : List FeatureFrame} {chunks : List RecordingChunk}
    (begins : chunks.filter (fun chunk => chunk.file = 4) <+:
      features.map fun frame => recordingText 4 (featureRecord frame)) :
    ∃ count, addressed 4 chunks = ((features.take count).map featureRecord).flatten := by
  obtain ⟨count, same⟩ : ∃ count, chunks.filter (fun chunk => chunk.file = 4) =
      (features.take count).map fun frame => recordingText 4 (featureRecord frame) := by
    rw [List.prefix_iff_eq_take, ← List.map_take] at begins
    exact ⟨_, begins⟩
  refine ⟨count, ?_⟩
  rw [addressed, same, List.flatMap_map, ← List.flatMap_def]
  rfl

/-- The header of the features is an object on one line. -/
theorem featuresHeader_line : ObjectLine featuresHeader :=
  ⟨ascii "\x7b\"type\":\"header\",\"version\":1,\"source\":\"live_tracker\"," ++
    ascii "\"coordinates\":\"raw_pixels\",\"frame_index_base\":0," ++
    ascii "\"openvins_revision\":\"69488123ed9362dd44b6f28e7f4680abbff1442b\"",
    by decide +kernel, by decide +kernel⟩

theorem featuresHeader_row : frameRow featuresHeader = none := by decide +kernel

theorem featuresFooter_line : ObjectLine featuresFooter :=
  ⟨ascii "\x7b\"type\":\"end\"", by decide, by decide⟩

theorem featuresFooter_row : frameRow featuresFooter = none := by decide +kernel

/-- The rows that the checker reads are the indices and stamps of the features. -/
theorem featureRows_map (features : List FeatureFrame) :
    (features.map featureRecord).filterMap frameRow = features.map joinKey := by
  induction features with
  | nil => rfl
  | cons frame features inductionHypothesis =>
      rw [List.map_cons, List.filterMap_cons_some (frameRow_featureRecord frame),
        inductionHypothesis, List.map_cons, joinKey]

/-- The fifth file is that of the features. -/
theorem featuresFile {file : RecordingFile}
    (here : (captureFiles filePrefix estimateLog)[4]? = some file) :
    file.header = featuresHeader ∧ file.footer = featuresFooter := by
  rw [captureFiles, List.getElem?_append_left (by simp)] at here
  simp only [List.getElem?_cons_succ, List.getElem?_cons_zero, Option.some.injEq] at here
  rw [← here]
  exact ⟨rfl, rfl⟩

/-- The rows of the features file come from the records that the sink was handed. -/
theorem Sound.featureRows (sound : capture.Sound (captureFiles filePrefix estimateLog)) :
    ∃ features : List FeatureFrame,
      onStream .features (handedRecords capture.recording.history) = features.map featuresRecord ∧
      (features.map FeatureFrame.frame_index).Pairwise (· < ·) ∧
      frameRows (capture.content 4) <+: features.map joinKey := by
  obtain ⟨submitted, order⟩ := sound.features.order
  have started := sound.recorder.flow.started
  have handed : onStream .features (handedRecords capture.recording.history) <+:
      submitted.map featuresRecord := by
    rw [← order.offered]
    exact (started.filter _).trans (sound.recorder.ordered .features).started
  have same := List.prefix_iff_eq_take.mp handed
  rw [← List.map_take] at same
  refine ⟨_, same, ?_, ?_⟩
  · have sorted := (List.pairwise_append.mp (List.pairwise_append.mp order.sorted).1).1
    rw [List.map_take]
    exact sorted.sublist (List.take_sublist _ _)
  generalize submitted.take _ = features at same
  rw [content]
  cases found : capture.recording.sinkState.outputs[4]? with
  | none => exact List.nil_prefix
  | some output =>
      obtain ⟨chunks, _, ends, given⟩ := sound.stored.given
      obtain ⟨file, here, stored⟩ := given 4 output found
      rw [sound.stored.files] at here
      have shaped (record : RecordingRecord)
          (member : record ∈ handedRecords capture.recording.history) : Shaped record :=
        sound.shaped (started.subset member)
      have whole := ends.filter fun chunk => chunk.file = 4
      have own : writes .features 4 := rfl
      rw [chunks_onStream own shaped, same, chunks_features] at whole
      obtain ⟨count, text⟩ := addressed_features whole
      have begins : output.content <+:
          (file.header :: (features.take count).map featureRecord ++ [file.footer]).flatten := by
        have ending : outputText file 4 chunks ++ capture.recording.sinkState.ending file <+:
            outputText file 4 chunks ++ file.footer := by
          rw [FileSink.ending]
          split
          · exact (List.prefix_append_right_inj _).mpr List.nil_prefix
          · exact List.prefix_rfl
        refine stored.begins.trans (ending.trans ?_)
        rw [outputText, text]
        simp
      obtain ⟨header, footer⟩ := featuresFile here
      rw [header, footer] at begins
      refine (frameRows_begin ?_ begins).trans ?_
      · intro line member
        rcases List.mem_append.mp member with member | member
        · rcases List.mem_cons.mp member with same | member
          · rw [same]
            exact featuresHeader_line
          · obtain ⟨frame, _, rfl⟩ := List.mem_map.mp member
            exact featureRecord_line frame
        · rw [List.mem_singleton.mp member]
          exact featuresFooter_line
      · rw [List.filterMap_append, List.filterMap_cons_none featuresHeader_row, featureRows_map,
          List.filterMap_cons_none featuresFooter_row, List.filterMap_nil, List.append_nil,
          List.map_take]
        exact List.take_prefix _ _

/-- A record that the sink was handed follows records that were written. -/
theorem Sound.written (sound : capture.Sound files) {before after : List RecordingRecord}
    {record : RecordingRecord}
    (split : handedRecords capture.recording.history = before ++ record :: after) :
    before <+: returnedRecords capture.recording.history := by
  obtain ⟨rest, handed, short⟩ := sound.stored.last
  have left : before <+: handedRecords capture.recording.history := by
    rw [split]
    exact List.prefix_append _ _
  have right : returnedRecords capture.recording.history <+:
      handedRecords capture.recording.history := by
    rw [handed]
    exact List.prefix_append _ _
  refine List.prefix_of_prefix_length_le left right ?_
  have first := congrArg List.length split
  have second := congrArg List.length handed
  rw [List.length_append] at first second
  simp only [List.length_cons] at first
  omega

/-- The record of the frame that a row names was written before the features. -/
theorem Sound.rowFrame (sound : capture.Sound (captureFiles filePrefix estimateLog))
    {index stamp : Nat} (row : (index, stamp) ∈ frameRows (capture.content 4)) :
    index < (onStream .camera (returnedRecords capture.recording.history)).length ∧
      ∃ frame, capture.frames[index]? = some frame ∧ frame.timestamp_ns = stamp := by
  obtain ⟨features, handed, _, rows⟩ := sound.featureRows
  obtain ⟨own, member, same⟩ := List.mem_map.mp (rows.subset row)
  cases same
  have member : featuresRecord own ∈ handedRecords capture.recording.history := by
    have here : featuresRecord own ∈ onStream .features (handedRecords capture.recording.history) := by
      rw [handed]
      exact List.mem_map_of_mem member
    exact (List.mem_filter.mp here).1
  obtain ⟨before, after, split⟩ := List.append_of_mem member
  obtain ⟨rest, accepted⟩ := sound.recorder.flow.started
  rw [split, List.append_assoc, List.cons_append] at accepted
  obtain ⟨other, frame, same, found, stamp, early⟩ :=
    sound.features.joined before _ _ accepted.symm rfl
  obtain ⟨index, stamps⟩ := featuresRecord_key same
  rw [index, stamps]
  refine ⟨Nat.lt_of_lt_of_le early ?_, frame, found, stamp⟩
  exact ((sound.written split).filter _).length_le

/-- What the written camera records put into a file of theirs is there. -/
theorem Sound.cameraContent (sound : capture.Sound files) {index : Nat} (own : writes .camera index)
    {file : RecordingFile} (here : files[index]? = some file)
    (present : index < capture.recording.sinkState.outputs.length)
    (some : 0 < (onStream .camera (returnedRecords capture.recording.history)).length) :
    outputText file index (chunksOf (cameraRecords 1 (capture.frames.take
      (onStream .camera (returnedRecords capture.recording.history)).length))) <+:
        capture.content index := by
  obtain ⟨rest, handed, _⟩ := sound.stored.last
  have accepted : returnedRecords capture.recording.history <+:
      acceptedRecords capture.recording.history := by
    refine List.IsPrefix.trans ?_ sound.recorder.flow.started
    rw [handed]
    exact List.prefix_append _ _
  have shaped (record : RecordingRecord)
      (member : record ∈ returnedRecords capture.recording.history) : Shaped record :=
    sound.shaped (accepted.subset member)
  rw [← sound.firstFrames accepted, outputText, ← addressed_onStream own shaped, ← outputText]
  obtain ⟨chunks, _, _, given⟩ := sound.stored.given
  have found := List.getElem?_eq_getElem present
  obtain ⟨file', here', stored⟩ := given index _ found
  rw [sound.stored.files, here] at here'
  cases here'
  have reached : addresses index (chunksOf (returnedRecords capture.recording.history)) = true := by
    obtain ⟨record, member⟩ := List.exists_mem_of_length_pos some
    obtain ⟨member, stream⟩ := List.mem_filter.mp member
    have stream : record.stream = .camera := by simpa using stream
    have chunk : ∃ chunk ∈ record.chunks, chunk.file = index := by
      cases shaped record member with
      | camera idx frame =>
          rcases own with rfl | rfl
          · exact ⟨_, List.mem_cons_self, rfl⟩
          · exact ⟨_, List.mem_cons_of_mem _ List.mem_cons_self, rfl⟩
      | features => cases stream
      | foreign _ foreign => exact absurd stream foreign.1
    obtain ⟨chunk, inside, same⟩ := chunk
    exact List.any_eq_true.mpr ⟨chunk, List.mem_flatMap.mpr ⟨record, member, inside⟩, by simpa using same⟩
  have kept : safeText file index (returnedRecords capture.recording.history) <+: _ := stored.kept
  rw [safeText, if_pos reached] at kept
  rw [content, found]
  exact kept

/-- The files of the camera hold the frame that a row names. -/
theorem Sound.rowJoined (sound : capture.Sound (captureFiles filePrefix estimateLog))
    {index stamp : Nat} (row : (index, stamp) ∈ frameRows (capture.content 4)) :
    ∃ frame, capture.frames[index]? = some frame ∧ frame.timestamp_ns = stamp ∧
      ascii "[\n" ++ metadataText 1 (capture.frames.take (index + 1)) <+: capture.content 3 ∧
      (stamps (capture.content 3))[index]? = some stamp ∧
      rawFrame capture.width capture.height (capture.content 2) index = rawPixels frame.pixels := by
  obtain ⟨early, frame, found, same⟩ := sound.rowFrame row
  generalize bound : (onStream .camera (returnedRecords capture.recording.history)).length = count
    at early
  have present : 4 < capture.recording.sinkState.outputs.length := by
    by_contra missing
    have none : capture.recording.sinkState.outputs[4]? = none :=
      List.getElem?_eq_none_iff.mpr (Nat.le_of_not_lt missing)
    rw [content, none] at row
    cases row
  have some : 0 < (onStream .camera (returnedRecords capture.recording.history)).length := by omega
  have rawFile : (captureFiles filePrefix estimateLog)[2]? =
      Option.some ⟨filePrefix ++ ".y16", [], []⟩ := rfl
  have metadataFile : (captureFiles filePrefix estimateLog)[3]? =
      Option.some ⟨filePrefix ++ ".meta.json", ascii "[\n", ascii "\n]\n"⟩ := rfl
  have raw := sound.cameraContent (.inl rfl) rawFile (by omega) some
  have metadata := sound.cameraContent (.inr rfl) metadataFile (by omega) some
  rw [bound, outputText, addressed_raw, List.nil_append] at raw
  rw [bound, outputText, addressed_metadata] at metadata
  dsimp only at metadata
  have taken : (capture.frames.take count)[index]? = Option.some frame := by
    rw [List.getElem?_take_of_lt early]
    exact found
  refine ⟨frame, found, same, ?_, ?_, ?_⟩
  · refine List.IsPrefix.trans ?_ metadata
    have split : capture.frames.take count =
        capture.frames.take (index + 1) ++ (capture.frames.take count).drop (index + 1) := by
      have shorter : capture.frames.take (index + 1) = (capture.frames.take count).take (index + 1) := by
        rw [List.take_take, Nat.min_eq_left early]
      rw [shorter, List.take_append_drop]
    rw [split, metadataText_append]
    exact (List.prefix_append_right_inj _).mpr (List.prefix_append _ _)
  · obtain ⟨rest, whole⟩ := metadata
    rw [← whole, List.append_assoc, stamps_skip (by decide), stamps_metadataText,
      List.getElem?_append_left, List.getElem?_map, taken, Option.map_some, same]
    rw [List.length_map]
    exact (List.getElem?_eq_some_iff.mp taken).1
  · obtain ⟨rest, whole⟩ := raw
    rw [← whole]
    exact rawFrame_get (fun frame member => sound.camera.sized frame (List.mem_of_mem_take member))
      rest taken

/-- The check accepts rows with different indices that have their stamps. -/
theorem associated_of_rows {stamps tracks : List Nat} {rows : List (Nat × Nat)}
    (stamped : ∀ index stamp, (index, stamp) ∈ rows → stamps[index]? = some stamp)
    (different : (rows.map Prod.fst).Nodup)
    (fresh : ∀ index ∈ rows.map Prod.fst, index ∉ tracks) : associated stamps tracks rows = true := by
  induction rows generalizing tracks with
  | nil => rfl
  | cons row rows inductionHypothesis =>
      obtain ⟨index, stamp⟩ := row
      have here := stamped index stamp List.mem_cons_self
      rw [List.map_cons, List.nodup_cons] at different
      have inside := (List.getElem?_eq_some_iff.mp here).1
      have new := fresh index List.mem_cons_self
      have accepted : ¬ (index ≥ stamps.length ∨ stamps[index]? ≠ some stamp ∨ index ∈ tracks) := by
        rw [not_or, not_or, not_not]
        exact ⟨Nat.not_le_of_lt inside, here, new⟩
      rw [associated, if_neg accepted]
      refine inductionHypothesis (fun index stamp member => ?_) different.2 (fun other member => ?_)
      · exact stamped index stamp (List.mem_cons_of_mem _ member)
      · rw [List.mem_cons, not_or]
        refine ⟨fun same => different.1 (same ▸ member), ?_⟩
        exact fresh other (List.mem_cons_of_mem _ member)

/-- The metadata of accepted records is a list whose stamps are those of the first frames. -/
theorem Sound.metadataList (sound : capture.Sound files) {records : List RecordingRecord}
    (begins : records <+: acceptedRecords capture.recording.history) :
    ∃ count, addressed 3 (chunksOf records) = metadataText 1 (capture.frames.take count) := by
  have shaped (record : RecordingRecord) (member : record ∈ records) : Shaped record :=
    sound.shaped (begins.subset member)
  have own : writes .camera 3 := .inr rfl
  obtain ⟨count, first⟩ : ∃ count, onStream .camera records =
      cameraRecords 1 (capture.frames.take count) := ⟨_, sound.firstFrames begins⟩
  exact ⟨count, by rw [addressed_onStream own shaped, first, addressed_metadata]⟩

/-- Each recorded frame of features names a recorded camera frame by its index and its timestamp, no
index occurs twice, the recorded metadata forms a list, and the renderer accepts the files. -/
theorem recorded_features_join_frames (filePrefix : String) (estimateLog : Option String)
    (width height maxQueue : Nat) (capture : NativeCapture)
    (reached : Reached (captureFiles filePrefix estimateLog) width height maxQueue capture)
    (increasing : capture.frames.Pairwise fun earlier later =>
      earlier.timestamp_ns < later.timestamp_ns) :
    (∀ index stamp, (index, stamp) ∈ frameRows (capture.content 4) →
      ∃ frame, capture.frames[index]? = some frame ∧ frame.timestamp_ns = stamp ∧
        ascii "[\n" ++ metadataText 1 (capture.frames.take (index + 1)) <+: capture.content 3 ∧
        (stamps (capture.content 3))[index]? = some stamp ∧
        rawFrame capture.width capture.height (capture.content 2) index =
          rawPixels frame.pixels) ∧
    ((frameRows (capture.content 4)).map Prod.fst).Nodup ∧
    (∀ records, records <+: acceptedRecords capture.recording.history →
      Json.IsList (ascii "[\n" ++ addressed 3 (chunksOf records) ++ ascii "\n]\n") ∧
      (stamps (ascii "[\n" ++ addressed 3 (chunksOf records) ++ ascii "\n]\n")).Pairwise (· < ·)) ∧
    associated (stamps (capture.content 3)) [] (frameRows (capture.content 4)) = true := by
  have sound := reached.sound
  have rows (index stamp : Nat) (row : (index, stamp) ∈ frameRows (capture.content 4)) :=
    sound.rowJoined row
  have different : ((frameRows (capture.content 4)).map Prod.fst).Nodup := by
    obtain ⟨features, _, sorted, begins⟩ := sound.featureRows
    have indices : (features.map joinKey).map Prod.fst = features.map FeatureFrame.frame_index := by
      rw [List.map_map]
      rfl
    have nodup : (features.map FeatureFrame.frame_index).Nodup :=
      sorted.imp fun smaller => Nat.ne_of_lt smaller
    rw [← indices] at nodup
    exact nodup.sublist (begins.map Prod.fst).sublist
  refine ⟨rows, different, fun records begins => ?_, ?_⟩
  · obtain ⟨count, text⟩ := sound.metadataList begins
    rw [text]
    refine ⟨isList_metadataText _, ?_⟩
    rw [List.append_assoc, stamps_skip (by decide), stamps_metadataText]
    have ending : stamps (ascii "\n]\n") = [] := by decide
    rw [ending, List.append_nil]
    exact (List.pairwise_map.mpr increasing).sublist ((List.take_sublist _ _).map _)
  · refine associated_of_rows (fun index stamp row => ?_) different (by simp)
    obtain ⟨_, _, _, _, stamped, _⟩ := rows index stamp row
    exact stamped

end Files

namespace SampleCapture

def first : CameraFrame := ⟨[9], 100, 1⟩

def second : CameraFrame := ⟨[8], 150, 2⟩

def point : FeaturePoint :=
  { id := 3
    x := ⟨ascii "0.500000", by decide⟩
    y := ⟨ascii "0.250000", by decide⟩ }

def advancing (stream : RecordingStream) : List CaptureAction :=
  List.replicate 6 (.recorder (.advance stream))

/-- The camera thread reads, records and hands on one frame. -/
def capturing (frame : CameraFrame) : List CaptureAction :=
  [.read frame, .camera, .camera, .camera] ++ advancing .camera ++ [.camera, .camera]

def updating : List CaptureAction :=
  [.take, .update false [], .update false [], .update true [point]] ++ advancing .features ++
    [.update false []]

def writing (storage : Storage) : List CaptureAction :=
  [.recorder .work, .recorder (.write storage), .recorder .work]

/-- The metadata of the second frame is torn by a storage error. -/
def actions : List CaptureAction :=
  capturing first ++ updating ++ capturing second ++ writing {} ++ writing {} ++
    writing { chunk := fun index => if index = 1 then some 50 else none }

def outputs : List RecordingFile := captureFiles "run" none

def fresh : Recording fileSink :=
  { sinkState := recordingFiles outputs
    status := {}
    byteLimit := 1000
    recordLimit := 4
    worker := .waiting
    joinable := true }

def start : NativeCapture := { recording := fresh, width := 1, height := 1, maxQueue := 2 }

theorem ran : (start.run actions).map (fun capture =>
    (capture.frames, frameRows (capture.content 4), stamps (capture.content 3))) =
    some ([first, second], [(0, 100)], [100]) := by decide +kernel

end SampleCapture

/-- A torn features file still joins the frames. -/
theorem recorded_features_join_frames_torn :
    ∃ capture, Reached SampleCapture.outputs 1 1 2 capture ∧
      capture.frames = [SampleCapture.first, SampleCapture.second] ∧
      (∃ frame, capture.frames[0]? = some frame ∧ frame.timestamp_ns = 100 ∧
        rawFrame capture.width capture.height (capture.content 2) 0 = rawPixels frame.pixels) ∧
      associated (stamps (capture.content 3)) [] (frameRows (capture.content 4)) = true := by
  obtain ⟨capture, ran, same⟩ := Option.map_eq_some_iff.mp SampleCapture.ran
  obtain ⟨frames, rest⟩ := Prod.mk.inj same
  obtain ⟨rows, stamps⟩ := Prod.mk.inj rest
  have reached : Reached SampleCapture.outputs 1 1 2 capture :=
    ⟨1000, 4, false, true, true, SampleCapture.fresh, SampleCapture.actions, rfl, ran⟩
  have joined := recorded_features_join_frames "run" none 1 1 2 capture reached
    (by rw [frames]; decide)
  refine ⟨capture, reached, frames, ?_, joined.2.2.2⟩
  obtain ⟨frame, found, stamp, _, _, raw⟩ := joined.1 0 100 (by rw [rows]; exact List.mem_cons_self)
  exact ⟨frame, found, stamp, raw⟩

end NativeCapture
end Vio
