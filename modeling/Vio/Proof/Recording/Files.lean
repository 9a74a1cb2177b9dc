import Vio.Construction.FileSink
import Vio.Proof.Recording.Delivery

namespace Vio
open History

/-- The chunks of the records in order. -/
def chunksOf (records : List RecordingRecord) : List RecordingChunk :=
  records.flatMap RecordingRecord.chunks

/-- The bytes of the chunks that are addressed to one file, in order. -/
def addressed (file : Nat) (chunks : List RecordingChunk) : List UInt8 :=
  (chunks.filter fun chunk => chunk.file = file).flatMap RecordingChunk.bytes

def addresses (file : Nat) (chunks : List RecordingChunk) : Bool :=
  chunks.any fun chunk => chunk.file = file

@[simp] theorem chunksOf_nil : chunksOf [] = [] := rfl

@[simp] theorem addressed_nil (file : Nat) : addressed file [] = [] := rfl

theorem chunksOf_snoc (records : List RecordingRecord) (record : RecordingRecord) :
    chunksOf (records ++ [record]) = chunksOf records ++ record.chunks := by
  simp [chunksOf]

theorem addressed_append (file : Nat) (first second : List RecordingChunk) :
    addressed file (first ++ second) = addressed file first ++ addressed file second := by
  simp [addressed, List.filter_append]

theorem addressed_cons (file : Nat) (chunk : RecordingChunk) (chunks : List RecordingChunk) :
    addressed file (chunk :: chunks) =
      (if chunk.file = file then chunk.bytes else []) ++ addressed file chunks := by
  by_cases same : chunk.file = file <;> simp [addressed, same]

theorem addressed_self (chunk : RecordingChunk) : addressed chunk.file [chunk] = chunk.bytes := by
  simp [addressed]

/-- A file that no chunk addresses gets nothing. -/
theorem addressed_of_not_addresses {file : Nat} {chunks : List RecordingChunk}
    (none : addresses file chunks = false) : addressed file chunks = [] := by
  induction chunks with
  | nil => rfl
  | cons chunk chunks inductionHypothesis =>
      simp only [addresses, List.any_cons, Bool.or_eq_false_iff, decide_eq_false_iff_not] at none
      rw [addressed_cons, if_neg none.1, inductionHypothesis none.2, List.append_nil]

/-- What an output is given before its footer. -/
def outputText (file : RecordingFile) (index : Nat) (chunks : List RecordingChunk) : List UInt8 :=
  file.header ++ addressed index chunks

/-- What storage keeps of an output once the writes of the records returned. -/
def safeText (file : RecordingFile) (index : Nat) (records : List RecordingRecord) : List UInt8 :=
  if addresses index (chunksOf records) then outputText file index (chunksOf records) else []

theorem outputText_append (file : RecordingFile) (index : Nat) (first second : List RecordingChunk) :
    outputText file index (first ++ second) =
      outputText file index first ++ addressed index second := by
  rw [outputText, outputText, addressed_append, List.append_assoc]

/-- A record that addresses the file flushes it, and another one leaves it. -/
theorem safeText_snoc (file : RecordingFile) (index : Nat) (records : List RecordingRecord)
    (record : RecordingRecord) : safeText file index (records ++ [record]) =
      if addresses index record.chunks then
        outputText file index (chunksOf records) ++ addressed index record.chunks
      else safeText file index records := by
  have split : addresses index (chunksOf records ++ record.chunks) =
      (addresses index (chunksOf records) || addresses index record.chunks) := List.any_append
  rw [safeText, chunksOf_snoc, split, outputText_append]
  cases later : addresses index record.chunks with
  | true => rw [Bool.or_true, if_pos rfl, if_pos rfl]
  | false => rw [Bool.or_false, addressed_of_not_addresses later, List.append_nil]; rfl

/-- Each output was given its text, and the safe part of it is flushed. -/
def Layout (files : List RecordingFile) (outputs : List FileStream)
    (text safe : Nat → RecordingFile → List UInt8) : Prop :=
  ∀ (index : Nat) (output : FileStream), outputs[index]? = some output → ∃ file, files[index]? = some file ∧
    output.StoredTo (text index file) (safe index file)

section Outputs

variable {files : List RecordingFile} {outputs : List FileStream}
  {text safe : Nat → RecordingFile → List UInt8}

/-- A chunk goes to the end of its output. -/
theorem Layout.chunk (layout : Layout files outputs text safe) {output : FileStream}
    {chunk : RecordingChunk} (found : outputs[chunk.file]? = some output) (error : Option Nat) :
    Layout files (outputs.set chunk.file (output.put chunk.bytes error).flush)
      (fun index file => text index file ++ addressed index [chunk]) safe := by
  intro index other there
  have inside : chunk.file < outputs.length := (List.getElem?_eq_some_iff.mp found).1
  by_cases same : chunk.file = index
  · subst same
    rw [List.getElem?_set_self inside] at there
    cases there
    obtain ⟨file, here, stored⟩ := layout _ _ found
    refine ⟨file, here, ?_⟩
    dsimp only
    rw [addressed_self]
    exact (stored.put chunk.bytes error).flush
  · rw [List.getElem?_set_ne same] at there
    obtain ⟨file, here, stored⟩ := layout _ _ there
    have bytes : addressed index [chunk] = [] := by simp [addressed, same]
    rw [← List.append_nil (text index file), ← bytes] at stored
    exact ⟨file, here, stored⟩

/-- The flush after a chunk keeps everything written to that output so far. -/
theorem Layout.flushed (layout : Layout files outputs text safe) {output : FileStream}
    {chunk : RecordingChunk} (found : outputs[chunk.file]? = some output) {error : Option Nat}
    (good : (output.put chunk.bytes error).flush.good = true) :
    Layout files (outputs.set chunk.file (output.put chunk.bytes error).flush)
      (fun index file => text index file ++ addressed index [chunk])
      (fun index file =>
        if addresses index [chunk] then text index file ++ addressed index [chunk]
        else safe index file) := by
  intro index other there
  obtain ⟨file, here, kept⟩ := layout.chunk found error index other there
  refine ⟨file, here, ?_⟩
  have inside : chunk.file < outputs.length := (List.getElem?_eq_some_iff.mp found).1
  by_cases same : chunk.file = index
  · subst same
    rw [List.getElem?_set_self inside] at there
    cases there
    obtain ⟨file', here', stored⟩ := layout _ _ found
    rw [here] at here'
    cases here'
    rw [FileStream.flush_good] at good
    have all := (stored.put chunk.bytes error).flushed (FileStream.put_good good).2.2 good
    have here : addresses chunk.file [chunk] = true := by simp [addresses]
    simpa only [here, if_true, addressed_self] using all
  · have elsewhere : addresses index [chunk] = false := by simp [addresses, same]
    simpa only [elsewhere, Bool.false_eq_true, if_false] using kept

theorem Layout.congr {text' safe' : Nat → RecordingFile → List UInt8}
    (layout : Layout files outputs text safe)
    (texts : ∀ index file, text' index file = text index file)
    (safes : ∀ index file, safe' index file = safe index file) :
    Layout files outputs text' safe' := by
  intro index output found
  obtain ⟨file, here, stored⟩ := layout index output found
  rw [← texts, ← safes] at stored
  exact ⟨file, here, stored⟩

namespace FileSink

/-- Opening the files keeps their number. -/
theorem openOutputs_length (storage : Storage) (offset : Nat) (files : List RecordingFile)
    (outputs : List FileStream) :
    (openOutputs storage offset files outputs).1.length = outputs.length := by
  induction files generalizing offset outputs with
  | nil => rfl
  | cons file files inductionHypothesis =>
      cases outputs with
      | nil => rfl
      | cons output outputs =>
          simp only [openOutputs]
          split
          · simp [inductionHypothesis]
          · simp

/-- New outputs get their headers. -/
theorem openOutputs_layout (storage : Storage) (offset : Nat) (files : List RecordingFile)
    (count : Nat) (fits : count ≤ files.length) :
    Layout files (openOutputs storage offset files (List.replicate count {})).1
      (fun _ file => file.header) (fun _ _ => []) := by
  induction files generalizing offset count with
  | nil =>
      obtain rfl := Nat.le_zero.mp fits
      intro index output found
      simp [openOutputs] at found
  | cons file files inductionHypothesis =>
      cases count with
      | zero =>
          intro index output found
          simp [openOutputs] at found
      | succ count =>
          have fits := Nat.le_of_succ_le_succ fits
          have first : ((({} : FileStream).openPath (storage.opening offset)).put file.header
              (storage.header offset)).StoredTo file.header [] := by
            have opened := (FileStream.storedTo_new []).openPath (storage.opening offset)
            exact opened.put file.header _
          intro index output found
          rw [List.replicate_succ] at found
          simp only [openOutputs] at found
          cases index with
          | zero =>
              refine ⟨file, rfl, ?_⟩
              split at found <;>
                · simp only [List.getElem?_cons_zero, Option.some.injEq] at found
                  rw [← found]
                  exact first
          | succ index =>
              split at found
              · exact inductionHypothesis (offset + 1) count fits index output found
              · rw [List.getElem?_cons_succ, List.getElem?_replicate] at found
                split at found
                · rename_i small
                  cases found
                  have small : index < files.length := Nat.lt_of_lt_of_le small fits
                  exact ⟨files[index], List.getElem?_eq_getElem small, FileStream.storedTo_new _⟩
                · cases found

/-- Writing keeps the number of the files. -/
theorem writeChunks_length (storage : Storage) (offset : Nat) (chunks : List RecordingChunk)
    (outputs : List FileStream) :
    (writeChunks storage offset chunks outputs).1.length = outputs.length := by
  induction chunks generalizing offset outputs with
  | nil => rfl
  | cons chunk chunks inductionHypothesis =>
      simp only [writeChunks]
      split
      · rfl
      · split
        · rw [inductionHypothesis, List.length_set]
        · rw [List.length_set]

theorem addressed_later (text : List UInt8) (index : Nat) (chunk : RecordingChunk)
    (chunks : List RecordingChunk) : text ++ addressed index (chunk :: chunks) =
      text ++ addressed index [chunk] ++ addressed index chunks := by
  rw [← List.singleton_append, addressed_append, List.append_assoc]

/-- The chunks up to the first error reach their outputs. -/
theorem writeChunks_layout (storage : Storage) (offset : Nat) (chunks : List RecordingChunk)
    (layout : Layout files outputs text safe) :
    ∃ done, done <+: chunks ∧ Layout files (writeChunks storage offset chunks outputs).1
      (fun index file => text index file ++ addressed index done) safe := by
  induction chunks generalizing offset outputs text with
  | nil => exact ⟨[], List.prefix_rfl, layout.congr (by simp) (fun _ _ => rfl)⟩
  | cons chunk chunks inductionHypothesis =>
      simp only [writeChunks]
      split
      · exact ⟨[], List.nil_prefix, layout.congr (by simp) (fun _ _ => rfl)⟩
      rename_i output found
      have next := layout.chunk found (storage.chunk offset)
      split
      · obtain ⟨done, begins, reached⟩ := inductionHypothesis (offset + 1) next
        refine ⟨chunk :: done, (List.prefix_cons_inj chunk).mpr begins, ?_⟩
        exact reached.congr (fun _ _ => addressed_later _ _ _ _) (fun _ _ => rfl)
      · exact ⟨[chunk], (List.prefix_cons_inj chunk).mpr List.nil_prefix, next⟩

/-- A call that returned has flushed each output that it wrote to. -/
theorem writeChunks_flushed (storage : Storage) (offset : Nat) (chunks : List RecordingChunk)
    (layout : Layout files outputs text safe)
    (returned : (writeChunks storage offset chunks outputs).2 = true) :
    Layout files (writeChunks storage offset chunks outputs).1
      (fun index file => text index file ++ addressed index chunks)
      (fun index file =>
        if addresses index chunks then text index file ++ addressed index chunks
        else safe index file) := by
  induction chunks generalizing offset outputs text safe with
  | nil => exact layout.congr (by simp) (by simp [addresses])
  | cons chunk chunks inductionHypothesis =>
      simp only [writeChunks] at returned ⊢
      split at returned
      · cases returned
      rename_i output found
      split at returned
      · rename_i good
        rw [if_pos good]
        have next := inductionHypothesis (offset + 1) (layout.flushed found good) returned
        refine next.congr (fun _ _ => addressed_later _ _ _ _) (fun index file => ?_)
        cases later : addresses index chunks with
        | true =>
            have any : addresses index (chunk :: chunks) = true := by
              simp only [addresses, List.any_cons, Bool.or_eq_true]
              exact .inr later
            rw [if_pos any, if_pos rfl, addressed_later]
        | false =>
            have first : addresses index (chunk :: chunks) = addresses index [chunk] := by
              simp only [addresses, List.any_cons, List.any_nil, Bool.or_false]
              exact (congrArg _ later).trans (Bool.or_false _)
            rw [first, addressed_later, addressed_of_not_addresses later]
            simp
      · cases returned

/-- Closing keeps the number of the files. -/
theorem closeOutputs_length (storage : Storage) (offset : Nat) (files : List RecordingFile)
    (outputs : List FileStream) :
    (closeOutputs storage offset files outputs).length = outputs.length := by
  induction files generalizing offset outputs with
  | nil => rfl
  | cons file files inductionHypothesis =>
      cases outputs with
      | nil => rfl
      | cons output outputs => simp [closeOutputs, inductionHypothesis]

/-- A file is closed with its own footer. -/
theorem closeOutputs_get (storage : Storage) (offset index : Nat) {file : RecordingFile}
    {output : FileStream} (here : files[index]? = some file)
    (found : outputs[index]? = some output) :
    (closeOutputs storage offset files outputs)[index]? =
      some ((output.put file.footer (storage.footer (offset + index))).close
        (storage.closing (offset + index))) := by
  induction index generalizing offset files outputs with
  | zero =>
      cases files with
      | nil => cases here
      | cons first files =>
          cases outputs with
          | nil => cases found
          | cons output' outputs =>
              cases here
              cases found
              rfl
  | succ index inductionHypothesis =>
      cases files with
      | nil => cases here
      | cons first files =>
          cases outputs with
          | nil => cases found
          | cons output' outputs =>
              simp only [closeOutputs, List.getElem?_cons_succ] at here found ⊢
              rw [inductionHypothesis (offset + 1) here found, Nat.add_assoc, Nat.add_comm 1]

/-- The footers follow, and an output that closes without an error holds all of its text. -/
theorem closeOutputs_layout (storage : Storage) (layout : Layout files outputs text safe) :
    Layout files (closeOutputs storage 0 files outputs)
        (fun index file => text index file ++ file.footer) safe ∧
      ((closeOutputs storage 0 files outputs).all FileStream.good = true →
        ∀ (index : Nat) (output : FileStream),
          (closeOutputs storage 0 files outputs)[index]? = some output →
            ∃ file, files[index]? = some file ∧
              output.content = text index file ++ file.footer) := by
  have closes (index : Nat) (output : FileStream)
      (found : (closeOutputs storage 0 files outputs)[index]? = some output) :
      ∃ (file : RecordingFile) (before : FileStream), files[index]? = some file ∧ before.StoredTo (text index file ++ file.footer)
        (safe index file) ∧ output = before.close (storage.closing (0 + index)) := by
    have inside : index < outputs.length := by
      rw [← closeOutputs_length storage 0 files outputs]
      exact (List.getElem?_eq_some_iff.mp found).1
    obtain ⟨file, here, stored⟩ := layout index _ (List.getElem?_eq_getElem inside)
    rw [closeOutputs_get storage 0 index here (List.getElem?_eq_getElem inside)] at found
    cases found
    exact ⟨file, _, here, stored.put file.footer _, rfl⟩
  constructor
  · intro index output found
    obtain ⟨file, before, here, stored, rfl⟩ := closes index output found
    exact ⟨file, here, stored.close _⟩
  · intro good index output found
    obtain ⟨file, before, here, stored, rfl⟩ := closes index output found
    exact ⟨file, here, stored.closed (List.all_eq_true.mp good _ (List.mem_of_getElem? found))⟩

end FileSink
end Outputs

namespace FileSink

/-- The text of an output at one stage of `finish`. -/
def ending (sink : FileSink) (file : RecordingFile) : List UInt8 :=
  if sink.stage = .start then [] else file.footer

/-- The outputs of a sink that was given `chunks`, where the calls for `records` returned. -/
def Given (sink : FileSink) (chunks : List RecordingChunk) (records : List RecordingRecord) : Prop :=
  Layout sink.files sink.outputs (fun index file => outputText file index chunks ++ sink.ending file)
    (fun index file => safeText file index records)

/-- A sink in use, where every call so far returned. -/
structure Ready (sink : FileSink) (records : List RecordingRecord) : Prop where
  start : sink.stage = .start
  outputs : sink.opened = true ∧ sink.outputs.length = sink.files.length ∨
    sink.opened = false ∧ sink.outputs = [] ∧ records = []
  given : sink.Given (chunksOf records) records

/-- Every output is its header, the chunks addressed to it, and its footer. -/
structure Complete (sink : FileSink) (records : List RecordingRecord) : Prop where
  length : sink.outputs.length = sink.files.length
  content : ∀ (index : Nat) (output : FileStream), sink.outputs[index]? = some output →
    ∃ file, sink.files[index]? = some file ∧
      output.content = outputText file index (chunksOf records) ++ file.footer

variable {sink : FileSink} {records : List RecordingRecord}

/-- What `openFiles` does for a sink without outputs. -/
theorem openFiles_spec (storage : Storage) (start : sink.stage = .start) (unopened : sink.opened = false)
    (empty : sink.outputs = []) :
    (openFiles storage sink).1.files = sink.files ∧ (openFiles storage sink).1.stage = .start ∧
      (openFiles storage sink).1.Given [] [] ∧
      (openFiles storage sink).1.opened = (openFiles storage sink).2 ∧
      ((openFiles storage sink).2 = true →
        (openFiles storage sink).1.outputs.length = sink.files.length) := by
  unfold openFiles
  rw [unopened, if_neg Bool.false_ne_true]
  cases storage.report with
  | some kept =>
      refine ⟨rfl, start, ?_, rfl, fun returned => by cases returned⟩
      intro index output found
      simp [empty] at found
  | none =>
      have layout := openOutputs_layout storage 0 sink.files sink.files.length (Nat.le_refl _)
      simp only [empty, List.nil_append, List.length_nil, Nat.sub_zero]
      refine ⟨trivial, start, ?_, trivial, fun _ => ?_⟩
      · refine layout.congr (fun index file => ?_) (fun index file => ?_)
        · simp [outputText, ending, start]
        · simp [safeText, addresses]
      · rw [openOutputs_length, List.length_replicate]

/-- Opening leaves a sink that was given the records so far. -/
theorem Ready.opens (ready : sink.Ready records) (storage : Storage) :
    (openFiles storage sink).1.files = sink.files ∧ (openFiles storage sink).1.stage = .start ∧
      (openFiles storage sink).1.Given (chunksOf records) records ∧
      ((openFiles storage sink).2 = true → (openFiles storage sink).1.opened = true ∧
        (openFiles storage sink).1.outputs.length = sink.files.length) := by
  rcases ready.outputs with ⟨opened, length⟩ | ⟨unopened, empty, rfl⟩
  · have same : openFiles storage sink = (sink, true) := by rw [openFiles, if_pos opened]
    rw [same]
    exact ⟨rfl, ready.start, ready.given, fun _ => ⟨opened, length⟩⟩
  · obtain ⟨files, start, given, opened, length⟩ := openFiles_spec storage ready.start unopened empty
    exact ⟨files, start, given, fun returned => ⟨opened.trans returned, length returned⟩⟩

/-- Before the footers, the text of an output is its header and its chunks. -/
theorem given_iff (start : sink.stage = .start) (chunks : List RecordingChunk) :
    sink.Given chunks records ↔ Layout sink.files sink.outputs
      (fun index file => outputText file index chunks)
      (fun index file => safeText file index records) := by
  have plain (index : Nat) (file : RecordingFile) :
      outputText file index chunks ++ sink.ending file = outputText file index chunks := by
    rw [ending, if_pos start, List.append_nil]
  constructor <;> intro layout
  · exact layout.congr (fun index file => (plain index file).symm) (fun _ _ => rfl)
  · exact layout.congr plain (fun _ _ => rfl)

/-- After a write, each output was given the records so far and a part of the new one. -/
theorem write_spec (storage : Storage) (record : RecordingRecord) (ready : sink.Ready records) :
    (write storage sink record).1.files = sink.files ∧
      (write storage sink record).1.stage = .start ∧
      (∃ done, done <+: record.chunks ∧
        (write storage sink record).1.Given (chunksOf records ++ done) records) ∧
      ((write storage sink record).2 = true → (write storage sink record).1.opened = true ∧
        (write storage sink record).1.Ready (records ++ [record])) := by
  have opens := ready.opens storage
  unfold write
  cases same : openFiles storage sink with
  | mk after returned =>
      rw [same] at opens
      obtain ⟨files, start, given, opened⟩ := opens
      dsimp only at files start given opened
      cases returned with
      | false =>
          refine ⟨files, start, ⟨[], List.nil_prefix, ?_⟩, fun returned => by cases returned⟩
          rw [List.append_nil]
          exact given
      | true =>
          obtain ⟨opened, length⟩ := opened rfl
          rw [given_iff start] at given
          dsimp only
          refine ⟨files, start, ?_, fun returned => ⟨opened, start, .inl ⟨opened, ?_⟩, ?_⟩⟩
          · obtain ⟨done, begins, layout⟩ := writeChunks_layout storage 0 record.chunks given
            refine ⟨done, begins, ?_⟩
            refine (given_iff ?_ _).mpr ?_
            · exact start
            exact layout.congr (fun _ _ => outputText_append _ _ _ _) (fun _ _ => rfl)
          · dsimp only
            rw [writeChunks_length, length, files]
          · have layout := writeChunks_flushed storage 0 record.chunks given returned
            refine (given_iff ?_ _).mpr ?_
            · exact start
            refine layout.congr (fun index file => ?_) (fun _ _ => ?_)
            · rw [chunksOf_snoc, outputText_append]
            · exact safeText_snoc _ _ _ _

end FileSink
end Vio
