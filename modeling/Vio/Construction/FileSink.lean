/-
This file holds the sink that writes the records to files and reports on them.
The outputs are separate files, so each stream has its own stored bytes.
-/

import Vio.Library.FileStream
import Vio.Construction.Recording

namespace Vio

/-- What storage does during one call of the sink: for each operation no error, or the number of
bytes that survive the error. -/
structure Storage where
  report : Option Nat := none
  renamed : Bool := true
  opening : Nat → Option Nat := fun _ => none
  header : Nat → Option Nat := fun _ => none
  chunk : Nat → Option Nat := fun _ => none
  footer : Nat → Option Nat := fun _ => none
  closing : Nat → Option Nat := fun _ => none

inductive FinishStage where
  | start
  | closed (good : Bool)
  | noted
  | drained (answer : Bool)
  | counting (answer : Bool) (reason : RecordingFailure) (counts : List Nat)
  deriving DecidableEq, Repr

structure FileSink where
  files : List RecordingFile
  outputs : List FileStream := []
  opened : Bool := false
  /-- The text under the path of the status report, empty before the first one. -/
  report : String := ""
  stage : FinishStage := .start
  deriving DecidableEq, Repr

/-- An initial report survives an interrupted process or a later full disk. -/
def unfinishedReport : String :=
  "\x7b\"version\":1,\"complete\":false,\"reason\":\"unfinished\"\x7d\n"

def streamNames : List String := ["accel", "gyro", "camera", "estimate", "features"]

def reportedStreams : List RecordingStream := [.accel, .gyro, .camera, .estimate, .features]

/-- The counters of the report in the order of the text. -/
def reportedCounter (status : RecordingStatus) (index : Nat) : Nat :=
  let stream := reportedStreams.getD (index / 3) .count
  if index % 3 = 0 then status.submitted stream
  else if index % 3 = 1 then status.written stream
  else status.rejected stream

/-- The counters of one stream, after a comma unless the stream is the first. -/
def streamReport (counts : List Nat) (index : Nat) : String :=
  (if index = 0 then "" else ",") ++ "\"" ++ streamNames.getD index "" ++
    "\":\x7b\"submitted\":" ++ toString (counts.getD (3 * index) 0) ++
    ",\"written\":" ++ toString (counts.getD (3 * index + 1) 0) ++
    ",\"rejected\":" ++ toString (counts.getD (3 * index + 2) 0) ++ "\x7d"

def reportText (drained : Bool) (reason : RecordingFailure) (counts : List Nat) : String :=
  "\x7b\"version\":1,\"writer_drained\":" ++ (if drained then "true" else "false") ++
    ",\"reason\":\"" ++ reason.reason ++ "\",\"streams\":\x7b" ++
    String.join ((List.range 5).map (streamReport counts)) ++ "\x7d\x7d\n"

namespace FileSink

/-- Open each output and write its header, up to the first error. -/
def openOutputs (storage : Storage) (index : Nat) :
    List RecordingFile → List FileStream → List FileStream × Bool
  | file :: files, output :: outputs =>
      let output :=
        (output.openPath (storage.opening index)).put file.header (storage.header index)
      if output.good then
        let rest := openOutputs storage (index + 1) files outputs
        (output :: rest.1, rest.2)
      else (output :: outputs, false)
  | _, outputs => (outputs, true)

/-- Open the report and the outputs once; the result says whether the call returned. -/
def openFiles (storage : Storage) (sink : FileSink) : FileSink × Bool :=
  if sink.opened then (sink, true)
  else
    match storage.report with
    | some kept =>
        ({ sink with report := String.ofList (unfinishedReport.toList.take kept) }, false)
    | none =>
        let resized :=
          sink.outputs ++ List.replicate (sink.files.length - sink.outputs.length) {}
        let outputs := openOutputs storage 0 sink.files resized
        ({ sink with
            report := unfinishedReport
            outputs := outputs.1
            opened := outputs.2 }, outputs.2)

/-- Write the chunks in order, up to the first error. -/
def writeChunks (storage : Storage) (index : Nat) :
    List RecordingChunk → List FileStream → List FileStream × Bool
  | [], outputs => (outputs, true)
  | chunk :: rest, outputs =>
      match outputs[chunk.file]? with
      | none => (outputs, false)
      | some output =>
          let output := (output.put chunk.bytes (storage.chunk index)).flush
          let outputs := outputs.set chunk.file output
          if output.good then writeChunks storage (index + 1) rest outputs else (outputs, false)

def write (storage : Storage) (sink : FileSink) (record : RecordingRecord) : FileSink × Bool :=
  match openFiles storage sink with
  | (sink, false) => (sink, false)
  | (sink, true) =>
      let outputs := writeChunks storage 0 record.chunks sink.outputs
      ({ sink with outputs := outputs.1 }, outputs.2)

def closeOutputs (storage : Storage) (index : Nat) :
    List RecordingFile → List FileStream → List FileStream
  | file :: files, output :: outputs =>
      (output.put file.footer (storage.footer index)).close (storage.closing index) ::
        closeOutputs storage (index + 1) files outputs
  | _, outputs => outputs

def finish (storage : Storage) (status : RecordingStatus) (sink : FileSink) :
    FileSink × FinishStep :=
  match sink.stage with
  | .start =>
      match if sink.outputs = [] then openFiles storage sink else (sink, true) with
      | (sink, false) => (sink, .throw)
      | (sink, true) =>
          let outputs := closeOutputs storage 0 sink.files sink.outputs
          ({ sink with outputs, stage := .closed (outputs.all FileStream.good) }, .proceed)
  | .closed good => ({ sink with stage := .noted }, if good then .proceed else .fail .storage)
  | .noted => ({ sink with stage := .drained (status.failure = .none) }, .proceed)
  | .drained answer => ({ sink with stage := .counting answer status.failure [] }, .proceed)
  | .counting answer reason counts =>
      if counts.length < 15 then
        ({ sink with
            stage := .counting answer reason (counts ++ [reportedCounter status counts.length]) },
          .proceed)
      -- The summary replaces the first report by a rename.
      else if storage.report.isSome ∨ storage.renamed = false then (sink, .throw)
      else ({ sink with report := reportText answer reason counts }, .done)

end FileSink

abbrev fileSink : RecordingSink where
  State := FileSink
  Env := Storage
  write := FileSink.write
  finish := FileSink.finish

def recordingFiles (files : List RecordingFile) : FileSink := { files }

end Vio
