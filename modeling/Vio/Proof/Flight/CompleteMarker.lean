import Vio.Construction.NativeFlight
import Vio.Proof.Flight.Handoff
import Vio.Proof.Lifecycle.RunUnwinds

namespace Vio
open Mavlink History

namespace Flight
variable {R : Type} [Mavlink R] [Scalar R] {flight next : Flight R}

omit [Mavlink R] [Scalar R] in
theorem onThrow_ne_saving (stage : FlightStage) : stage.onThrow ≠ some .saving := by
  cases stage <;> simp [FlightStage.onThrow]

/-- The capture saves its marker only after its worker returned. -/
theorem step_saving {action : FlightAction R} (moved : flight.step action = some next)
    (saving : next.stage = .saving) : action = .joined false := by
  have thrown {link : MavlinkLink R} (thrown : ({ flight with link } : Flight R).throws = some next) :
      action = .joined false := by
    obtain ⟨stage, leads, rfl⟩ := Option.map_eq_some_iff.mp thrown
    obtain rfl : stage = .saving := saving
    exact absurd leads (onThrow_ne_saving _)
  cases action with
  | stopping answer =>
      simp only [step] at moved
      split at moved <;> cases moved <;> dsimp only at saving
      · split at saving
        · cases saving
        · split at saving <;> cases saving
      · split at saving <;> cases saving
      · cases saving
      · split at saving
        · cases saving
        · split at saving <;> cases saving
  | reserve fates =>
      simp only [step] at moved
      split at moved <;> cases moved
      unfold reserve at saving
      split at saving <;> cases saving
  | start =>
      simp only [step] at moved
      split at moved <;> cases moved
      unfold start at saving
      dsimp only at saving
      split at saving <;> cases saving
  | pump input =>
      simp only [step] at moved
      split at moved
      · cases moved
      rename_i pumps
      split at moved
      · cases moved
        cases saving
      · split at moved
        · exact thrown moved
        · cases moved
          unfold pumped again at saving
          dsimp only at saving
          repeat' split at saving
          all_goals first | cases saving | skip
          change flight.stage = .saving at saving
          rw [saving] at pumps
          exact absurd rfl pumps
  | publish estimate now later =>
      simp only [step] at moved
      split at moved
      · split at moved
        · exact thrown moved
        · cases moved
          dsimp only at saving
          split at saving <;> cases saving
      · cases moved
  | clock now =>
      simp only [step] at moved
      split at moved <;> cases moved <;> dsimp only at saving
      · cases saving
      · split at saving <;> cases saving
      · cases saving
  | endSession stopThrows =>
      simp only [step] at moved
      split at moved <;> cases moved
      cases saving
  | poll now transport =>
      simp only [step] at moved
      split at moved
      · rename_i unwinding
        split at moved
        · exact thrown moved
        · cases moved
          dsimp only at saving
          rw [unwinding] at saving
          cases saving
      · cases moved
  | joined error =>
      simp only [step] at moved
      split at moved <;> cases moved
      dsimp only at saving
      split at saving
      · cases saving
      · rename_i clean
        rw [Bool.or_eq_true, not_or, Bool.not_eq_true, Bool.not_eq_true] at clean
        rw [clean.2]
  | proceed =>
      simp only [step] at moved
      split at moved <;> cases moved <;> cases saving
  | throws => exact thrown moved

end Flight

namespace CaptureRun
variable {run next : CaptureRun}

/-- A call of `run` that is over stays as it ended. -/
theorem step_left {action : RunAction} (left : run.stage = .left) (moved : run.step action = some next) :
    next.stage = .left ∧ next.outcome = run.outcome := by
  cases action with
  | openFile result => simp [step, openFile, left] at moved
  | record writerBusy threads => simp [step, record, left] at moved
  | launch started => simp [step, launch, left] at moved
  | clock now => simp [step, clock, left] at moved
  | proceed => simp [step, proceed, left] at moved
  | recorder action =>
      simp only [step] at moved
      split at moved
      · cases moved
      · split at moved
        · obtain ⟨recording, _, rfl⟩ := Option.map_eq_some_iff.mp moved
          exact ⟨left, rfl⟩
        · cases moved
  | fedImu time | framesDone | returns body | throws body thrown | raise body =>
      obtain ⟨_, ⟨⟩⟩ := Option.ite_none_right_eq_some.mp moved
      exact ⟨left, rfl⟩
  | store body =>
      simp only [step] at moved
      split at moved <;> cases moved
      exact ⟨left, rfl⟩
  | requestStop =>
      cases moved
      exact ⟨left, rfl⟩

/-- The capture that a marker stands for: it returned normally after all its threads ran to their end,
and each file of its recording holds every record that its threads submitted. -/
structure Whole (filePrefix : String) (run : CaptureRun) : Prop where
  left : run.stage = .left
  outcome : run.outcome = none
  bodies : run.bodies = run.plan
  ended : ∀ thread ∈ run.threads, thread.stage = .ended
  stored : run.stored = []
  imuStalled : run.imuStalled = false
  recorded : ∃ log recording, run.outputs = some (captureFiles filePrefix log) ∧
    run.recording = some recording ∧ Lossless recording.history ∧
    ∀ index : Nat, (recording.sinkState.outputs[index]?).map FileStream.content =
      ((captureFiles filePrefix log)[index]?).map fun file => file.header ++
        addressed index (chunksOf (acceptedRecords recording.history)) ++ file.footer

/-- A normal end with a complete status was preceded by a `close` that returned true. -/
theorem Sound.whole {begun : Bool} {actions : List RunAction} (sound : run.Sound begun actions)
    (left : run.stage = .left) (normal : run.outcome = none) (complete : run.complete = true)
    {filePrefix : String} {log : Option String}
    (outputs : run.outputs = some (captureFiles filePrefix log)) : run.Whole filePrefix := by
  obtain ⟨all, joined, empty, running⟩ := sound.unthrown left normal
  refine ⟨left, normal, all, sound.threads.ended joined, empty, running, log, ?_⟩
  obtain ⟨recording, found, done⟩ := (Option.any_eq_true _ _).mp complete
  obtain ⟨_, clean⟩ := Bool.and_eq_true_iff.mp done
  have clean : recording.status.failure = .none := of_decide_eq_true clean
  have calls := sound.recorded recording found
  obtain ⟨files, same, opened⟩ := calls.opened
  obtain rfl := Option.some.inj (outputs.symm.trans same)
  have asked := calls.asked
  rw [left] at asked
  have closed := (opened.reached.told.2.returned asked.1 asked.2).resolve_left fun failed => failed clean
  exact ⟨recording, outputs, found, opened.reached.whole calls.separated (.inl closed)⟩

end CaptureRun

namespace NativeFlight
variable {R K : Type} [Mavlink R] [Scalar R] [Field K] [LinearOrder K] {number : R → K}
  {flight next : NativeFlight R}

/-- The last call of `run` is over, with an exception or without one. -/
def Left (flight : NativeFlight R) (error : Bool) : Prop :=
  match flight.run with
  | some (.ok run) => run.stage = .left ∧ error = run.outcome.isSome
  | some (.error _) => error = true
  | none => False

/-- The last worker has the options of the last call of `run`, which goes on like any run. -/
structure Truthful (number : R → K) (flight : NativeFlight R) : Prop where
  running : ∀ run, flight.run = some (.ok run) → (∃ begun actions, run.Sound begun actions) ∧
    ∃ options, flight.options = some options ∧
      run.outputs = (CaptureInputs.mk (options.numbers number) none).outputs
  worker : ∀ worker, flight.capture.worker = some worker → flight.options = some worker.options ∧
    ∀ error, worker.done = some error → flight.Left error
  saving : flight.capture.stage = .saving → flight.Left false
  saved : ∀ marker ∈ flight.saved, marker.2.Whole marker.1

/-- The last call of `run` goes on, or it rests. -/
inductive Onward : Option (Except Thrown CaptureRun) → Option (Except Thrown CaptureRun) → Prop
  | rest (run : Option (Except Thrown CaptureRun)) : Onward run run
  | step {run after : CaptureRun} (action : RunAction) (moved : run.step action = some after) :
      Onward (some (.ok run)) (some (.ok after))

omit [Scalar R] in
/-- A call of `run` that is over stays over. -/
theorem Left.onward {error : Bool} (left : flight.Left error) (onward : Onward flight.run next.run) :
    next.Left error := by
  unfold Left at left ⊢
  generalize flight.run = before, next.run = after at left onward
  cases onward with
  | rest => exact left
  | step action moved =>
      obtain ⟨stays, outcome⟩ := CaptureRun.step_left left.1 moved
      exact ⟨stays, left.2.trans (congrArg Option.isSome outcome).symm⟩

omit [Scalar R] [Field K] [LinearOrder K] in
/-- The last call of `run` keeps its options and its worker. -/
theorem Truthful.keep (truthful : flight.Truthful number) (onward : Onward flight.run next.run)
    (options : next.options = flight.options)
    (worker : ∀ worker, next.capture.worker = some worker → ∃ before,
      flight.capture.worker = some before ∧ worker.options = before.options ∧
        ∀ error, worker.done = some error → before.done = some error ∨ flight.Left error)
    (saving : next.capture.stage = .saving → flight.Left false)
    (saved : ∀ marker ∈ next.saved, marker.2.Whole marker.1) : next.Truthful number where
  running := by
    intro run found
    rw [options]
    have running := truthful.running
    generalize flight.run = before at running onward
    rw [found] at onward
    cases onward with
    | rest => exact running run rfl
    | step action moved =>
        obtain ⟨⟨begun, actions, sound⟩, options, same, outputs⟩ := running _ rfl
        exact ⟨⟨begun, _, sound.step moved⟩, options, same, (CaptureRun.step_outputs moved).trans outputs⟩
  worker := by
    intro after there
    obtain ⟨before, here, same, done⟩ := worker after there
    obtain ⟨known, ends⟩ := truthful.worker before here
    rw [options, same]
    refine ⟨known, fun error ended => ?_⟩
    exact ((done error ended).elim (ends error) id).onward onward
  saving late := (saving late).onward onward
  saved := saved

omit [Scalar R] [Field K] [LinearOrder K] in
/-- A marker stands for the whole capture. -/
theorem Truthful.saves (truthful : flight.Truthful number) (action : FlightApplicationAction R) :
    ∀ marker ∈ flight.saves action, marker.2.Whole marker.1 := by
  intro marker member
  unfold NativeFlight.saves at member
  split at member
  · rename_i saving
    split at member
    · rename_i filePrefix run named found
      split at member
      · rename_i complete
        obtain rfl := List.mem_singleton.mp member
        have left := truthful.saving saving.1
        unfold Left at left
        rw [found] at left
        obtain ⟨⟨begun, actions, sound⟩, options, known, outputs⟩ := truthful.running run found
        rw [known, Option.bind_some] at named
        have normal : run.outcome = none := Option.isNone_iff_eq_none.mp
          (Option.isSome_eq_false_iff.mp left.2.symm)
        have files : run.outputs = some (captureFiles filePrefix options.estimateLog) := by
          have kept : (options.numbers number).recordingPrefix = some filePrefix := named
          simp only [outputs, CaptureInputs.outputs, kept]
          rfl
        exact sound.whole left.1 normal complete files
      · cases member
    · cases member
  · cases member

omit [Scalar R] in
/-- The worker stays through an action of the loop, and it may be told to stop. -/
theorem Truthful.stays (truthful : flight.Truthful number) {capture : FlightCapture R}
    {saved : List (String × CaptureRun)} {stops : Bool}
    (worker : capture.worker = flight.capture.worker.map fun worker =>
      { worker with stop := worker.stop || stops })
    (marked : ∀ marker ∈ saved, marker.2.Whole marker.1)
    (saving : capture.stage = .saving → flight.Left false) :
    ({ capture
       options := (capture.worker.map CaptureWorker.options).or flight.options
       run := flight.runAfter number capture
       saved } : NativeFlight R).Truthful number := by
  have onward : Onward flight.run (flight.runAfter number capture) := by
    unfold runAfter
    rw [worker]
    cases flight.capture.worker with
    | none => exact .rest _
    | some before =>
        dsimp only [Option.map_some]
        split
        · cases flight.run with
          | none => exact .rest _
          | some run =>
              cases run with
              | error thrown => exact .rest _
              | ok run => exact .step .requestStop rfl
        · exact .rest _
  refine truthful.keep onward ?_ (fun after there => ?_) saving marked
  · rw [worker]
    cases there : flight.capture.worker with
    | none => rfl
    | some before => exact (truthful.worker before there).1.symm
  · change capture.worker = some after at there
    rw [worker] at there
    obtain ⟨before, here, rfl⟩ := Option.map_eq_some_iff.mp there
    exact ⟨before, here, rfl, fun error done => .inl done⟩

/-- The main loop hands the worker the options of the call that it makes. -/
theorem Truthful.main (truthful : flight.Truthful number) {config : MavlinkLinkConfig}
    (handoff : flight.capture.Handoff config) {action : FlightApplicationAction R}
    (moved : flight.step number (.main action) = some next) : next.Truthful number := by
  obtain ⟨capture, stepped, rfl⟩ := Option.map_eq_some_iff.mp moved
  obtain ⟨read, application, free, given, set, rfl⟩ := FlightCapture.step_main stepped
  have saved : ∀ marker ∈ flight.saves action ++ flight.saved, marker.2.Whole marker.1 := by
    intro marker member
    exact (List.mem_append.mp member).elim (truthful.saves action marker) (truthful.saved marker)
  cases FlightApplication.step_setup set with
  | worker options acquiring streaming same working =>
      have empty : flight.capture.worker = none :=
        (handoff.launched (by rw [FlightCapture.stage, acquiring]; rfl)).mpr
          ⟨acquiring, fun options same => by rw [streaming] at same; cases same⟩
      have launched : flight.capture.workerAfter .worker application = some { options } := by
        unfold FlightCapture.workerAfter
        rw [working]
      refine ⟨?_, ?_, ?_, saved⟩
      · intro run found
        simp only [runAfter, empty, launched] at found
        obtain rfl := CaptureRun.enter_start (Option.some.inj found)
        refine ⟨⟨false, [], CaptureRun.start_sound _ _⟩, options, ?_, rfl⟩
        simp only [launched]
        rfl
      · intro worker there
        simp only [launched, Option.some.injEq] at there
        obtain rfl := there
        simp only [launched]
        exact ⟨rfl, fun _ same => by cases same⟩
      · intro saving
        change application.flight.stage = .saving at saving
        rw [same, acquiring] at saving
        cases saving
  | prepare other same unlaunched =>
      refine truthful.stays (FlightCapture.workerAfter_other other) saved fun saving => ?_
      change application.flight.stage = .saving at saving
      rw [same] at saving
      exact truthful.saving saving
  | fly other flown moved asked acquired idle =>
      refine truthful.stays (FlightCapture.workerAfter_other other) saved fun saving => ?_
      obtain rfl := Flight.step_saving moved saving
      obtain rfl := asked fun same => by cases same
      obtain ⟨worker, there, done⟩ := FlightCapture.reads_joined given
      exact (truthful.worker worker there).2 false done

/-- A step moves the two threads of the flight, or the capture goes on beside them. -/
theorem step_capture {action : NativeFlightAction R} (moved : flight.step number action = some next) :
    next.capture = flight.capture ∨ ∃ taken, flight.capture.step taken = some next.capture := by
  cases action with
  | main action | join =>
      obtain ⟨capture, stepped, rfl⟩ := Option.map_eq_some_iff.mp moved
      exact .inr ⟨_, stepped⟩
  | run action =>
      simp only [step] at moved
      split at moved
      · cases moved
      · obtain ⟨run, _, rfl⟩ := Option.map_eq_some_iff.mp moved
        exact .inl rfl
      · cases moved
  | store timestamp positionWorldM velocityWorldMps worldFromImu =>
      simp only [step] at moved
      split at moved
      · obtain ⟨_, moved⟩ := Option.ite_none_right_eq_some.mp moved
        obtain ⟨capture, stepped, rfl⟩ := Option.map_eq_some_iff.mp moved
        exact .inr ⟨_, stepped⟩
      · cases moved
  | done =>
      simp only [step] at moved
      split at moved
      · obtain ⟨capture, stepped, rfl⟩ := Option.map_eq_some_iff.mp moved
        exact .inr ⟨_, stepped⟩
      · obtain ⟨_, moved⟩ := Option.ite_none_right_eq_some.mp moved
        obtain ⟨capture, stepped, rfl⟩ := Option.map_eq_some_iff.mp moved
        exact .inr ⟨_, stepped⟩
      · cases moved

/-- The steps of the loop, of the worker and of `run` keep the worker's call. -/
theorem Truthful.step (truthful : flight.Truthful number) {config : MavlinkLinkConfig}
    (handoff : flight.capture.Handoff config) {action : NativeFlightAction R}
    (moved : flight.step number action = some next) : next.Truthful number := by
  cases action with
  | main action => exact truthful.main handoff moved
  | run action =>
      simp only [NativeFlight.step] at moved
      split at moved
      · cases moved
      · rename_i run found _
        obtain ⟨after, stepped, rfl⟩ := Option.map_eq_some_iff.mp moved
        refine truthful.keep ?_ rfl (fun worker there => ⟨worker, there, rfl, fun _ => .inl⟩)
          truthful.saving truthful.saved
        rw [found]
        exact .step _ stepped
      · cases moved
  | store timestamp positionWorldM velocityWorldMps worldFromImu =>
      simp only [NativeFlight.step] at moved
      split at moved
      · obtain ⟨_, moved⟩ := Option.ite_none_right_eq_some.mp moved
        obtain ⟨capture, stepped, rfl⟩ := Option.map_eq_some_iff.mp moved
        simp only [FlightCapture.step] at stepped
        split at stepped <;> cases stepped
        exact truthful.keep (.rest _) rfl (fun worker there => ⟨worker, there, rfl, fun _ => .inl⟩)
          truthful.saving truthful.saved
      · cases moved
  | done =>
      have ended {error : Bool} {capture : FlightCapture R} (left : flight.Left error)
          (stepped : flight.capture.step (.done error) = some capture) :
          ({ flight with capture } : NativeFlight R).Truthful number := by
        simp only [FlightCapture.step] at stepped
        split at stepped <;> cases stepped
        rename_i options stop there
        refine truthful.keep (.rest _) rfl ?_ truthful.saving truthful.saved
        rintro worker ⟨⟩
        refine ⟨_, there, rfl, fun found same => .inr ?_⟩
        obtain rfl := Option.some.inj same
        exact left
      simp only [NativeFlight.step] at moved
      split at moved
      · rename_i thrown found
        obtain ⟨capture, stepped, rfl⟩ := Option.map_eq_some_iff.mp moved
        refine ended ?_ stepped
        rw [Left, found]
      · rename_i run found
        obtain ⟨left, moved⟩ := Option.ite_none_right_eq_some.mp moved
        obtain ⟨capture, stepped, rfl⟩ := Option.map_eq_some_iff.mp moved
        refine ended ?_ stepped
        rw [Left, found]
        exact ⟨left, rfl⟩
      · cases moved
  | join =>
      obtain ⟨capture, stepped, rfl⟩ := Option.map_eq_some_iff.mp moved
      simp only [FlightCapture.step] at stepped
      split at stepped
      · obtain ⟨_, stepped⟩ := Option.ite_none_left_eq_some.mp stepped
        cases stepped
        exact truthful.keep (.rest _) rfl (fun _ same => by cases same) truthful.saving truthful.saved
      · cases stepped

omit [Field K] [LinearOrder K] in
/-- The loop begins without a capture. -/
theorem launch_truthful {store : SessionStore} {owner : OwnerFates} {fates : ReserveFates}
    {stream : Bool} {config : FlightConfig R} {calibration : Matrix3 R}
    (launched : launch store owner fates stream config calibration = some flight) :
    flight.capture.Handoff config.link ∧ flight.Truthful number := by
  obtain ⟨capture, begun, rfl⟩ := Option.map_eq_some_iff.mp launched
  have handoff := FlightCapture.launch_handoff begun
  obtain ⟨application, beginning, rfl⟩ := Option.map_eq_some_iff.mp begun
  have looping := (FlightCapture.application_launched beginning).1
  refine ⟨handoff, ⟨fun run found => ?_, fun worker there => ?_, fun saving => ?_, fun marker member => ?_⟩⟩
  · cases found
  · cases there
  · change application.flight.stage = .saving at saving
    rw [looping] at saving
    cases saving
  · cases member

/-- In every run of the flight application, with any traffic, failures and storage: a marker
`.complete.json` is left only by a capture that returned normally after all its threads ran to their
end, and each file of its recording holds its header, every record that a thread submitted to it, in
order, and its footer. -/
theorem marker_truthful (packs : PacksFit R) {store : SessionStore} {owner : OwnerFates}
    {fates : ReserveFates} {stream : Bool} {config : FlightConfig R} {calibration : Matrix3 R}
    {first : NativeFlight R} {actions : List (NativeFlightAction R)}
    (launched : launch store owner fates stream config calibration = some first)
    (ran : first.steps number actions = some flight) :
    ∀ marker ∈ flight.saved, marker.2.Whole marker.1 := by
  have kept := PartialRun.invariant
    (fun flight : NativeFlight R => flight.capture.Handoff config.link ∧ flight.Truthful number)
    (fun before action after moved held => ⟨?_, held.2.step held.1 moved⟩) ran
    (launch_truthful launched)
  · exact kept.2.saved
  · rcases step_capture moved with same | ⟨taken, stepped⟩
    · rw [same]
      exact held.1
    · exact held.1.step packs stepped

end NativeFlight

namespace SampleMarker
open SampleFlight

def number (value : Exact) : ℚ := value.value.getD 0

def device (kind : ImuKind) (chardev : String) : ImuDevice Exact where
  kind
  sysfs := ""
  chardev
  scale := 1.0
  rateHz := 416.0
  recordBytes := 16
  timestampOffset := 8

def main (actions : List (FlightApplicationAction Exact)) : List (NativeFlightAction Exact) :=
  actions.map .main

def run (actions : List RunAction) : List (NativeFlightAction Exact) := actions.map .run

def begins : List (NativeFlightAction Exact) :=
  main [.flight (.stopping false), .flight .start,
    .flight (SampleCaptures.pump 1 (heartbeat false 0)), .flight (.stopping false),
    .cameraFromImu SampleHandoff.calibration, .makeCamera, .flight .proceed,
    .flight (SampleCaptures.pump 2 []), .prepareRecording ⟨"run-native-2", true⟩,
    .imuDevices (some (device .accel "iio:device0", [device .gyro "iio:device1"])), .saveMetadata,
    .startCamera, .worker] ++
  run [.openFile (.ok 3), .openFile (.ok 4), .proceed, .record false true, .proceed, .launch true,
    .launch true, .launch true, .proceed, .clock 5]

def estimate : RecordingRecord := ⟨.estimate, [recordingText 5 (ascii "1 0")]⟩

/-- The update thread records one estimate, and the owner asks for the end. -/
def works : List (NativeFlightAction Exact) :=
  run ([.recorder (.submit estimate)] ++ List.replicate 6 (.recorder (.advance .estimate)) ++
    [.recorder .work, .recorder (.write {}), .recorder .work]) ++
  main [.flight (.clock 3), .flight (.pump
      { now := 9, transport := ⟨.ok [], .ok 300⟩, stopping := true, clock := 9 }),
    .flight (.stopping true), .flight (.endSession false)]

def leaves : List (NativeFlightAction Exact) :=
  run ([.proceed, .proceed, .returns .imu, .returns .update, .returns .camera] ++
    List.replicate 5 .proceed ++ [.recorder .proceed, .recorder .work, .recorder .work] ++
    List.replicate 20 (.recorder (.finish {})) ++ [.recorder .work, .recorder .work] ++
    List.replicate 4 (.recorder .proceed) ++ List.replicate 5 .proceed ++
    List.replicate 3 (.recorder .proceed) ++ List.replicate 4 .proceed)

def schedule : List (NativeFlightAction Exact) :=
  begins ++ works ++ leaves ++ [.done, .main (.flight (.joined true)), .join, .main (.flight .proceed)]

def launched : Option (NativeFlight Exact) :=
  NativeFlight.launch SampleCaptures.store {} {} true SampleApplication.config
    SampleHandoff.calibration

theorem ran : (launched.bind fun first => first.steps number schedule).map
    (fun flight => flight.saved.map Prod.fst) = some ["run-native-2"] := by decide +kernel

end SampleMarker

open SampleMarker in
/-- The one capture of the sample run leaves its marker. -/
theorem NativeFlight.marker_truthful_saved : ∃ (flight : NativeFlight Exact) (run : CaptureRun),
    flight.saved = [("run-native-2", run)] ∧ run.Whole "run-native-2" := by
  obtain ⟨flight, reached, saved⟩ := Option.map_eq_some_iff.mp SampleMarker.ran
  obtain ⟨first, begun, reached⟩ := Option.bind_eq_some_iff.mp reached
  obtain ⟨⟨name, run⟩, single, rfl⟩ := List.map_eq_singleton_iff.mp saved
  refine ⟨flight, run, single, ?_⟩
  have whole := NativeFlight.marker_truthful MavlinkCodec.packsFit begun reached
  rw [single] at whole
  exact whole _ (List.mem_singleton_self _)

end Vio
