import Mathlib.Algebra.Field.Rat
import Mathlib.Algebra.Order.Ring.Unbundled.Rat
import Vio.Proof.Lifecycle.RunOutcome
import Vio.Proof.Process.Simulation

namespace Vio
namespace CaptureRun

/-- What holds between the transitions of a run with these actions. -/
structure Sound (begun : Bool) (actions : List RunAction) (run : CaptureRun) : Prop where
  threads : run.Threads
  recorded : run.Recorded
  released : run.Released
  caused : run.Caused begun actions

variable {K : Type} {run next : CaptureRun} {begun : Bool} {actions : List RunAction}

/-- Only the steps of `run` release descriptors. -/
theorem Released.step (released : run.Released) {action : RunAction}
    (moved : run.step action = some next) : next.Released := by
  cases action with
  | openFile result => exact released.main (openFile_main moved)
  | record writerBusy slots => exact released.main (record_main moved)
  | launch started => exact released.main (launch_main moved)
  | clock now => exact released.main (clock_main moved)
  | proceed => exact released.main (proceed_main moved)
  | recorder action =>
      simp only [CaptureRun.step] at moved
      split at moved
      · cases moved
      · split at moved
        · obtain ⟨recording, _, rfl⟩ := Option.map_eq_some_iff.mp moved
          exact released
        · cases moved
  | fedImu time | framesDone | returns body | throws body thrown | raise body =>
      obtain ⟨_, ⟨⟩⟩ := Option.ite_none_right_eq_some.mp moved
      exact released
  | store body =>
      simp only [CaptureRun.step] at moved
      split at moved <;> cases moved
      exact released
  | requestStop =>
      cases moved
      exact released

/-- Each action keeps all parts of the invariant. -/
theorem Sound.step (sound : run.Sound begun actions) {action : RunAction}
    (moved : run.step action = some next) : next.Sound begun (actions ++ [action]) where
  threads := sound.threads.step moved
  recorded := sound.recorded.step sound.threads moved
  released := sound.released.step moved
  caused := sound.caused.step sound.threads moved

/-- A call of `run` that passed its checks is sound. -/
theorem start_sound (inputs : CaptureInputs K) (begun : Bool) :
    (start inputs begun).Sound begun [] where
  threads := by
    refine ⟨?_, rfl, ⟨[], rfl, nofun⟩, nofun⟩
    change inputs.threads.Nodup
    unfold CaptureInputs.threads
    split <;> decide
  recorded := fun _ found => by cases found
  released := rfl
  caused := by
    refine ⟨?_, rfl, nofun, nofun, nofun, fun set => .inl ?_, trivial, rfl⟩
    · change inputs.threads ≠ []
      unfold CaptureInputs.threads
      split <;> exact List.cons_ne_nil _ _
    · exact set.resolve_right nofun

theorem Sound.steps {inputs : CaptureInputs K}
    (ran : (start inputs begun).steps actions = some run) : run.Sound begun actions :=
  PartialRun.traced (CaptureRun.Sound begun) (fun _ _ _ _ moved sound => sound.step moved) ran
    (start_sound inputs begun)

/-- A call of `run` that is not refused starts with its inputs. -/
theorem enter_start [Field K] [LinearOrder K] {inputs : CaptureInputs K}
    (entered : enter inputs begun = .ok run) : run = start inputs begun := by
  unfold enter at entered
  split at entered
  · cases entered
  · exact (Except.ok.inj entered).symm

/-- The threads have ended where a descriptor is closed or the recording is being closed. -/
theorem Sound.quiet (sound : run.Sound begun actions)
    (late : run.released ≠ [] ∨ ∃ recording, run.recording = some recording ∧
      .closeCalled ∈ recording.history) : ∀ thread ∈ run.threads, thread.stage = .ended := by
  refine sound.threads.ended ?_
  rcases late with closed | ⟨recording, found, called⟩
  · have released := sound.released
    unfold Released at released
    split at released
    · rename_i stage
      exact sound.threads.after (by rw [stage]; trivial)
    · rename_i stage
      exact sound.threads.after (by rw [stage]; trivial)
    · exact absurd released closed
  · exact (sound.recorded recording found |>.called called).2

theorem MainStep.outputs (step : run.MainStep next) : next.outputs = run.outputs := by
  cases step <;> rfl

/-- The files stay the same. -/
theorem step_outputs {action : RunAction} (moved : run.step action = some next) :
    next.outputs = run.outputs := by
  cases action with
  | openFile result => exact (openFile_main moved).outputs
  | record writerBusy slots => exact (record_main moved).outputs
  | launch started => exact (launch_main moved).outputs
  | clock now => exact (clock_main moved).outputs
  | proceed => exact (proceed_main moved).outputs
  | recorder action =>
      simp only [CaptureRun.step] at moved
      split at moved
      · cases moved
      · split at moved
        · obtain ⟨recording, _, rfl⟩ := Option.map_eq_some_iff.mp moved
          rfl
        · cases moved
  | fedImu time | framesDone | returns body | throws body thrown | raise body =>
      obtain ⟨_, ⟨⟩⟩ := Option.ite_none_right_eq_some.mp moved
      rfl
  | store body =>
      simp only [CaptureRun.step] at moved
      split at moved <;> cases moved
      rfl
  | requestStop =>
      cases moved
      rfl

theorem steps_outputs {first last : CaptureRun} (ran : first.steps actions = some last) :
    last.outputs = first.outputs :=
  PartialRun.invariant (fun run : CaptureRun => run.outputs = first.outputs)
    (fun _ _ _ moved same => (step_outputs moved).trans same) ran rfl

/-- A run that returned normally launched all its threads, and none of them stored an error. -/
theorem Sound.unthrown (sound : run.Sound begun actions) (left : run.stage = .left)
    (normal : run.outcome = none) :
    run.bodies = run.plan ∧ run.joinable = [] ∧ run.stored = [] ∧ run.imuStalled = false := by
  have judged := sound.caused.judged
  unfold Judged at judged
  rw [left] at judged
  obtain ⟨verdict, joined, all⟩ := judged.resolve_right fun failed => failed.1 normal
  rw [normal] at verdict
  unfold CaptureRun.verdict at verdict
  have first := sound.caused.first
  split at verdict
  · cases verdict
  rename_i none
  rw [none] at first
  refine ⟨all, joined, List.head?_eq_none_iff.mp first.symm, ?_⟩
  by_contra stalled
  rw [if_pos (eq_true_of_ne_false stalled)] at verdict
  cases verdict

/-- A run that returned normally launched all its threads, none of them threw, and something asked it
to stop. -/
theorem Sound.normal (sound : run.Sound begun actions) (left : run.stage = .left)
    (normal : run.outcome = none) :
    run.bodies = run.plan ∧ (∀ body thrown, .throws body thrown ∉ actions) ∧
      run.imuStalled = false ∧
      (begun = true ∨ .requestStop ∈ actions ∨ .framesDone ∈ actions) := by
  obtain ⟨all, joined, empty, running⟩ := sound.unthrown left normal
  have ended := sound.threads.ended joined
  refine ⟨all, fun body thrown member => ?_, running, ?_⟩
  · rcases sound.caused.thrown body thrown member with stored | ⟨thread, inside, catching⟩
    · rw [empty] at stored
      cases stored
    · rw [ended thread inside] at catching
      cases catching
  · have stopped := sound.caused.stopped
    unfold Stopped at stopped
    rw [left] at stopped
    have some : run.threads ≠ [] := fun none => sound.caused.planned (by rw [← all, bodies, none]; rfl)
    rcases sound.caused.flag (.inl (stopped some)) with cause | cause | cause | cause | cause | cause
    · exact .inl cause
    · exact .inr (.inl cause)
    · exact absurd empty cause
    · rw [running] at cause
      cases cause
    · exact .inr (.inr (sound.caused.done cause))
    · exact absurd normal cause

/-- What kept `run` from launching its threads, and what it throws then. -/
def StartFailed (outputs : Option (List RecordingFile)) (actions : List RunAction) (thrown : Thrown) :
    Prop :=
  (∃ path reason, .openFile (.error reason) ∈ actions ∧
    thrown = .runtimeError ("cannot open " ++ path ++ ": " ++ reason)) ∨
  (∃ files writerBusy slots, .record writerBusy slots ∈ actions ∧ outputs = some files ∧
    openRecording files writerBusy slots = .error thrown) ∨
  .launch false ∈ actions ∧ thrown = .runtimeError "thread"

/-- An exception leaves a run whose threads were all launched, or it is the failure of the start. -/
def Explained (actions : List RunAction) (run : CaptureRun) : Prop :=
  ∀ thrown, run.outcome = some thrown →
    run.bodies = run.plan ∨ StartFailed run.outputs actions thrown

/-- A failure of the start stays the cause. -/
theorem StartFailed.more {outputs : Option (List RecordingFile)} {thrown : Thrown}
    (failed : StartFailed outputs actions thrown) (later : List RunAction) :
    StartFailed outputs (actions ++ later) thrown := by
  rcases failed with ⟨path, reason, member, same⟩ | ⟨files, busy, slots, member, created⟩ | ⟨member, same⟩
  · exact .inl ⟨path, reason, List.mem_append_left _ member, same⟩
  · exact .inr (.inl ⟨files, busy, slots, List.mem_append_left _ member, created⟩)
  · exact .inr (.inr ⟨List.mem_append_left _ member, same⟩)

/-- A step that neither throws nor launches. -/
theorem Explained.keep (explained : run.Explained actions) (later : List RunAction)
    (outcome : next.outcome = run.outcome) (bodies : next.bodies = run.bodies)
    (plan : next.plan = run.plan) (outputs : next.outputs = run.outputs) :
    next.Explained (actions ++ later) := by
  intro thrown found
  rw [bodies, plan, outputs]
  exact (explained thrown (outcome ▸ found)).imp_right (StartFailed.more · later)

/-- Before its threads have an owner `run` throws just what failed. -/
theorem Explained.failed {action : RunAction} {stage : RunStage} {thrown : Thrown}
    (failed : StartFailed run.outputs [action] thrown) :
    ({ run with outcome := some thrown, stage } : CaptureRun).Explained (actions ++ [action]) := by
  rintro _ ⟨⟩
  rcases failed with ⟨path, reason, member, same⟩ | ⟨files, busy, slots, member, created⟩ | ⟨member, same⟩
  · exact .inr (.inl ⟨path, reason, List.mem_append_right _ member, same⟩)
  · exact .inr (.inr (.inl ⟨files, busy, slots, List.mem_append_right _ member, created⟩))
  · exact .inr (.inr (.inr ⟨List.mem_append_right _ member, same⟩))

/-- Only the end of the loop gives an exception, and there all threads are launched. -/
theorem proceed_keeps (moved : run.proceed = some next) :
    next.bodies = run.bodies ∧ next.plan = run.plan ∧
      (next.outcome = run.outcome ∨ run.stage = .concluding) := by
  unfold proceed join close at moved
  repeat' split at moved
  all_goals first
    | cases moved; exact ⟨rfl, rfl, .inl rfl⟩
    | cases moved; exact ⟨rfl, rfl, .inr ‹_›⟩
    | cases moved
    | obtain ⟨recording, _, rfl⟩ := Option.map_eq_some_iff.mp moved; exact ⟨rfl, rfl, .inl rfl⟩

/-- An exception before the launches is that of the step which failed. -/
theorem Explained.step (explained : run.Explained actions) (sound : run.Sound begun actions)
    {action : RunAction} (moved : run.step action = some next) :
    next.Explained (actions ++ [action]) := by
  have outputs := step_outputs moved
  have launched := sound.threads.launched
  have judged := sound.caused.judged
  unfold Launched at launched
  unfold Judged at judged
  cases action with
  | openFile result =>
      change run.openFile result = some next at moved
      unfold openFile at moved
      split at moved
      · rename_i path paths reason here
        cases moved
        exact Explained.failed (.inl ⟨path, reason, List.mem_singleton_self _, rfl⟩)
      · rename_i path paths reason here
        cases moved
        exact Explained.failed (.inl ⟨path, reason, List.mem_singleton_self _, rfl⟩)
      · cases moved
        exact explained.keep _ rfl rfl rfl rfl
      · cases moved
        exact explained.keep _ rfl rfl rfl rfl
      · cases moved
  | record writerBusy slots =>
      change run.record writerBusy slots = some next at moved
      unfold record at moved
      split at moved
      · rename_i files here files'
        cases created : openRecording files writerBusy slots with
        | error thrown =>
            rw [created] at moved
            cases moved
            exact Explained.failed
              (.inr (.inl ⟨files, writerBusy, slots, List.mem_singleton_self _, files', created⟩))
        | ok recording =>
            rw [created] at moved
            cases moved
            exact explained.keep _ rfl rfl rfl rfl
      · cases moved
  | launch started =>
      change run.launch started = some next at moved
      unfold launch at moved
      split at moved
      · rename_i body left here
        cases started with
        | true =>
            rw [if_pos rfl] at moved
            cases moved
            rw [here] at judged
            intro thrown found
            cases judged.symm.trans found
        | false =>
            rw [if_neg Bool.false_ne_true] at moved
            cases moved
            exact Explained.failed (.inr (.inr ⟨List.mem_singleton_self _, rfl⟩))
      · cases moved
  | clock now =>
      change run.clock now = some next at moved
      unfold clock at moved
      repeat' split at moved
      all_goals first
        | cases moved; exact explained.keep _ rfl rfl rfl rfl
        | cases moved
  | proceed =>
      obtain ⟨bodies, plan, same | here⟩ := proceed_keeps moved
      · exact explained.keep _ same bodies plan outputs
      · rw [here] at launched
        intro thrown _
        rw [bodies, plan]
        exact .inl launched
  | recorder action =>
      simp only [CaptureRun.step] at moved
      split at moved
      · cases moved
      · split at moved
        · obtain ⟨recording, _, rfl⟩ := Option.map_eq_some_iff.mp moved
          exact explained.keep _ rfl rfl rfl rfl
        · cases moved
  | fedImu time | framesDone =>
      obtain ⟨_, ⟨⟩⟩ := Option.ite_none_right_eq_some.mp moved
      exact explained.keep _ rfl rfl rfl rfl
  | returns body | throws body thrown | raise body =>
      obtain ⟨_, ⟨⟩⟩ := Option.ite_none_right_eq_some.mp moved
      exact explained.keep _ rfl (move_bodies _ _ _) rfl rfl
  | store body =>
      simp only [CaptureRun.step] at moved
      split at moved <;> cases moved
      exact explained.keep _ rfl (move_bodies _ _ _) rfl rfl
  | requestStop =>
      cases moved
      exact explained.keep _ rfl rfl rfl rfl

/-- In every run the exception is explained. -/
theorem Explained.steps {inputs : CaptureInputs K}
    (ran : (start inputs begun).steps actions = some run) : run.Explained actions := by
  have initial : (start inputs begun).Sound begun [] ∧ (start inputs begun).Explained [] :=
    ⟨start_sound inputs begun, fun _ found => by cases found⟩
  have kept (seen : List RunAction) (before : CaptureRun) (action : RunAction) (after : CaptureRun)
      (moved : before.step action = some after)
      (held : before.Sound begun seen ∧ before.Explained seen) :
      after.Sound begun (seen ++ [action]) ∧ after.Explained (seen ++ [action]) :=
    ⟨held.1.step moved, held.2.step held.1 moved⟩
  exact (PartialRun.traced (fun seen state => CaptureRun.Sound begun seen state ∧ state.Explained seen)
    kept ran initial).2

/-- The exception that leaves a run: a failure of its start, the first stored error, or the stall. -/
theorem Sound.thrown (sound : run.Sound begun actions) (explained : run.Explained actions)
    (left : run.stage = .left) {thrown : Thrown} (outcome : run.outcome = some thrown) :
    (run.threads.length < run.plan.length ∧ StartFailed run.outputs actions thrown) ∨
      run.stored.head? = some thrown ∨
      run.stored = [] ∧ run.imuStalled = true ∧
        thrown = .runtimeError "IMU samples stopped advancing" := by
  have judged := sound.caused.judged
  have first := sound.caused.first
  unfold Judged at judged
  rw [left] at judged
  rcases judged with ⟨verdict, _, _⟩ | short
  · rw [outcome] at verdict
    unfold CaptureRun.verdict at verdict
    split at verdict
    · rename_i error found
      rw [← first, found, verdict]
      exact .inr (.inl rfl)
    · rename_i none
      rw [none] at first
      split at verdict
      · rename_i stalled
        exact .inr (.inr ⟨List.head?_eq_none_iff.mp first.symm, stalled, Option.some.inj verdict⟩)
      · cases verdict
  · refine .inl ⟨short.2, (explained thrown outcome).resolve_left fun all => ?_⟩
    have length := congrArg List.length all
    rw [List.length_map] at length
    exact absurd short.2 (by omega)

namespace SampleRun

def device (kind : ImuKind) (chardev : String) : ImuDevice ℚ where
  kind
  sysfs := ""
  chardev
  scale := 1
  rateHz := 416
  recordBytes := 16
  timestampOffset := 8

/-- A capture with a camera that records its estimates. -/
def inputs : CaptureInputs ℚ where
  options :=
    { devices := [device .accel "iio:device0", device .gyro "iio:device1"]
      estimateLog := some "run.est.txt"
      imuLpfHz := 50
      imuRateHz := 416
      cameraFps := 20
      generation := ⟨1⟩ }

def estimate : RecordingRecord := ⟨.estimate, [recordingText 0 (ascii "1 0")]⟩

def begins : List RunAction :=
  [.openFile (.ok 3), .openFile (.ok 4), .proceed, .record false true, .proceed, .launch true,
    .launch true, .launch true, .proceed, .clock 5]

/-- The update thread records one estimate, and throws. -/
def works : List RunAction :=
  [.recorder (.submit estimate)] ++ List.replicate 6 (.recorder (.advance .estimate)) ++
    [.recorder .work, .recorder (.write {}), .recorder .work, .throws .update .badOptionalAccess,
      .store .update, .raise .update]

def joins : List RunAction :=
  [.proceed, .proceed, .returns .imu, .returns .camera, .proceed, .proceed, .proceed, .proceed]

def closes : List RunAction :=
  [.proceed, .recorder .proceed, .recorder .work, .recorder .work] ++
    List.replicate 20 (.recorder (.finish {})) ++ [.recorder .work, .recorder .work] ++
    List.replicate 4 (.recorder .proceed) ++ [.proceed]

def leaves : List RunAction :=
  [.proceed, .proceed, .proceed, .proceed, .recorder .proceed, .recorder .proceed,
    .recorder .proceed, .proceed, .proceed, .proceed, .proceed]

def schedule : List RunAction := begins ++ works ++ joins ++ closes ++ leaves

/-- The sample options pass the checks of `run`. -/
theorem entered : enter inputs false = .ok (start inputs false) := by
  have accepted : (inputs.validate.toOption).isSome = true := by decide +kernel
  unfold enter
  split
  · rename_i thrown failed
    rw [failed] at accepted
    cases accepted
  · rfl

theorem ran : ((start inputs false).steps schedule).any (fun run =>
    run.stage = .left ∧ run.outcome = some .badOptionalAccess ∧ run.descriptors = [3, 4] ∧
      run.recording.any fun recording => recording.history.contains (.closed true) &&
        acceptedRecords recording.history = [estimate]) = true := by decide +kernel

end SampleRun

/-- The limits of the recording are 32 MiB and 1024 records. -/
theorem Opened.bounded {files : List RecordingFile} {recording : Recording fileSink}
    (opened : Opened files recording) : recording.Bounded byteLimit recordLimit := by
  obtain ⟨writerBusy, slots, fresh, actions, created, ran⟩ := opened
  obtain ⟨slot, made⟩ := openRecording_created created
  exact @Recording.run_bounded fileSink fresh recording _ 33554432 1024 _ _ _ _ made ran

/-- The calls of a run keep the order that a recording needs: nothing is submitted once `close` is
called, and the queue stays within its limits. A recording of a run whose report says drained, or whose
`close` returned true, lost nothing. -/
theorem run_recording_lossless [Field K] [LinearOrder K] {inputs : CaptureInputs K}
    {first : CaptureRun} (entered : enter inputs begun = .ok first)
    (ran : first.steps actions = some run) {recording : Recording fileSink}
    (found : run.recording = some recording) :
    Separated recording.history ∧ recording.Bounded byteLimit recordLimit ∧
    (.closed true ∈ recording.history ∨ saysDrained recording.sinkState.report = true →
      Lossless recording.history ∧
      ∃ files, inputs.outputs = some files ∧
        ∀ index : Nat, (recording.sinkState.outputs[index]?).map FileStream.content =
          (files[index]?).map fun file => file.header ++
            addressed index (chunksOf (acceptedRecords recording.history)) ++ file.footer) := by
  rw [enter_start entered] at ran
  have sound : run.Sound begun actions := Sound.steps ran
  have calls := sound.recorded recording found
  obtain ⟨files, outputs, opened⟩ := calls.opened
  refine ⟨calls.separated, opened.bounded, fun complete => ?_⟩
  obtain ⟨lossless, whole⟩ := opened.reached.whole calls.separated complete
  exact ⟨lossless, files, (steps_outputs ran).symm.trans outputs, whole⟩

/-- The update thread records one estimate before it throws, and the file holds it. -/
theorem run_recording_lossless_estimate : ∃ run recording,
    (start SampleRun.inputs false).steps SampleRun.schedule = some run ∧
      run.recording = some recording ∧ acceptedRecords recording.history = [SampleRun.estimate] ∧
      Lossless recording.history := by
  obtain ⟨run, ran, facts⟩ := (Option.any_eq_true _ _).mp SampleRun.ran
  obtain ⟨_, _, _, facts⟩ := of_decide_eq_true facts
  obtain ⟨recording, found, facts⟩ := (Option.any_eq_true _ _).mp facts
  obtain ⟨closed, accepted⟩ := Bool.and_eq_true_iff.mp facts
  have lossless := (run_recording_lossless SampleRun.entered ran found).2.2
    (.inl (List.contains_iff_mem.mp closed))
  exact ⟨run, recording, ran, found, of_decide_eq_true accepted, lossless.1⟩

end CaptureRun
end Vio
