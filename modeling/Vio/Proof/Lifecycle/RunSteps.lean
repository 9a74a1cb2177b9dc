import Vio.Construction.CaptureRun

namespace Vio
namespace CaptureRun

/-- The stages that a step leads to that changes nothing else. -/
inductive Goes (run : CaptureRun) : RunStage → Prop
  | opened (here : run.stage = .opening []) : Goes run .recording
  | unrecorded (here : run.stage = .recording) (none : run.outputs = none) :
      Goes run (.fifos run.fifoPaths)
  | ready (here : run.stage = .fifos []) : Goes run (.launching run.plan)
  | launched (here : run.stage = .launching []) : Goes run .starting
  | started (start : Int) (here : run.stage = .starting) : Goes run (.watching start)
  | stops (start : Int) (here : run.stage = .watching start) (stop : run.stop = true) :
      Goes run .stopping
  | sleeps (start : Int) (here : run.stage = .watching start) (goes : run.stop = false) :
      Goes run (.waking start)
  | finished (start : Int) (here : run.stage = .waking start) (done : run.framesDone = true) :
      Goes run .stopping
  | looks (start : Int) (here : run.stage = .waking start) : Goes run (.timing start)
  | early (start : Int) (here : run.stage = .timing start) : Goes run (.watching start)
  | late (start : Int) (here : run.stage = .timing start) : Goes run (.missing start)
  | seen (start : Int) (here : run.stage = .missing start) : Goes run (.aging start)
  | fresh (start : Int) (here : run.stage = .aging start) : Goes run (.watching start)
  | joined (here : run.stage = .joining) (all : run.joinable = []) : Goes run (.closing false)
  | closed (called : Bool) (here : run.stage = .closing called)
      (answered : ∀ recording ∈ run.recording, called = true ∧ recording.owner = .idle) :
      Goes run .concluding
  | rejoined (here : run.stage = .rejoining) (all : run.joinable = []) :
      Goes run (.discarding false)
  | discarded (called : Bool) (here : run.stage = .discarding called)
      (answered : ∀ recording ∈ run.recording, called = true ∧ recording.owner = .idle) :
      Goes run (.releasing run.descriptors)
  | left (here : run.stage = .releasing []) : Goes run .left

/-- Where an exception leaves `run` before the threads have an owner. -/
inductive Leaves (run : CaptureRun) : Prop
  | opening (path : String) (paths : List String) (here : run.stage = .opening (path :: paths))
  | recording (here : run.stage = .recording)
  | fifos (path : String) (paths : List String) (here : run.stage = .fifos (path :: paths))

/-- What one step of `run` itself can do. -/
inductive MainStep (run : CaptureRun) : CaptureRun → Prop
  | goes (stage : RunStage) (goes : run.Goes stage) : MainStep run { run with stage }
  | opens (fd : Nat) (path : String) (paths : List String)
      (here : run.stage = .opening (path :: paths)) :
      MainStep run
        { run with descriptors := run.descriptors ++ [fd], stage := .opening paths }
  | opensFifo (fd : Nat) (path : String) (paths : List String)
      (here : run.stage = .fifos (path :: paths)) :
      MainStep run { run with descriptors := run.descriptors ++ [fd], stage := .fifos paths }
  | abandons (thrown : Thrown) (leaves : run.Leaves) : MainStep run (run.abandon thrown)
  | records (files : List RecordingFile) (writerBusy threads : Bool)
      (recording : Recording fileSink) (here : run.stage = .recording)
      (outputs : run.outputs = some files)
      (created : openRecording files writerBusy threads = .ok recording) :
      MainStep run { run with recording := some recording, stage := .fifos run.fifoPaths }
  | launches (body : CaptureThread) (left : List CaptureThread)
      (here : run.stage = .launching (body :: left)) :
      MainStep run
        { run with
          threads := run.threads ++ [{ body }]
          joinable := run.joinable ++ [body]
          stage := .launching left }
  | misses (body : CaptureThread) (left : List CaptureThread)
      (here : run.stage = .launching (body :: left)) :
      MainStep run { run with outcome := some (.runtimeError "thread"), stage := .destroying }
  | stalls (start : Int) (here : run.stage = .missing start ∨ run.stage = .aging start) :
      MainStep run { run with imuStalled := true, stop := true, stage := .stopping }
  | halts (here : run.stage = .stopping) : MainStep run { run with stop := true, stage := .joining }
  | destroys (here : run.stage = .destroying) :
      MainStep run { run with stop := true, stage := .rejoining }
  | joins (body : CaptureThread) (left : List CaptureThread)
      (here : run.stage = .joining ∨ run.stage = .rejoining) (queue : run.joinable = body :: left)
      (ended : ∃ thread ∈ run.threads, thread.body = body ∧ thread.stage = .ended) :
      MainStep run { run with joinable := left }
  | closes (recording next : Recording fileSink) (here : run.stage = .closing false)
      (found : run.recording = some recording) (closes : recording.close = some next) :
      MainStep run { run with recording := some next, stage := .closing true }
  | discards (recording next : Recording fileSink) (here : run.stage = .discarding false)
      (found : run.recording = some recording) (closes : recording.close = some next) :
      MainStep run { run with recording := some next, stage := .discarding true }
  | concludes (here : run.stage = .concluding) :
      MainStep run
        { run with
          outcome :=
            match run.error with
            | some thrown => some thrown
            | none =>
                if run.imuStalled then some (.runtimeError "IMU samples stopped advancing") else none
          stage := .destroying }
  | releases (fd : Nat) (fds : List Nat) (here : run.stage = .releasing (fd :: fds)) :
      MainStep run { run with released := run.released ++ [fd], stage := .releasing fds }

variable {run next : CaptureRun}

/-- An opened file is one of the listed steps. -/
theorem openFile_main {result : Except String Nat} (moved : run.openFile result = some next) :
    run.MainStep next := by
  unfold openFile at moved
  split at moved
  · rename_i path paths reason here
    cases moved
    exact .abandons _ (.opening path paths here)
  · rename_i path paths reason here
    cases moved
    exact .abandons _ (.fifos path paths here)
  · rename_i path paths fd here
    cases moved
    exact .opens fd path paths here
  · rename_i path paths fd here
    cases moved
    exact .opensFifo fd path paths here
  · cases moved

/-- The construction of the recording is one of the listed steps. -/
theorem record_main {writerBusy threads : Bool} (moved : run.record writerBusy threads = some next) :
    run.MainStep next := by
  unfold record at moved
  split at moved
  · rename_i files here outputs
    cases created : openRecording files writerBusy threads with
    | error thrown =>
        rw [created] at moved
        cases moved
        exact .abandons _ (.recording here)
    | ok recording =>
        rw [created] at moved
        cases moved
        exact .records files writerBusy threads recording here outputs created
  · cases moved

/-- A launch is one of the listed steps. -/
theorem launch_main {started : Bool} (moved : run.launch started = some next) :
    run.MainStep next := by
  unfold launch at moved
  split at moved
  · rename_i body left here
    split at moved <;> cases moved
    · exact .launches body left here
    · exact .misses body left here
  · cases moved

/-- A look at the clock is one of the listed steps. -/
theorem clock_main {now : Int} (moved : run.clock now = some next) : run.MainStep next := by
  unfold clock at moved
  split at moved
  · rename_i here
    cases moved
    exact .goes _ (.started now here)
  · rename_i start here
    cases moved
    refine .goes _ ?_
    split
    · exact .late start here
    · exact .early start here
  · rename_i start here
    split at moved <;> cases moved
    · exact .stalls start (.inr here)
    · exact .goes _ (.fresh start here)
  · cases moved

/-- A join is one of the listed steps, in both places where `run` joins. -/
theorem join_main {after : RunStage} (here : run.stage = .joining ∨ run.stage = .rejoining)
    (goes : run.joinable = [] → run.Goes after) (moved : run.join after = some next) :
    run.MainStep next := by
  unfold join at moved
  split at moved
  · rename_i all
    cases moved
    exact .goes _ (goes all)
  · rename_i body left queue
    split at moved <;> cases moved
    rename_i ended
    exact .joins body left here queue ended

/-- A call of `close` and its end are listed steps, in both places where `run` closes. -/
theorem close_main {called : Bool} {waiting after : RunStage}
    (goes : (∀ recording ∈ run.recording, called = true ∧ recording.owner = .idle) → run.Goes after)
    (calls : ∀ recording closing, called = false → run.recording = some recording →
      recording.close = some closing →
      run.MainStep { run with recording := some closing, stage := waiting })
    (moved : run.close called waiting after = some next) : run.MainStep next := by
  unfold close at moved
  split at moved
  · rename_i none
    cases moved
    refine .goes _ (goes fun recording member => ?_)
    rw [none] at member
    cases member
  · rename_i recording found
    split at moved
    · rename_i called
      split at moved <;> cases moved
      rename_i idle
      refine .goes _ (goes fun other member => ?_)
      obtain rfl := Option.some.inj (found.symm.trans member)
      exact ⟨called, idle⟩
    · rename_i uncalled
      obtain ⟨closing, closes, rfl⟩ := Option.map_eq_some_iff.mp moved
      exact calls recording closing (eq_false_of_ne_true uncalled) found closes

/-- The other accesses of `run` are listed steps. -/
theorem proceed_main (moved : run.proceed = some next) : run.MainStep next := by
  unfold proceed at moved
  split at moved <;> rename_i here
  · cases moved
    exact .goes _ (.opened here)
  · split at moved <;> cases moved
    rename_i none
    exact .goes _ (.unrecorded here (Option.isNone_iff_eq_none.mp none))
  · cases moved
    exact .goes _ (.ready here)
  · cases moved
    exact .goes _ (.launched here)
  · rename_i start
    cases moved
    refine .goes _ ?_
    split
    · exact .stops start here ‹_›
    · exact .sleeps start here (eq_false_of_ne_true ‹_›)
  · rename_i start
    cases moved
    refine .goes _ ?_
    split
    · exact .finished start here ‹_›
    · exact .looks start here
  · rename_i start
    split at moved <;> cases moved
    · exact .stalls start (.inl here)
    · exact .goes _ (.seen start here)
  · cases moved
    exact .halts here
  · exact join_main (.inl here) (.joined here) moved
  · rename_i called
    refine close_main (.closed called here) (fun recording closing uncalled found closes => ?_) moved
    rw [uncalled] at here
    exact .closes recording closing here found closes
  · cases moved
    exact .concludes here
  · cases moved
    exact .destroys here
  · exact join_main (.inr here) (.rejoined here) moved
  · rename_i called
    refine close_main (.discarded called here) (fun recording closing uncalled found closes => ?_) moved
    rw [uncalled] at here
    exact .discards recording closing here found closes
  · rename_i fd fds
    cases moved
    exact .releases fd fds here
  · cases moved
    exact .goes _ (.left here)
  all_goals cases moved

end CaptureRun
end Vio
