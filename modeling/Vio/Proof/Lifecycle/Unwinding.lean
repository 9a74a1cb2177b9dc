import Mathlib.Data.List.Nodup
import Vio.Library.PartialRun
import Vio.Proof.Lifecycle.RecordingCalls
import Vio.Proof.Lifecycle.RunSteps
import Vio.Proof.Recording.CompleteRecording

namespace Vio

/-- The threads are joined. -/
def RunStage.Joined : RunStage → Prop
  | .closing _ | .concluding | .discarding _ | .releasing _ | .left => True
  | _ => False

namespace CaptureRun

abbrev bodies (run : CaptureRun) : List CaptureThread := run.threads.map WorkerThread.body

/-- How far the launches have come. -/
def Launched (run : CaptureRun) : Prop :=
  match run.stage with
  | .opening _ | .recording | .fifos _ => run.threads = []
  | .launching left => run.bodies ++ left = run.plan
  | .destroying | .rejoining | .discarding _ | .releasing _ | .left => run.bodies <+: run.plan
  | _ => run.bodies = run.plan

/-- The threads, and which of them are joined. -/
structure Threads (run : CaptureRun) : Prop where
  distinct : run.plan.Nodup
  launched : run.Launched
  joined : ∃ joined, run.bodies = joined ++ run.joinable ∧
    ∀ thread ∈ run.threads, thread.body ∈ joined → thread.stage = .ended
  after : run.stage.Joined → run.joinable = []

variable {run next : CaptureRun}

/-- Where nothing is left to join, every thread has ended. -/
theorem Threads.ended (threads : run.Threads) (all : run.joinable = []) :
    ∀ thread ∈ run.threads, thread.stage = .ended := by
  obtain ⟨joined, split, ended⟩ := threads.joined
  rw [all, List.append_nil] at split
  intro thread member
  exact ended thread member (split ▸ List.mem_map_of_mem member)

/-- The threads are the first ones of the plan. -/
theorem Threads.begins (threads : run.Threads) : run.bodies <+: run.plan := by
  have launched := threads.launched
  unfold Launched at launched
  split at launched
  · rw [bodies, launched]
    exact List.nil_prefix
  · rw [bodies, launched]
    exact List.nil_prefix
  · rw [bodies, launched]
    exact List.nil_prefix
  · exact ⟨_, launched⟩
  all_goals first
    | exact launched
    | exact launched ▸ List.prefix_rfl

theorem Threads.nodup (threads : run.Threads) : run.bodies.Nodup :=
  threads.distinct.sublist threads.begins.sublist

/-- A step that leaves the threads alone. -/
theorem Threads.keep (threads : run.Threads) (plan : next.plan = run.plan)
    (same : next.threads = run.threads) (joinable : next.joinable = run.joinable)
    (launched : next.Launched) (after : next.stage.Joined → run.joinable = []) : next.Threads := by
  refine ⟨?_, launched, ?_, ?_⟩
  · rw [plan]
    exact threads.distinct
  · rw [bodies, same, joinable]
    exact threads.joined
  · rw [joinable]
    exact after

/-- A change of the stage leaves the threads. -/
theorem Threads.goes (threads : run.Threads) {stage : RunStage} (goes : run.Goes stage) :
    ({ run with stage } : CaptureRun).Threads := by
  have launched := threads.launched
  have after := threads.after
  unfold Launched at launched
  cases goes with
  | joined here all | rejoined here all =>
      rw [here] at launched
      refine threads.keep rfl rfl rfl ?_ fun _ => all
      exact launched
  | closed called here | discarded called here | left here =>
      rw [here] at launched after
      exact threads.keep rfl rfl rfl launched fun _ => after trivial
  | ready here =>
      rw [here] at launched
      refine threads.keep rfl rfl rfl ?_ nofun
      change run.threads.map WorkerThread.body ++ run.plan = run.plan
      rw [launched]
      rfl
  | launched here =>
      rw [here] at launched
      have all : run.bodies ++ [] = run.plan := launched
      rw [List.append_nil] at all
      exact threads.keep rfl rfl rfl all nofun
  | opened here | unrecorded here =>
      rw [here] at launched
      exact threads.keep rfl rfl rfl launched nofun
  | started start here | stops start here | sleeps start here | finished start here | looks start here
  | early start here | late start here | seen start here | fresh start here =>
      rw [here] at launched
      exact threads.keep rfl rfl rfl launched nofun

/-- A step of `run` launches the next thread of the plan or joins the next one. -/
theorem Threads.main (threads : run.Threads) (step : run.MainStep next) : next.Threads := by
  have launched := threads.launched
  have after := threads.after
  have begins := threads.begins
  unfold Launched at launched
  cases step with
  | goes stage goes => exact threads.goes goes
  | opens fd path paths here | opensFifo fd path paths here =>
      rw [here] at launched
      exact threads.keep rfl rfl rfl launched nofun
  | abandons thrown leaves =>
      have none : run.joinable = [] := by
        obtain ⟨joined, split, _⟩ := threads.joined
        have empty : run.threads = [] := by
          cases leaves with
          | opening path paths here | recording here | fifos path paths here =>
              rw [here] at launched
              exact launched
        rw [bodies, empty] at split
        exact (List.append_eq_nil_iff.mp split.symm).2
      refine threads.keep rfl rfl rfl ?_ fun _ => none
      unfold Launched abandon
      dsimp only
      by_cases recorded : run.recording.isSome
      · rw [if_pos recorded]
        exact begins
      · rw [if_neg recorded]
        exact begins
  | records files writerBusy slots recording here =>
      rw [here] at launched
      exact threads.keep rfl rfl rfl launched nofun
  | launches body left here =>
      rw [here] at launched
      obtain ⟨joined, split, ended⟩ := threads.joined
      have fresh : body ∉ run.bodies := by
        have distinct := threads.distinct
        rw [← launched] at distinct
        exact fun member =>
          (List.nodup_append.mp distinct).2.2 _ member _ List.mem_cons_self rfl
      refine ⟨threads.distinct, ?_, ⟨joined, ?_, ?_⟩, nofun⟩
      · change (run.threads ++ [_]).map WorkerThread.body ++ left = run.plan
        rw [List.map_append, List.append_assoc]
        exact launched
      · change (run.threads ++ [_]).map WorkerThread.body = joined ++ (run.joinable ++ [body])
        rw [List.map_append, ← List.append_assoc, ← split]
        rfl
      · intro thread member inside
        rcases List.mem_append.mp member with member | member
        · exact ended thread member inside
        · rw [List.mem_singleton.mp member] at inside
          exact absurd (split ▸ List.mem_append_left _ inside) fresh
  | misses body left here => exact threads.keep rfl rfl rfl begins nofun
  | stalls start here =>
      have all : run.bodies = run.plan := by
        rcases here with here | here <;> rw [here] at launched <;> exact launched
      exact threads.keep rfl rfl rfl all nofun
  | halts here =>
      rw [here] at launched
      exact threads.keep rfl rfl rfl launched nofun
  | destroys here => exact threads.keep rfl rfl rfl begins nofun
  | joins body left here queue ended =>
      obtain ⟨joined, split, done⟩ := threads.joined
      rw [queue] at split
      refine ⟨threads.distinct, threads.launched, ⟨joined ++ [body], ?_, ?_⟩, ?_⟩
      · rw [List.append_assoc]
        exact split
      · intro thread member inside
        rcases List.mem_append.mp inside with inside | same
        · exact done thread member inside
        · obtain ⟨other, there, name, stage⟩ := ended
          have same : thread = other := by
            refine List.inj_on_of_nodup_map threads.nodup member there ?_
            rw [name, List.mem_singleton.mp same]
          rw [same]
          exact stage
      · intro joins
        change run.stage.Joined at joins
        rcases here with here | here <;> rw [here] at joins <;> cases joins
  | closes recording closing here | discards recording closing here =>
      rw [here] at launched after
      exact threads.keep rfl rfl rfl launched fun _ => after trivial
  | concludes here => exact threads.keep rfl rfl rfl begins nofun
  | releases fd fds here =>
      rw [here] at launched after
      exact threads.keep rfl rfl rfl launched fun _ => after trivial

section Moves
variable {body : CaptureThread} {stage : ThreadStage}

/-- A thread that moves keeps its place. -/
theorem move_bodies (run : CaptureRun) (body : CaptureThread) (stage : ThreadStage) :
    (run.move body stage).bodies = run.bodies := by
  change (run.threads.map _).map WorkerThread.body = _
  rw [List.map_map]
  refine List.map_congr_left fun thread _ => ?_
  rw [Function.comp_apply]
  split <;> rfl

/-- A thread that moves leaves the others. -/
theorem mem_move {thread : WorkerThread} (member : thread ∈ (run.move body stage).threads) :
    thread.body = body ∧ thread.stage = stage ∨ thread.body ≠ body ∧ thread ∈ run.threads := by
  obtain ⟨before, inside, rfl⟩ := List.mem_map.mp member
  by_cases same : before.body = body
  · rw [if_pos same]
    exact .inl ⟨same, rfl⟩
  · rw [if_neg same]
    exact .inr ⟨same, inside⟩

theorem move_other {thread : WorkerThread} (member : thread ∈ run.threads) (other : thread.body ≠ body) :
    thread ∈ (run.move body stage).threads :=
  List.mem_map.mpr ⟨thread, member, by rw [if_neg other]⟩

theorem mem_moved {thread : WorkerThread} (member : thread ∈ run.threads) (same : thread.body = body) :
    ⟨body, stage⟩ ∈ (run.move body stage).threads := by
  refine List.mem_map.mpr ⟨thread, member, ?_⟩
  rw [if_pos same, same]

/-- Only a thread that is not joined moves. -/
theorem Threads.move (threads : run.Threads) (alive : ∃ thread ∈ run.threads, thread.body = body ∧
    thread.stage ≠ .ended) : (run.move body stage).Threads := by
  obtain ⟨joined, split, ended⟩ := threads.joined
  have same := move_bodies run body stage
  refine ⟨threads.distinct, ?_, ⟨joined, ?_, ?_⟩, threads.after⟩
  · have launched := threads.launched
    unfold Launched at launched ⊢
    rw [same]
    change match run.stage with
      | .opening _ | .recording | .fifos _ => (run.move body stage).threads = []
      | .launching left => run.bodies ++ left = run.plan
      | .destroying | .rejoining | .discarding _ | .releasing _ | .left => run.bodies <+: run.plan
      | _ => run.bodies = run.plan
    split at launched
    · exact List.map_eq_nil_iff.mpr launched
    · exact List.map_eq_nil_iff.mpr launched
    · exact List.map_eq_nil_iff.mpr launched
    all_goals exact launched
  · rw [same]
    exact split
  · intro thread member inside
    rcases mem_move member with ⟨here, _⟩ | ⟨_, before⟩
    · obtain ⟨moving, there, name, open'⟩ := alive
      exact absurd (ended moving there (by rw [name, ← here]; exact inside)) open'
    · exact ended thread before inside

/-- The threads do not depend on the other fields. -/
theorem Threads.transfer (threads : run.Threads) (plan : next.plan = run.plan)
    (stage : next.stage = run.stage) (same : next.threads = run.threads)
    (joinable : next.joinable = run.joinable) : next.Threads := by
  refine threads.keep plan same joinable ?_ (stage ▸ threads.after)
  have launched := threads.launched
  unfold Launched at launched ⊢
  rw [stage, bodies, same, plan]
  exact launched

end Moves

/-- Each action moves one thread at most. -/
theorem Threads.step (threads : run.Threads) {action : RunAction} (moved : run.step action = some next) :
    next.Threads := by
  have stands {body : CaptureThread} {stage : ThreadStage} (here : run.stands body stage)
      (other : stage ≠ .ended) : ∃ thread ∈ run.threads, thread.body = body ∧ thread.stage ≠ .ended :=
    ⟨_, here, rfl, other⟩
  cases action with
  | openFile result => exact threads.main (openFile_main moved)
  | record writerBusy slots => exact threads.main (record_main moved)
  | launch started => exact threads.main (launch_main moved)
  | clock now => exact threads.main (clock_main moved)
  | proceed => exact threads.main (proceed_main moved)
  | recorder action =>
      simp only [CaptureRun.step] at moved
      split at moved
      · cases moved
      · split at moved
        · obtain ⟨recording, _, rfl⟩ := Option.map_eq_some_iff.mp moved
          exact threads.transfer rfl rfl rfl rfl
        · cases moved
  | fedImu time | framesDone =>
      obtain ⟨_, ⟨⟩⟩ := Option.ite_none_right_eq_some.mp moved
      exact threads.transfer rfl rfl rfl rfl
  | returns body =>
      obtain ⟨⟨here, _⟩, ⟨⟩⟩ := Option.ite_none_right_eq_some.mp moved
      exact threads.move (stands here nofun)
  | throws body thrown =>
      obtain ⟨⟨here, _⟩, ⟨⟩⟩ := Option.ite_none_right_eq_some.mp moved
      exact threads.move (stands here nofun)
  | store body =>
      simp only [CaptureRun.step] at moved
      split at moved
      · rename_i found
        cases moved
        have same := List.find?_some found
        have alive : ∃ thread ∈ run.threads, thread.body = body ∧ thread.stage ≠ .ended :=
          ⟨_, List.mem_of_find?_eq_some found, of_decide_eq_true same, nofun⟩
        exact (threads.move alive).transfer rfl rfl rfl rfl
      · cases moved
  | raise body =>
      obtain ⟨here, ⟨⟩⟩ := Option.ite_none_right_eq_some.mp moved
      exact (threads.move (stands here nofun)).transfer rfl rfl rfl rfl
  | requestStop =>
      cases moved
      exact threads.transfer rfl rfl rfl rfl

end CaptureRun
end Vio
