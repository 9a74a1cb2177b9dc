import Vio.Proof.Lifecycle.RunRecording

namespace Vio
namespace CaptureRun

/-- What `run` throws where its threads were all launched. -/
def verdict (run : CaptureRun) : Option Thrown :=
  match run.error with
  | some thrown => some thrown
  | none => if run.imuStalled then some (.runtimeError "IMU samples stopped advancing") else none

/-- Why the flag is set. -/
def Cause (begun : Bool) (actions : List RunAction) (run : CaptureRun) : Prop :=
  begun = true ∨ .requestStop ∈ actions ∨ run.stored ≠ [] ∨ run.imuStalled = true ∨
    run.framesDone = true ∨ run.outcome ≠ none

/-- Where the flag is set for sure. -/
def Stopped (run : CaptureRun) : Prop :=
  match run.stage with
  | .joining | .closing _ | .concluding | .rejoining => run.stop = true
  | .destroying => run.stop = true ∨ run.outcome ≠ none
  | .discarding _ | .releasing _ | .left => run.threads ≠ [] → run.stop = true
  | _ => True

/-- The exception in flight. -/
def Judged (run : CaptureRun) : Prop :=
  match run.stage with
  | .destroying | .rejoining | .discarding _ | .releasing _ | .left =>
      run.outcome = run.verdict ∧ run.joinable = [] ∧ run.bodies = run.plan ∨
        run.outcome ≠ none ∧ run.threads.length < run.plan.length
  | _ => run.outcome = none

/-- How a run with these actions came to its flag, its errors and its outcome. -/
structure Caused (begun : Bool) (actions : List RunAction) (run : CaptureRun) : Prop where
  planned : run.plan ≠ []
  first : run.error = run.stored.head?
  thrown : ∀ body thrown, .throws body thrown ∈ actions →
    thrown ∈ run.stored ∨ ∃ thread ∈ run.threads, thread.stage = .catching thrown
  raising : ∀ thread ∈ run.threads, thread.stage = .raising → run.stored ≠ []
  done : run.framesDone = true → .framesDone ∈ actions
  flag : run.stop = true ∨ run.stage = .stopping → run.Cause begun actions
  stopped : run.Stopped
  judged : run.Judged

variable {run next : CaptureRun} {begun : Bool} {actions : List RunAction}

/-- The actions grow by one that throws nothing. -/
theorem Caused.more (caused : run.Caused begun actions) {action : RunAction}
    (other : ∀ body thrown, action ≠ .throws body thrown) : run.Caused begun (actions ++ [action]) := by
  refine ⟨caused.planned, caused.first, fun body thrown member => ?_, caused.raising, fun done => ?_,
    fun flag => ?_, caused.stopped, caused.judged⟩
  · rcases List.mem_append.mp member with member | member
    · exact caused.thrown body thrown member
    · exact absurd (List.mem_singleton.mp member).symm (other body thrown)
  · exact List.mem_append_left _ (caused.done done)
  · exact (caused.flag flag).imp_right (Or.imp_left (List.mem_append_left _))

/-- A step that changes neither the errors nor the threads nor the outcome. -/
theorem Caused.keep (caused : run.Caused begun actions) (plan : next.plan = run.plan)
    (error : next.error = run.error) (stored : next.stored = run.stored) (threads : next.threads = run.threads)
    (done : next.framesDone = run.framesDone) (stalled : next.imuStalled = run.imuStalled)
    (outcome : next.outcome = run.outcome)
    (flag : next.stop = true ∨ next.stage = .stopping → run.Cause begun actions)
    (stopped : next.Stopped) (judged : next.Judged) : next.Caused begun actions := by
  refine ⟨?_, ?_, ?_, ?_, ?_, fun set => ?_, stopped, judged⟩
  · rw [plan]
    exact caused.planned
  · rw [error, stored]
    exact caused.first
  · rw [stored, threads]
    exact caused.thrown
  · rw [stored, threads]
    exact caused.raising
  · rw [done]
    exact caused.done
  · unfold Cause
    rw [stored, stalled, done, outcome]
    exact flag set

/-- A change of the stage keeps the causes. -/
theorem Caused.goes (caused : run.Caused begun actions) {stage : RunStage} (goes : run.Goes stage) :
    ({ run with stage } : CaptureRun).Caused begun actions := by
  have flag (set : run.stop = true) : run.Cause begun actions := caused.flag (.inl set)
  have stopped := caused.stopped
  have judged := caused.judged
  unfold Stopped at stopped
  unfold Judged at judged
  refine caused.keep rfl rfl rfl rfl rfl rfl rfl (fun set => ?_) ?_ ?_
  · rcases set with set | set
    · exact flag set
    · change stage = .stopping at set
      cases goes with
      | stops start here stop => exact flag stop
      | finished start here done => exact .inr (.inr (.inr (.inr (.inl done))))
      | joined | opened | unrecorded | ready | launched | started | sleeps | looks | early | late
      | seen | fresh | closed | rejoined | discarded | left => cases set
  · cases goes with
    | rejoined here =>
        rw [here] at stopped
        exact fun _ => stopped
    | joined here | closed called here | discarded called here | left here =>
        rw [here] at stopped
        exact stopped
    | opened | unrecorded | ready | launched | started | stops | sleeps | finished | looks | early
    | late | seen | fresh => trivial
  · cases goes with
    | joined here | closed called here | rejoined here | discarded called here | left here
    | opened here | unrecorded here | ready here | launched here | started start here
    | stops start here | sleeps start here | finished start here | looks start here | early start here
    | late start here | seen start here | fresh start here =>
        rw [here] at judged
        exact judged

/-- A step of `run` gives the exception in flight. -/
theorem Caused.ends (caused : run.Caused begun actions) (none : run.outcome = none)
    {outcome : Option Thrown} {stage : RunStage}
    (flag : stage = .stopping → run.Cause begun actions)
    (stopped : ({ run with outcome, stage } : CaptureRun).Stopped)
    (judged : ({ run with outcome, stage } : CaptureRun).Judged) :
    ({ run with outcome, stage } : CaptureRun).Caused begun actions := by
  refine ⟨caused.planned, caused.first, caused.thrown, caused.raising, caused.done, fun set => ?_,
    stopped, judged⟩
  have cause : run.Cause begun actions := by
    rcases set with set | set
    · exact caused.flag (.inl set)
    · exact flag set
  rcases cause with cause | cause | cause | cause | cause | cause
  · exact .inl cause
  · exact .inr (.inl cause)
  · exact .inr (.inr (.inl cause))
  · exact .inr (.inr (.inr (.inl cause)))
  · exact .inr (.inr (.inr (.inr (.inl cause))))
  · exact absurd none cause

/-- The flag is set, and the stage moves on. -/
theorem Caused.sets (caused : run.Caused begun actions) (cause : run.Cause begun actions)
    {stage : RunStage} (stopped : ({ run with stop := true, stage } : CaptureRun).Stopped)
    (judged : ({ run with stop := true, stage } : CaptureRun).Judged) :
    ({ run with stop := true, stage } : CaptureRun).Caused begun actions :=
  caused.keep rfl rfl rfl rfl rfl rfl rfl (fun _ => cause) stopped judged

/-- A step of `run` sets the flag and the outcome for one of the causes. -/
theorem Caused.main (caused : run.Caused begun actions) (threads : run.Threads)
    (step : run.MainStep next) : next.Caused begun actions := by
  have stopped := caused.stopped
  have judged := caused.judged
  have launched := threads.launched
  unfold Stopped at stopped
  unfold Judged at judged
  unfold Launched at launched
  have flag (set : run.stop = true) : run.Cause begun actions := caused.flag (.inl set)
  -- A stage other than `stopping` adds no flag.
  have moved {stage : RunStage} (other : stage ≠ .stopping)
      (set : run.stop = true ∨ stage = .stopping) : run.Cause begun actions :=
    flag (set.resolve_right other)
  cases step with
  | goes stage goes => exact caused.goes goes
  | opens fd path paths here | opensFifo fd path paths here | records files writerBusy slots other here =>
      rw [here] at judged
      exact caused.keep rfl rfl rfl rfl rfl rfl rfl (moved nofun) trivial judged
  | abandons thrown leaves =>
      obtain ⟨none, empty⟩ : run.outcome = none ∧ run.threads = [] := by
        cases leaves with
        | opening path paths here | recording here | fifos path paths here =>
            rw [here] at judged launched
            exact ⟨judged, launched⟩
      have short : run.threads.length < run.plan.length := by
        rw [empty]
        exact List.length_pos_iff.mpr caused.planned
      have shape (stage : RunStage) (late : (∃ called, stage = .discarding called) ∨
          ∃ left, stage = .releasing left) :
          ({ run with outcome := some thrown, stage } : CaptureRun).Caused begun actions := by
        rcases late with ⟨called, rfl⟩ | ⟨left, rfl⟩
        · exact caused.ends none nofun (fun some => absurd empty some)
            (.inr ⟨Option.some_ne_none _, short⟩)
        · exact caused.ends none nofun (fun some => absurd empty some)
            (.inr ⟨Option.some_ne_none _, short⟩)
      unfold abandon
      by_cases recorded : run.recording.isSome
      · rw [if_pos recorded]
        exact shape _ (.inl ⟨_, rfl⟩)
      · rw [if_neg recorded]
        exact shape _ (.inr ⟨_, rfl⟩)
  | launches body left here =>
      rw [here] at judged
      refine ⟨caused.planned, caused.first, fun body thrown member => ?_, fun thread member => ?_,
        caused.done, moved nofun, trivial, judged⟩
      · exact (caused.thrown body thrown member).imp_right fun ⟨thread, inside, catching⟩ =>
          ⟨thread, List.mem_append_left _ inside, catching⟩
      · rcases List.mem_append.mp member with inside | inside
        · exact caused.raising thread inside
        · rw [List.mem_singleton.mp inside]
          exact nofun
  | misses body left here =>
      rw [here] at judged launched
      have short : run.threads.length < run.plan.length := by
        rw [← launched, List.length_append, List.length_map, List.length_cons]
        omega
      exact caused.ends judged nofun (.inr (Option.some_ne_none _))
        (.inr ⟨Option.some_ne_none _, short⟩)
  | stalls start here =>
      have none : run.outcome = none := by
        rcases here with here | here <;> rw [here] at judged <;> exact judged
      exact ⟨caused.planned, caused.first, caused.thrown, caused.raising, caused.done,
        fun _ => .inr (.inr (.inr (.inl rfl))), trivial, none⟩
  | halts here =>
      rw [here] at judged
      exact caused.sets (caused.flag (.inr here)) rfl judged
  | destroys here =>
      rw [here] at stopped judged
      have cause : run.Cause begun actions := by
        rcases stopped with set | some
        · exact flag set
        · exact .inr (.inr (.inr (.inr (.inr some))))
      exact caused.sets cause rfl judged
  | joins body left here queue ended =>
      refine caused.keep rfl rfl rfl rfl rfl rfl rfl caused.flag caused.stopped ?_
      rcases here with here | here
      · rw [here] at judged
        unfold Judged
        rw [here]
        exact judged
      · rw [here] at judged
        unfold Judged
        rw [here]
        rcases judged with ⟨_, all, _⟩ | short
        · rw [queue] at all
          cases all
        · exact .inr short
  | closes before closing here | discards before closing here =>
      rw [here] at stopped judged
      exact caused.keep rfl rfl rfl rfl rfl rfl rfl (moved nofun) stopped judged
  | concludes here =>
      have joined := threads.after (by rw [here]; trivial)
      rw [here] at stopped judged launched
      exact caused.ends judged nofun (.inl stopped) (.inl ⟨rfl, joined, launched⟩)
  | releases fd fds here =>
      rw [here] at stopped judged
      exact caused.keep rfl rfl rfl rfl rfl rfl rfl (moved nofun) stopped judged

section Moves
variable {body : CaptureThread} {before stage : ThreadStage}

/-- While a thread has not ended, no verdict was given. -/
theorem Judged.move (judged : run.Judged) (threads : run.Threads) (here : run.stands body before)
    (alive : before ≠ .ended) (same : next.stage = run.stage) (outcome : next.outcome = run.outcome)
    (plan : next.plan = run.plan) (length : next.threads.length = run.threads.length) :
    next.Judged := by
  have waiting : run.joinable ≠ [] := fun all => alive (threads.ended all _ here)
  unfold Judged at judged ⊢
  rw [same, outcome, plan, length]
  split at judged
  all_goals first
    | exact judged
    | exact .inr (judged.resolve_left fun verdict => waiting verdict.2.1)

/-- What is known of the flag stays known where the flag stays set. -/
theorem Stopped.move (stopped : run.Stopped) (same : next.stage = run.stage)
    (stop : run.stop = true → next.stop = true) (outcome : next.outcome = run.outcome)
    (length : next.threads.length = run.threads.length) : next.Stopped := by
  have some (threads : next.threads ≠ []) : run.threads ≠ [] := by
    rw [← List.length_pos_iff, ← length]
    exact List.length_pos_iff.mpr threads
  unfold Stopped at stopped ⊢
  rw [same, outcome]
  split at stopped
  all_goals first
    | exact stop stopped
    | exact stopped.imp_left stop
    | exact fun threads => stop (stopped (some threads))
    | trivial

/-- The threads after a move: the one that moved, or another one as before. -/
theorem stage_of_move {thread : WorkerThread} (member : thread ∈ (run.move body stage).threads) :
    thread = ⟨body, stage⟩ ∨ thread ∈ run.threads := by
  rcases mem_move member with ⟨name, here⟩ | ⟨_, inside⟩
  · left
    rw [← name, ← here]
  · exact .inr inside

theorem move_length (run : CaptureRun) (body : CaptureThread) (stage : ThreadStage) :
    (run.move body stage).threads.length = run.threads.length := List.length_map _

/-- A catching thread stays where another one moves. -/
theorem catching_move (threads : run.Threads) (here : run.stands body before) {thrown : Thrown}
    (other : before ≠ .catching thrown)
    (catches : ∃ thread ∈ run.threads, thread.stage = .catching thrown) :
    ∃ thread ∈ (run.move body stage).threads, thread.stage = .catching thrown := by
  obtain ⟨⟨name, _⟩, member, rfl⟩ := catches
  refine ⟨_, move_other member fun same => ?_, rfl⟩
  obtain rfl : name = body := same
  exact other (threads.unique here member)

/-- A body that returns adds no cause. -/
theorem Caused.returns (caused : run.Caused begun actions) (threads : run.Threads)
    (here : run.stands body .running) : (run.move body .ended).Caused begun actions := by
  refine ⟨caused.planned, caused.first, fun name thrown member => ?_, fun thread member raises => ?_,
    caused.done, caused.flag, Stopped.move caused.stopped rfl id rfl (move_length _ _ _),
    caused.judged.move threads here nofun rfl rfl rfl (move_length _ _ _)⟩
  · exact (caused.thrown name thrown member).imp_right (catching_move threads here nofun)
  · rcases stage_of_move member with rfl | inside
    · cases raises
    · exact caused.raising thread inside raises

/-- A body that throws adds its exception as a cause. -/
theorem Caused.throws (caused : run.Caused begun actions) (threads : run.Threads)
    (here : run.stands body .running) (thrown : Thrown) :
    (run.move body (.catching thrown)).Caused begun (actions ++ [.throws body thrown]) := by
  refine ⟨caused.planned, caused.first, fun name other member => ?_, fun thread member raises => ?_,
    fun done => ?_, fun set => ?_, Stopped.move caused.stopped rfl id rfl (move_length _ _ _),
    caused.judged.move threads here nofun rfl rfl rfl (move_length _ _ _)⟩
  · rcases List.mem_append.mp member with member | member
    · exact (caused.thrown name other member).imp_right (catching_move threads here nofun)
    · obtain ⟨rfl, rfl⟩ := RunAction.throws.inj (List.mem_singleton.mp member)
      exact .inr ⟨_, mem_moved here rfl, rfl⟩
  · rcases stage_of_move member with rfl | inside
    · cases raises
    · exact caused.raising thread inside raises
  · exact List.mem_append_left _ (caused.done done)
  · exact (caused.flag set).imp_right (Or.imp_left (List.mem_append_left _))

/-- The first stored exception is that of a body that threw. -/
theorem Caused.store (caused : run.Caused begun actions) (threads : run.Threads) {thrown : Thrown}
    (here : run.stands body (.catching thrown)) :
    ({ run.move body .raising with
        error := run.error.or (some thrown)
        stored := run.stored ++ [thrown] } : CaptureRun).Caused begun actions := by
  have stored : run.stored ++ [thrown] ≠ [] := List.append_ne_nil_of_right_ne_nil _ (List.cons_ne_nil _ _)
  refine ⟨caused.planned, ?_, fun name other member => ?_, fun _ _ _ => stored, caused.done,
    fun set => ?_, Stopped.move caused.stopped rfl id rfl (move_length _ _ _),
    caused.judged.move threads here nofun rfl rfl rfl (move_length _ _ _)⟩
  · change run.error.or (some thrown) = (run.stored ++ [thrown]).head?
    rw [caused.first, List.head?_append]
    rfl
  · rcases caused.thrown name other member with earlier | catches
    · exact .inl (List.mem_append_left _ earlier)
    · by_cases same : thrown = other
      · rw [same]
        exact .inl (List.mem_append_right _ (List.mem_singleton_self _))
      · have stays := @catching_move run body _ .raising threads here other
          (fun equal => same (ThreadStage.catching.inj equal)) catches
        exact .inr stays
  · rcases caused.flag set with cause | cause | _ | cause
    · exact .inl cause
    · exact .inr (.inl cause)
    · exact .inr (.inr (.inl stored))
    · exact .inr (.inr (.inr cause))

/-- A handler sets the flag because its body threw. -/
theorem Caused.raise (caused : run.Caused begun actions) (threads : run.Threads)
    (here : run.stands body .raising) :
    ({ run.move body .ended with stop := true } : CaptureRun).Caused begun actions := by
  refine ⟨caused.planned, caused.first, fun name thrown member => ?_, fun thread member raises => ?_,
    caused.done, fun _ => .inr (.inr (.inl (caused.raising _ here rfl))),
    Stopped.move caused.stopped rfl (fun _ => rfl) rfl (move_length _ _ _),
    caused.judged.move threads here nofun rfl rfl rfl (move_length _ _ _)⟩
  · exact (caused.thrown name thrown member).imp_right
      (@catching_move run body _ .ended threads here thrown nofun)
  · rcases stage_of_move member with rfl | inside
    · cases raises
    · exact caused.raising thread inside raises

end Moves

/-- Every action keeps the causes of the flag, of the error and of the outcome. -/
theorem Caused.step (caused : run.Caused begun actions) (threads : run.Threads) {action : RunAction}
    (moved : run.step action = some next) : next.Caused begun (actions ++ [action]) := by
  cases action with
  | openFile result => exact (caused.main threads (openFile_main moved)).more (fun _ _ same => by cases same)
  | record writerBusy slots => exact (caused.main threads (record_main moved)).more (fun _ _ same => by cases same)
  | launch started => exact (caused.main threads (launch_main moved)).more (fun _ _ same => by cases same)
  | clock now => exact (caused.main threads (clock_main moved)).more (fun _ _ same => by cases same)
  | proceed => exact (caused.main threads (proceed_main moved)).more (fun _ _ same => by cases same)
  | recorder action =>
      simp only [CaptureRun.step] at moved
      split at moved
      · cases moved
      · split at moved
        · obtain ⟨recording, _, rfl⟩ := Option.map_eq_some_iff.mp moved
          have kept : ({ run with recording := some recording } : CaptureRun).Caused begun actions :=
            caused.keep rfl rfl rfl rfl rfl rfl rfl caused.flag caused.stopped caused.judged
          exact kept.more (fun _ _ same => by cases same)
        · cases moved
  | fedImu time =>
      obtain ⟨_, ⟨⟩⟩ := Option.ite_none_right_eq_some.mp moved
      have kept : ({ run with lastImuNs := time } : CaptureRun).Caused begun actions :=
        caused.keep rfl rfl rfl rfl rfl rfl rfl caused.flag caused.stopped caused.judged
      exact kept.more (fun _ _ same => by cases same)
  | framesDone =>
      obtain ⟨_, ⟨⟩⟩ := Option.ite_none_right_eq_some.mp moved
      have more := @Caused.more _ _ _ caused .framesDone
        fun _ _ same => by cases same
      refine ⟨more.planned, more.first, more.thrown, more.raising,
        fun _ => List.mem_append_right _ (List.mem_singleton_self _), fun _ => ?_, more.stopped,
        more.judged⟩
      exact .inr (.inr (.inr (.inr (.inl rfl))))
  | returns body =>
      obtain ⟨⟨here, _⟩, ⟨⟩⟩ := Option.ite_none_right_eq_some.mp moved
      exact (caused.returns threads here).more (fun _ _ same => by cases same)
  | throws body thrown =>
      obtain ⟨⟨here, _⟩, ⟨⟩⟩ := Option.ite_none_right_eq_some.mp moved
      exact caused.throws threads here thrown
  | store body =>
      simp only [CaptureRun.step] at moved
      split at moved
      · rename_i name thrown found
        cases moved
        have same := List.find?_some found
        obtain rfl : name = body := of_decide_eq_true same
        exact (caused.store threads (List.mem_of_find?_eq_some found)).more (fun _ _ same => by cases same)
      · cases moved
  | raise body =>
      obtain ⟨here, ⟨⟩⟩ := Option.ite_none_right_eq_some.mp moved
      exact (caused.raise threads here).more (fun _ _ same => by cases same)
  | requestStop =>
      cases moved
      have more := @Caused.more _ _ _ caused .requestStop fun _ _ same => by cases same
      have cause : run.Cause begun (actions ++ [.requestStop]) :=
        .inr (.inl (List.mem_append_right _ (List.mem_singleton_self _)))
      exact ⟨more.planned, more.first, more.thrown, more.raising, more.done, fun _ => cause,
        Stopped.move more.stopped rfl (fun _ => rfl) rfl rfl, more.judged⟩

end CaptureRun
end Vio
