import Mathlib.Tactic.NormNum
import Vio.Construction.SensorRunner
import Vio.Library.History
import Vio.Library.PartialRun

namespace Vio
namespace SensorRunner
open BoundedQueue History

namespace Feed
variable {K : Type}

/-- The sample that the estimator got. -/
def sample : Feed K → Option (ImuData K)
  | .imu sample => some sample
  | _ => none

/-- The frame that the estimator got. -/
def captured : Feed K → Option (CapturedFrame K)
  | .camera captured => some captured
  | _ => none

/-- The offset that was read. -/
def calibDt : Feed K → Option K
  | .offset calibDt => some calibDt
  | _ => none

end Feed

section Rounding
variable {K : Type} [Field K] [LinearOrder K] [IsStrictOrderedRing K] [FloorRing K]

omit [FloorRing K] in
theorem nsPerSecond_ne_zero : (nsPerSecond : K) ≠ 0 := by
  rw [Int.cast_ne_zero]
  decide

omit [LinearOrder K] [IsStrictOrderedRing K] [FloorRing K] in
/-- The timestamp of a pushed row. -/
theorem imuData_seconds (time : Int) (wm am : Axes K) :
    (imuData time wm am).timestamp = seconds time := by
  rw [imuData, seconds, nsPerSecond, mul_one_div]
  norm_num

/-- Rounding gives the nanoseconds of a sample back. -/
theorem llround_seconds (time : Int) : llround ((seconds time : K) * nsPerSecond) = time := by
  rw [seconds, div_mul_cancel₀ _ nsPerSecond_ne_zero, llround]
  split
  · exact round_intCast time
  · rw [← Int.cast_neg, round_intCast, neg_neg]

end Rounding

/-- The estimator got each sample that it is on record with. -/
theorem mem_heard {K : Type} {feeds : List (Feed K)} {sample : ImuData K}
    {feed : Feed K} (member : feed ∈ feeds) (same : feed.sample = some sample) :
    sample ∈ heard Feed.sample feeds :=
  List.mem_reverse.mpr (List.mem_filterMap.mpr ⟨feed, member, same⟩)

namespace Runner
variable {K : Type} [Field K] [LinearOrder K]

/-- The offset after the previous camera update, or at the start. -/
def offsetBefore (first : K) (past : List (Feed K)) : K := (latest Feed.calibDt past).getD first

variable [FloorRing K]

/-- What the queues, the counters and the record of the feeds say about each other. -/
structure Sound (maxQueue : Nat) (first : K) (runner : Runner K) : Prop where
  limit : runner.maxQueue = maxQueue
  fed : heard Feed.sample runner.feeds <+: runner.pushed
  waiting : (∀ captured, runner.stage ≠ .threw captured) →
    runner.pushed = heard Feed.sample runner.feeds ++ runner.stage.samples ++ runner.imuQueue
  frames : (heard Feed.captured runner.feeds ++ runner.camQueue).Sublist runner.enqueued
  bounded : runner.camQueue.length ≤ maxQueue
  counted : runner.framesIn = runner.framesDoneN + runner.framesDropped + runner.camQueue.length +
    runner.stage.inHand.toList.length + runner.entering.toList.length
  nanoseconds : ∀ sample ∈ runner.pushed, ∃ time, sample.timestamp = seconds time
  unfed : heard Feed.sample runner.feeds = [] → runner.lastImuNs = 0
  last : ∀ sample, latest Feed.sample runner.feeds = some sample →
    sample.timestamp = seconds runner.lastImuNs
  offset : runner.calibDt = offsetBefore first runner.feeds

variable {maxQueue : Nat} {first : K} {runner next : Runner K}

omit [LinearOrder K] [FloorRing K] in
/-- A runner starts with empty queues. -/
theorem start_sound (positive : 0 < maxQueue) (first : K) :
    (start maxQueue positive first).Sound maxQueue first where
  limit := rfl
  fed := List.nil_prefix
  waiting _ := rfl
  frames := List.Sublist.refl []
  bounded := Nat.zero_le _
  counted := rfl
  nanoseconds := by simp [start]
  unfed _ := rfl
  last := by simp [start]
  offset := rfl

omit [LinearOrder K] [FloorRing K] in
/-- The update thread moves on with nothing new in its hands. -/
theorem Sound.move (sound : runner.Sound maxQueue first) (stage : UpdateStage K) (stallSince : Int)
    (samples : (∀ captured, runner.stage ≠ .threw captured) → stage.samples = runner.stage.samples)
    (threw : (∃ captured, runner.stage = .threw captured) → ∃ captured, stage = .threw captured)
    (inHand : stage.inHand = runner.stage.inHand) :
    ({ runner with stage, stallSince } : Runner K).Sound maxQueue first where
  limit := sound.limit
  fed := sound.fed
  waiting working := by
    have before (captured) (same : runner.stage = .threw captured) : False := by
      obtain ⟨captured, same⟩ := threw ⟨captured, same⟩
      exact working captured same
    rw [sound.waiting before, samples before]
  frames := sound.frames
  bounded := sound.bounded
  counted := by
    rw [inHand]
    exact sound.counted
  nanoseconds := sound.nanoseconds
  unfed := sound.unfed
  last := sound.last
  offset := sound.offset

omit [LinearOrder K] [FloorRing K] in
theorem Sound.flags (sound : runner.Sound maxQueue first) (stop framesDone imuAlive : Bool) :
    ({ runner with stop, framesDone, imuAlive } : Runner K).Sound maxQueue first :=
  ⟨sound.limit, sound.fed, sound.waiting, sound.frames, sound.bounded, sound.counted,
    sound.nanoseconds, sound.unfed, sound.last, sound.offset⟩

omit [LinearOrder K] [FloorRing K] in
/-- The push under the lock drops the oldest frames and counts them. -/
theorem Sound.enqueueFrame (sound : runner.Sound maxQueue first) {captured : CapturedFrame K}
    (entering : runner.entering = some captured) :
    (runner.enqueueFrame captured).Sound maxQueue first where
  limit := sound.limit
  fed := sound.fed
  waiting := sound.waiting
  frames := by
    have kept := (makeRoom_suffix runner.maxQueue runner.camQueue).sublist
    have grown := (kept.append_left (heard Feed.captured runner.feeds)).trans sound.frames
    have more := grown.append_right [captured]
    rwa [List.append_assoc] at more
  bounded := by
    have room := makeRoom_length runner.maxQueue runner.positive runner.camQueue
    simp only [Runner.enqueueFrame, List.length_append, List.length_singleton]
    rw [sound.limit] at room ⊢
    omega
  counted := by
    have each := makeRoom_count runner.maxQueue runner.camQueue
    have counted := sound.counted
    simp only [entering, Option.toList_some, List.length_singleton] at counted
    simp only [Runner.enqueueFrame, List.length_append, List.length_singleton, Option.toList_none,
      List.length_nil]
    omega
  nanoseconds := sound.nanoseconds
  unfed := sound.unfed
  last := sound.last
  offset := sound.offset

/-- The runner after it took the oldest frame for the estimator. -/
def take (runner : Runner K) (captured : CapturedFrame K) (rest : List (CapturedFrame K)) : Runner K :=
  { runner with
    camQueue := rest
    stage := .updating captured
    feeds := .camera captured :: runner.feeds }

omit [FloorRing K] in
/-- The second locked section takes a ready frame, or it takes none. -/
theorem relock_cases (runner : Runner K) (now later : Int) :
    ((runner.stop = true ∨ runner.ready = false) ∧ ∃ stage stallSince,
      (stage = .looping ∨ stage = .ended) ∧
        runner.relock now later = { runner with stage, stallSince }) ∨
    runner.stop = false ∧ ∃ captured rest, runner.camQueue = captured :: rest ∧
      captured.timestamp < seconds runner.lastImuNs - runner.calibDt ∧
        runner.relock now later = runner.take captured rest := by
  unfold relock
  split
  · exact .inl ⟨.inl ‹_›, _, _, .inr rfl, rfl⟩
  rename_i going
  rw [Bool.not_eq_true] at going
  split
  · rename_i early
    refine .inl ⟨.inr early, ?_⟩
    split
    · exact ⟨_, _, .inl rfl, rfl⟩
    split
    · exact ⟨_, _, .inr rfl, rfl⟩
    · refine ⟨_, _, ?_, rfl⟩
      by_cases late : later - (if runner.stallSince = 0 then now else runner.stallSince) > 1000000000
      · exact .inr (if_pos late)
      · exact .inl (if_neg late)
  · rename_i ready
    rw [Bool.not_eq_false] at ready
    unfold Runner.ready at ready
    cases queue : runner.camQueue with
    | nil =>
        rw [queue] at ready
        cases ready
    | cons captured rest =>
        rw [queue] at ready
        exact .inr ⟨going, captured, rest, rfl, of_decide_eq_true ready, rfl⟩

omit [LinearOrder K] [FloorRing K] in
/-- A captured frame is taken from the front of the queue. -/
theorem Sound.take (sound : runner.Sound maxQueue first) (fed : runner.stage = .feeding [])
    {captured : CapturedFrame K} {rest : List (CapturedFrame K)}
    (queue : runner.camQueue = captured :: rest) :
    (runner.take captured rest).Sound maxQueue first where
  limit := sound.limit
  fed := sound.fed
  waiting _ := by
    have waiting := sound.waiting (by simp [fed])
    rw [fed] at waiting
    exact waiting
  frames := by
    have frames := sound.frames
    rw [queue] at frames
    rw [show heard Feed.captured (runner.take captured rest).feeds =
      heard Feed.captured runner.feeds ++ [captured] from heard_cons_some rfl, List.append_assoc]
    exact frames
  bounded := by
    have bounded := sound.bounded
    rw [queue, List.length_cons] at bounded
    exact Nat.le_of_succ_le bounded
  counted := by
    have counted := sound.counted
    simp only [queue, fed, UpdateStage.inHand, List.length_cons, Option.toList_none,
      List.length_nil] at counted
    simp only [Runner.take, UpdateStage.inHand, Option.toList_some, List.length_singleton]
    omega
  nanoseconds := sound.nanoseconds
  unfed := sound.unfed
  last := sound.last
  offset := sound.offset

variable [IsStrictOrderedRing K]

/-- A sample that is fed is the newest one. -/
theorem Sound.feedImu (sound : runner.Sound maxQueue first) {sample : ImuData K}
    {rest : List (ImuData K)} (feeding : runner.stage = .feeding (sample :: rest)) :
    ({ runner with
        lastImuNs := llround (sample.timestamp * nsPerSecond)
        stage := .feeding rest
        feeds := .imu sample :: runner.feeds } : Runner K).Sound maxQueue first := by
  have waiting := sound.waiting (by simp [feeding])
  rw [feeding] at waiting
  have more : heard Feed.sample (.imu sample :: runner.feeds) =
      heard Feed.sample runner.feeds ++ [sample] := heard_cons_some rfl
  have split : runner.pushed = heard Feed.sample (.imu sample :: runner.feeds) ++ rest ++
      runner.imuQueue := by
    rw [waiting, more, UpdateStage.samples, List.append_assoc _ [sample], List.singleton_append]
  refine ⟨sound.limit, ?_, fun _ => split, sound.frames, sound.bounded, ?_, sound.nanoseconds, ?_, ?_,
    sound.offset⟩
  · change heard Feed.sample (.imu sample :: runner.feeds) <+: runner.pushed
    rw [split, List.append_assoc]
    exact List.prefix_append _ _
  · have counted := sound.counted
    rwa [feeding] at counted
  · intro none
    change heard Feed.sample (.imu sample :: runner.feeds) = [] at none
    rw [more] at none
    exact absurd none (by simp)
  · intro newest same
    have found : latest Feed.sample (.imu sample :: runner.feeds) = some sample :=
      latest_cons_some rfl
    obtain rfl := Option.some.inj (found.symm.trans same)
    have member : sample ∈ runner.pushed := by
      rw [split, more]
      simp
    obtain ⟨time, exact_⟩ := sound.nanoseconds sample member
    change sample.timestamp = seconds (llround (sample.timestamp * nsPerSecond))
    rw [exact_, llround_seconds]

/-- Each locked section keeps the queues and the counters together. -/
theorem Sound.step (sound : runner.Sound maxQueue first) {action : RunnerAction K}
    (moved : runner.step action = some next) : next.Sound maxQueue first := by
  cases action with
  | pushImu time wm am =>
      simp only [Runner.step] at moved
      split at moved
      · cases moved
      split at moved
      · obtain rfl := Option.some.inj moved
        exact sound.flags runner.stop runner.framesDone false
      · obtain rfl := Option.some.inj moved
        refine ⟨sound.limit, sound.fed.trans (List.prefix_append _ _), fun working => ?_, sound.frames,
          sound.bounded, sound.counted, fun sample member => ?_, sound.unfed, sound.last, sound.offset⟩
        · rw [sound.waiting working, List.append_assoc]
        · rcases List.mem_append.mp member with earlier | same
          · exact sound.nanoseconds sample earlier
          · obtain rfl := List.mem_singleton.mp same
            exact ⟨time, imuData_seconds time wm am⟩
  | count ts idx =>
      simp only [Runner.step] at moved
      split at moved
      · rename_i none
        obtain rfl := Option.some.inj moved
        refine ⟨sound.limit, sound.fed, sound.waiting, sound.frames, sound.bounded, ?_,
          sound.nanoseconds, sound.unfed, sound.last, sound.offset⟩
        have counted := sound.counted
        simp only [none, Option.toList_none, List.length_nil] at counted
        simp only [Option.toList_some, List.length_singleton]
        omega
      · cases moved
  | enqueue =>
      obtain ⟨captured, entering, rfl⟩ := Option.map_eq_some_iff.mp moved
      exact sound.enqueueFrame entering
  | framesDone =>
      simp only [Runner.step] at moved
      split at moved
      · obtain rfl := Option.some.inj moved
        exact sound.flags runner.stop true runner.imuAlive
      · cases moved
  | requestStop =>
      obtain rfl := Option.some.inj moved
      exact sound.flags true runner.framesDone runner.imuAlive
  | loop =>
      simp only [Runner.step] at moved
      split at moved
      · rename_i looping
        obtain rfl := Option.some.inj moved
        split <;> exact sound.move _ runner.stallSince (by simp [looping, UpdateStage.samples])
          (by simp [looping]) (by simp [looping, UpdateStage.inHand])
      · cases moved
  | collect =>
      simp only [Runner.step] at moved
      split at moved
      · rename_i waiting
        obtain rfl := Option.some.inj moved
        refine ⟨sound.limit, sound.fed, fun _ => ?_, sound.frames, sound.bounded, ?_, sound.nanoseconds,
          sound.unfed, sound.last, sound.offset⟩
        · have split := sound.waiting (by simp [waiting])
          rw [waiting] at split
          change runner.pushed = heard Feed.sample runner.feeds ++ [] ++ runner.imuQueue at split
          change runner.pushed = heard Feed.sample runner.feeds ++ runner.imuQueue ++ []
          rwa [List.append_nil] at split ⊢
        · have counted := sound.counted
          rwa [waiting] at counted
      · cases moved
  | feedImu =>
      simp only [Runner.step] at moved
      split at moved
      · rename_i sample rest feeding
        obtain rfl := Option.some.inj moved
        exact sound.feedImu feeding
      · cases moved
  | relock now later =>
      simp only [Runner.step] at moved
      split at moved
      · rename_i feeding
        obtain rfl := Option.some.inj moved
        rcases runner.relock_cases now later with
          ⟨_, stage, stallSince, known, same⟩ | ⟨_, captured, rest, queue, _, same⟩
        · rw [same]
          rcases known with rfl | rfl <;>
            exact sound.move _ stallSince (by simp [feeding, UpdateStage.samples])
              (by simp [feeding]) (by simp [feeding, UpdateStage.inHand])
        · rw [same]
          exact sound.take feeding queue
      · cases moved
  | update calibDt =>
      simp only [Runner.step] at moved
      split at moved
      · rename_i captured updating
        obtain rfl := Option.some.inj moved
        refine ⟨sound.limit, sound.fed, fun _ => ?_, sound.frames, sound.bounded, ?_, sound.nanoseconds,
          sound.unfed, sound.last, ?_⟩
        · have split := sound.waiting (by simp [updating])
          rwa [updating] at split
        · have counted := sound.counted
          simp only [updating, UpdateStage.inHand, Option.toList_some, List.length_singleton] at counted
          simp only [UpdateStage.inHand, Option.toList_none, List.length_nil]
          omega
        · have found : latest Feed.calibDt (.offset calibDt :: runner.feeds) = some calibDt :=
            latest_cons_some rfl
          exact (congrArg (fun read => read.getD first) found).symm
      · cases moved
  | throws =>
      simp only [Runner.step] at moved
      split at moved
      · cases moved
      · cases moved
      · obtain rfl := Option.some.inj moved
        refine ⟨sound.limit, sound.fed, fun working => absurd rfl (working _), sound.frames,
          sound.bounded, ?_, sound.nanoseconds, sound.unfed, sound.last, sound.offset⟩
        exact sound.counted

theorem Sound.run (sound : runner.Sound maxQueue first) {actions : List (RunnerAction K)}
    (ran : runner.run actions = some next) : next.Sound maxQueue first := by
  refine PartialRun.invariant (·.Sound maxQueue first) ?_ ran sound
  intro before action after moved sound
  exact sound.step moved

end Runner
end SensorRunner
end Vio
