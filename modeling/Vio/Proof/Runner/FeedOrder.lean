import Mathlib.Data.Rat.Floor
import Mathlib.Tactic.Linarith
import Vio.Proof.Runner.QueueSteps

namespace Vio
namespace SensorRunner
open BoundedQueue History

namespace Runner
variable {K : Type} [Field K] [LinearOrder K]

/-- A frame is fed after a sample beyond its time and the offset. -/
def Covered (first : K) (feed : Feed K) (past : List (Feed K)) : Prop :=
  ∀ captured, feed = .camera captured → ∃ sample, .imu sample ∈ past ∧
    captured.timestamp + offsetBefore first past < sample.timestamp

/-- Before the first sample is fed, the oldest frame does not lie below zero in the clock of the IMU. -/
def Anchored (runner : Runner K) : Prop :=
  heard Feed.sample runner.feeds = [] → ∀ captured ∈ runner.camQueue.head?,
    0 ≤ captured.timestamp + runner.calibDt

variable [FloorRing K]

/-- Each second locked section of a run that was not stopped begins with an anchored runner. -/
def Meets : Runner K → List (RunnerAction K) → Prop
  | _, [] => True
  | runner, action :: rest =>
      (∀ now later, action = .relock now later → runner.stop = false → runner.Anchored) ∧
        ∀ next, runner.step action = some next → Meets next rest

instance (runner : Runner K) : Decidable runner.Anchored :=
  inferInstanceAs (Decidable (_ → ∀ captured ∈ runner.camQueue.head?, _))

instance decidableMeets : (runner : Runner K) → (actions : List (RunnerAction K)) →
    Decidable (runner.Meets actions)
  | _, [] => .isTrue trivial
  | runner, action :: rest =>
      have begins : Decidable (∀ now later, action = .relock now later → runner.stop = false →
          runner.Anchored) :=
        match action with
        | .relock now later =>
            decidable_of_iff (runner.stop = false → runner.Anchored)
              ⟨fun anchored _ _ _ => anchored, fun all => all now later rfl⟩
        | .pushImu _ _ _ | .count _ _ | .enqueue | .framesDone | .loop | .collect | .feedImu
        | .update _ | .throws | .requestStop => .isTrue fun _ _ same => by cases same
      have goes : Decidable (∀ next, runner.step action = some next → next.Meets rest) :=
        match moved : runner.step action with
        | none => .isTrue fun _ same => by cases same
        | some next =>
            have := decidableMeets next rest
            decidable_of_iff (next.Meets rest)
              ⟨fun meets _ same => Option.some.inj same ▸ meets, fun all => all next rfl⟩
      inferInstanceAs (Decidable (_ ∧ _))

variable {maxQueue : Nat} {first : K} {runner next : Runner K} [IsStrictOrderedRing K]

omit [FloorRing K] [IsStrictOrderedRing K] in
/-- A feed that is no frame needs no coverage. -/
theorem always_covered_other {feed : Feed K} (other : feed.captured = none) (past : List (Feed K)) :
    Always (Covered first) (feed :: past) ↔ Always (Covered first) past := by
  refine ⟨Always.tail, Always.cons fun captured same => ?_⟩
  rw [same] at other
  cases other

omit [FloorRing K] in
/-- A taken frame is covered where the runner was anchored, and only there. -/
theorem Sound.covered_iff (sound : runner.Sound maxQueue first) {captured : CapturedFrame K}
    {rest : List (CapturedFrame K)} (queue : runner.camQueue = captured :: rest)
    (ready : captured.timestamp < seconds runner.lastImuNs - runner.calibDt) :
    Covered first (.camera captured) runner.feeds ↔ runner.Anchored := by
  constructor
  · intro covered unfed
    obtain ⟨sample, member, _⟩ := covered captured rfl
    have found := mem_heard member rfl
    rw [unfed] at found
    cases found
  · rintro anchored _ ⟨⟩
    have offset := sound.offset
    cases newest : latest Feed.sample runner.feeds with
    | none =>
        rw [latest_eq_getLast?, List.getLast?_eq_none_iff] at newest
        have zero := sound.unfed newest
        have above := anchored newest captured (by rw [queue]; rfl)
        rw [zero, seconds, Int.cast_zero, zero_div] at ready
        linarith
    | some sample =>
        have last := sound.last sample newest
        obtain ⟨feed, member, same⟩ := List.exists_of_findSome?_eq_some newest
        cases feed with
        | imu fed =>
            obtain rfl := Option.some.inj same
            refine ⟨fed, member, ?_⟩
            rw [← offset, last]
            linarith
        | _ => cases same

omit [FloorRing K] in
/-- Where no frame is ready, no frame lies below zero before the first sample. -/
theorem Sound.anchored (sound : runner.Sound maxQueue first) (early : runner.ready = false) :
    runner.Anchored := by
  intro unfed captured oldest
  obtain ⟨rest, queue⟩ := List.head?_eq_some_iff.mp oldest
  unfold Runner.ready at early
  rw [queue] at early
  have late := of_decide_eq_false early
  rw [sound.unfed unfed, seconds, Int.cast_zero, zero_div] at late
  linarith

omit [IsStrictOrderedRing K] in
/-- Every other transition feeds no frame. -/
theorem step_feeds {action : RunnerAction K} (moved : runner.step action = some next)
    (other : ∀ now later, action ≠ .relock now later) :
    next.feeds = runner.feeds ∨ ∃ feed, feed.captured = none ∧ next.feeds = feed :: runner.feeds := by
  cases action with
  | relock now later => exact absurd rfl (other now later)
  | enqueue =>
      obtain ⟨captured, _, rfl⟩ := Option.map_eq_some_iff.mp moved
      exact .inl rfl
  | requestStop =>
      obtain rfl := Option.some.inj moved
      exact .inl rfl
  | feedImu =>
      simp only [Runner.step] at moved
      split at moved
      · obtain rfl := Option.some.inj moved
        exact .inr ⟨_, rfl, rfl⟩
      · cases moved
  | update calibDt =>
      simp only [Runner.step] at moved
      split at moved
      · obtain rfl := Option.some.inj moved
        exact .inr ⟨_, rfl, rfl⟩
      · cases moved
  | pushImu time wm am =>
      simp only [Runner.step] at moved
      split at moved
      · cases moved
      split at moved <;> obtain rfl := Option.some.inj moved <;> exact .inl rfl
  | throws =>
      simp only [Runner.step] at moved
      split at moved
      · cases moved
      · cases moved
      · obtain rfl := Option.some.inj moved
        exact .inl rfl
  | count ts idx =>
      simp only [Runner.step] at moved
      split at moved
      · obtain rfl := Option.some.inj moved
        exact .inl rfl
      · cases moved
  | framesDone | loop | collect =>
      simp only [Runner.step] at moved
      split at moved
      · obtain rfl := Option.some.inj moved
        exact .inl rfl
      · cases moved

/-- One transition keeps the coverage of all frames where it begins anchored, and only there. -/
theorem Sound.step_covered (sound : runner.Sound maxQueue first) {action : RunnerAction K}
    (moved : runner.step action = some next) :
    Always (Covered first) next.feeds ↔ Always (Covered first) runner.feeds ∧
      ∀ now later, action = .relock now later → runner.stop = false → runner.Anchored := by
  by_cases locks : ∃ now later, action = .relock now later
  · obtain ⟨now, later, rfl⟩ := locks
    simp only [Runner.step] at moved
    split at moved
    · obtain rfl := Option.some.inj moved
      rcases runner.relock_cases now later with
        ⟨idle, stage, stallSince, _, same⟩ | ⟨going, captured, rest, queue, ready, same⟩
      · rw [same]
        refine (and_iff_left fun _ _ _ going => sound.anchored ?_).symm
        rcases idle with stopped | early
        · rw [stopped] at going
          cases going
        · exact early
      · rw [same]
        have covered := sound.covered_iff queue ready
        constructor
        · exact fun always => ⟨always.tail, fun _ _ _ _ => covered.mp always.head⟩
        · rintro ⟨always, anchored⟩
          exact always.cons (covered.mpr (anchored now later rfl going))
    · cases moved
  · have other (now later) (same : action = .relock now later) : False := locks ⟨now, later, same⟩
    refine Iff.trans ?_ (and_iff_left fun now later same => (other now later same).elim).symm
    rcases step_feeds moved other with same | ⟨feed, plain, same⟩
    · rw [same]
    · rw [same]
      exact always_covered_other plain runner.feeds

/-- The feeds of a run are covered exactly if every relock met the condition. -/
theorem Sound.run_covered (sound : runner.Sound maxQueue first) {actions : List (RunnerAction K)}
    (ran : runner.run actions = some next) :
    Always (Covered first) next.feeds ↔ Always (Covered first) runner.feeds ∧ runner.Meets actions := by
  induction actions generalizing runner with
  | nil =>
      obtain rfl := Option.some.inj ran
      simp [Meets]
  | cons action actions inductionHypothesis =>
      obtain ⟨middle, moved, ran⟩ := Option.bind_eq_some_iff.mp ran
      rw [inductionHypothesis (sound.step moved) ran, sound.step_covered moved, and_assoc, Meets, moved]
      simp

/-- In every interleaving the estimator gets the pushed samples as a prefix and the enqueued frames in
order, the camera queue respects its limit, and every counted frame is in one place. A frame is fed
only after a sample beyond its time and the last offset exactly where no frame below zero is the
oldest one before the first sample. -/
theorem feed_order {maxQueue : Nat} (positive : 0 < maxQueue) (first : K)
    {actions : List (RunnerAction K)} {runner : Runner K}
    (ran : (start maxQueue positive first).run actions = some runner) :
    (heard Feed.sample runner.feeds <+: runner.pushed ∧
      (heard Feed.captured runner.feeds).Sublist runner.enqueued ∧
      runner.camQueue.length ≤ maxQueue ∧
      runner.framesIn = runner.framesDoneN + runner.framesDropped + runner.camQueue.length +
        runner.stage.inHand.toList.length + runner.entering.toList.length) ∧
    (Always (Covered first) runner.feeds ↔ (start maxQueue positive first).Meets actions) := by
  have initial := start_sound positive first
  have sound := initial.run ran
  refine ⟨⟨sound.fed, ?_, sound.bounded, sound.counted⟩, ?_⟩
  · exact (List.sublist_append_left _ runner.camQueue).trans sound.frames
  · rw [initial.run_covered ran, and_iff_right]
    exact always_nil

/-- The frame at 1.5 s is dropped, the one at 1.6 s is fed, and the one at 2.5 s waits. -/
def sampleActions : List (RunnerAction ℚ) :=
  [.pushImu 1000000000 0 0, .count 1500000000 1, .enqueue, .count 1600000000 2, .enqueue,
    .count 2500000000 3, .enqueue, .loop, .collect, .feedImu, .pushImu 2000000000 0 0,
    .relock 0 0, .loop, .collect, .feedImu, .relock 0 0, .update (1 / 100), .pushImu 2200000000 0 0,
    .loop, .collect, .feedImu, .relock 0 0]

theorem sample_ran : ((start 2 (by decide) 0).run sampleActions).map
    (fun runner => (runner.framesIn, runner.framesDoneN, runner.framesDropped,
      runner.camQueue.map CapturedFrame.timestampNs, runner.feeds.length)) =
      some (3, 1, 1, [2500000000], 5) := by
  decide +kernel

/-- The sample meets the condition, so that its fed frame is covered. -/
theorem feed_order_drops : ∃ runner, (start 2 (by decide) 0).run sampleActions = some runner ∧
    heard Feed.sample runner.feeds <+: runner.pushed ∧ runner.feeds.length = 5 ∧
      Always (Covered 0) runner.feeds := by
  obtain ⟨runner, ran, facts⟩ := Option.map_eq_some_iff.mp sample_ran
  have meets : (start 2 (by decide) (0 : ℚ)).Meets sampleActions := by decide +kernel
  have order := feed_order (by decide) 0 ran
  refine ⟨runner, ran, order.1.1, ?_, order.2.mpr meets⟩
  exact (Prod.mk.inj (Prod.mk.inj (Prod.mk.inj (Prod.mk.inj facts).2).2).2).2

/-- Two frames with an offset of minus one second, and no sample. -/
def earlyFrames : List (RunnerAction ℚ) :=
  [.count 500000000 1, .enqueue, .loop, .collect, .relock 0 0, .update (-1), .count 600000000 2,
    .enqueue, .loop, .collect, .relock 0 0]

theorem early_ran : ((start 10 (by decide) (-1)).run earlyFrames).map
    (fun runner => ((heard Feed.sample runner.feeds).length,
      (runner.feeds.head?.bind Feed.captured).map CapturedFrame.timestampNs)) =
      some (0, some 600000000) := by
  decide +kernel

/-- The initial zero of the last IMU time makes a frame ready before any sample is fed. -/
theorem frame_before_samples : ∃ runner, (start 10 (by decide) (-1)).run earlyFrames = some runner ∧
    ¬ Always (Covered (-1)) runner.feeds := by
  obtain ⟨runner, ran, fed⟩ := Option.map_eq_some_iff.mp early_ran
  obtain ⟨unfed, newest⟩ := Prod.mk.inj fed
  refine ⟨runner, ran, fun always => ?_⟩
  cases feeds : runner.feeds with
  | nil =>
      rw [feeds] at newest
      cases newest
  | cons feed past =>
      rw [feeds] at always newest unfed
      cases feed with
      | camera captured =>
          obtain ⟨sample, member, _⟩ := always.head captured rfl
          have found := mem_heard (List.mem_cons_of_mem (.camera captured) member) rfl
          rw [List.length_eq_zero_iff.mp unfed] at found
          cases found
      | imu | offset => cases newest

end Runner
end SensorRunner
end Vio
