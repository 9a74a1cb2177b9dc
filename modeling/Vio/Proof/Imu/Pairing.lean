import Vio.Proof.Imu.Queues

namespace Vio
open Interpolation

variable {K : Type} [Field K]

/-- The gyroscope samples in the span of the accelerometer's, each with the interpolated value. -/
def pairedRows (accel gyro : List (ImuSample K)) : List (ImuData K) :=
  (gyro.filter fun sample => spans accel sample.1).map fun sample =>
    imuData sample.1 sample.2 (linear K accel sample.1)

theorem pairedRows_append (accel first second : List (ImuSample K)) :
    pairedRows accel (first ++ second) = pairedRows accel first ++ pairedRows accel second := by
  rw [pairedRows, List.filter_append, List.map_append]
  rfl

/-- What is reached stays as it is when more accelerometer samples come. -/
theorem pairedRows_grow {accel batch done : List (ImuSample K)} (increasing : Increasing (accel ++ batch))
    (reached : ∀ sample ∈ done, Reaches accel sample.1) :
    pairedRows (accel ++ batch) done = pairedRows accel done := by
  have same : done.filter (fun sample => spans (accel ++ batch) sample.1) =
      done.filter fun sample => spans accel sample.1 := by
    apply List.filter_congr
    intro sample member
    exact spans_append increasing (reached sample member)
  rw [pairedRows, pairedRows, same]
  apply List.map_congr_left
  intro sample member
  have inside : spans accel sample.1 = true := (List.mem_filter.mp member).2
  rw [linear_append increasing inside]

/-- The samples after the newest accelerometer sample are in no span. -/
theorem pairedRows_unreached {accel rest : List (ImuSample K)}
    (unreached : ∀ sample ∈ rest, ¬ Reaches accel sample.1) : pairedRows accel rest = [] := by
  have none : rest.filter (fun sample => spans accel sample.1) = [] := by
    apply List.filter_eq_nil_iff.mpr
    intro sample member inside
    exact unreached sample member (spans_iff.mp inside).2
  rw [pairedRows, none, List.map_nil]

section Seek
variable {queue : List (ImuSample K)} {time : Int}

omit [Field K] in
/-- The search pops samples from the front only, and it leaves a front before the time. -/
theorem seek_front (begins : ∀ front, queue.head? = some front → front.1 ≤ time) :
    ∃ popped, queue = popped ++ seek queue time ∧
      ∀ front, (seek queue time).head? = some front → front.1 ≤ time := by
  induction queue with
  | nil => exact ⟨[], rfl, begins⟩
  | cons left queue inductionHypothesis =>
      cases queue with
      | nil => exact ⟨[], rfl, begins⟩
      | cons right rest =>
          rw [seek]
          split
          · rename_i early
            obtain ⟨popped, same, front⟩ := inductionHypothesis (by
              rintro _ ⟨⟩
              exact early)
            exact ⟨left :: popped, congrArg _ same, front⟩
          · exact ⟨[], rfl, begins⟩

omit [Field K] in
/-- A seek keeps the last sample at least. -/
theorem seek_ne_nil (some_ : queue ≠ []) : seek queue time ≠ [] := by
  induction queue with
  | nil => exact some_
  | cons left queue inductionHypothesis =>
      cases queue with
      | nil => exact some_
      | cons right rest =>
          rw [seek]
          split
          · exact inductionHypothesis (List.cons_ne_nil _ _)
          · exact List.cons_ne_nil _ _

/-- The value at the front of the queue is the interpolated one. -/
theorem accelAt_seek (increasing : Increasing queue) :
    accelAt (seek queue time) time = linear K queue time := by
  induction queue with
  | nil => rfl
  | cons left queue inductionHypothesis =>
      cases queue with
      | nil => rfl
      | cons right rest =>
          have order : left.1 < right.1 :=
            (List.pairwise_cons.mp increasing).1 right (List.mem_cons_self ..)
          rw [seek, linear]
          split
          · rw [if_neg (by omega)]
            exact inductionHypothesis (List.pairwise_cons.mp increasing).2
          · rw [if_pos (by omega), accelAt, if_pos order]
            rfl

end Seek

namespace ImuThread
variable {thread next : ImuThread K} {emptied : Nat → Bool} {data : ImuData K}

omit [Field K] in
/-- A row that is pushed leaves the queues. -/
theorem push_ok (pushed : thread.push emptied data = .ok next) :
    next.accel = thread.accel ∧ next.gyro = thread.gyro ∧ next.pushed = thread.pushed ++ [data] := by
  unfold push at pushed
  dsimp only at pushed
  generalize (if emptied thread.imuCount = true then [] else thread.imuQueue) = queue at pushed
  split at pushed
  · cases pushed
  · obtain rfl := Except.ok.inj pushed
    exact ⟨rfl, rfl, rfl⟩

omit [Field K] in
/-- A push ends at the bound of the queue only. -/
theorem push_cases (thread : ImuThread K) (emptied : Nat → Bool) (data : ImuData K) :
    (∃ next, thread.push emptied data = .ok next) ∨
    thread.push emptied data = .error "IMU queue overflow; estimator cannot keep up" := by
  unfold push
  dsimp only
  generalize (if emptied thread.imuCount = true then [] else thread.imuQueue) = queue
  split
  · exact .inr rfl
  · exact .inl ⟨_, rfl⟩

end ImuThread

/-- The state of the pairing loop: `done` is what it popped, and `rest` is what it may pop. -/
structure Pairing (accel gyro done rest : List (ImuSample K)) (thread : ImuThread K) : Prop where
  /-- What was popped from the front came before a gyroscope sample that is done. -/
  queue : ∃ dropped, thread.accel.Holds accel dropped ∧ (dropped ≠ [] → ∀ front,
    thread.accel.queue.head? = some front → ∃ sample ∈ done, front.1 ≤ sample.1)
  kept : accel ≠ [] → thread.accel.queue ≠ []
  split : gyro = done ++ rest
  reached : ∀ sample ∈ done, Reaches accel sample.1
  pushed : thread.pushed = pairedRows accel done

namespace Pairing
variable {accel gyro done rest : List (ImuSample K)} {sample : ImuSample K} {thread next : ImuThread K}

/-- The sample that is popped next is later than what is done. -/
theorem later (pairing : Pairing accel gyro done (sample :: rest) thread)
    (increasing : Increasing gyro) : ∀ earlier ∈ done, earlier.1 < sample.1 := by
  intro earlier member
  have order := pairing.split ▸ increasing
  exact (List.pairwise_append.mp order).2.2 earlier member sample (List.mem_cons_self ..)

/-- The newest sample of the queue is the newest of the stream. -/
theorem newest (pairing : Pairing accel gyro done rest thread) :
    thread.accel.queue.getLast? = accel.getLast? := by
  obtain ⟨dropped, holds, _⟩ := pairing.queue
  cases left : thread.accel.queue with
  | nil =>
      have none : accel = [] := by
        by_contra some_
        exact pairing.kept some_ left
      rw [none]
  | cons front queue =>
      rw [holds.split, left, List.getLast?_append,
        List.getLast?_eq_some_getLast (List.cons_ne_nil front queue), Option.some_or]

/-- A popped sample joins what is done, with its row where it is in the span. -/
theorem advance (pairing : Pairing accel gyro done (sample :: rest) thread)
    (reached : Reaches accel sample.1) (next : ImuThread K)
    (queue : ∃ dropped, next.accel.Holds accel dropped ∧ (dropped ≠ [] → ∀ front,
      next.accel.queue.head? = some front → ∃ earlier ∈ done ++ [sample], front.1 ≤ earlier.1))
    (kept : accel ≠ [] → next.accel.queue ≠ [])
    (pushed : next.pushed = thread.pushed ++ pairedRows accel [sample]) :
    Pairing accel gyro (done ++ [sample]) rest next where
  queue := queue
  kept := kept
  split := by rw [pairing.split, List.append_assoc, List.singleton_append]
  reached := by
    intro earlier member
    rcases List.mem_append.mp member with member | member
    · exact pairing.reached earlier member
    · rw [List.mem_singleton.mp member]
      exact reached
  pushed := by rw [pushed, pairing.pushed, pairedRows_append]

/-- A sample before the front of the queue is before every accelerometer sample. -/
theorem skip (pairing : Pairing accel gyro done (sample :: rest) thread)
    (increasing : Increasing gyro) (reached : Reaches accel sample.1)
    {front : ImuSample K} (begins : thread.accel.queue.head? = some front)
    (early : sample.1 < front.1) : Pairing accel gyro (done ++ [sample]) rest thread := by
  obtain ⟨dropped, holds, popped⟩ := pairing.queue
  have first : dropped = [] := by
    by_contra some_
    obtain ⟨earlier, member, after⟩ := popped some_ front begins
    have := pairing.later increasing earlier member
    omega
  have outside : pairedRows accel [sample] = [] := by
    have spansNot : spans accel sample.1 = false := by
      rw [Bool.eq_false_iff]
      intro inside
      obtain ⟨⟨other, same, after⟩, _⟩ := spans_iff.mp inside
      rw [holds.split, first, List.nil_append, begins] at same
      obtain rfl := Option.some.inj same
      omega
    simp [pairedRows, spansNot]
  refine pairing.advance reached thread ⟨dropped, holds, fun some_ => absurd first some_⟩
    pairing.kept ?_
  rw [outside, List.append_nil]

/-- A sample at or after the front of the queue is paired. -/
theorem push (pairing : Pairing accel gyro done (sample :: rest) thread)
    (reached : Reaches accel sample.1) {front : ImuSample K}
    (begins : thread.accel.queue.head? = some front) (inside : front.1 ≤ sample.1)
    {emptied : Nat → Bool}
    (pushed : (thread.setAccel (seek thread.accel.queue sample.1)).push emptied
      (imuData sample.1 sample.2 (accelAt (seek thread.accel.queue sample.1) sample.1)) = .ok next) :
    Pairing accel gyro (done ++ [sample]) rest next ∧ next.gyro = thread.gyro := by
  obtain ⟨dropped, holds, popped⟩ := pairing.queue
  have some_ : thread.accel.queue ≠ [] := by
    intro none
    rw [none] at begins
    cases begins
  have begun : ∀ other, thread.accel.queue.head? = some other → other.1 ≤ sample.1 := by
    intro other same
    obtain rfl := Option.some.inj (begins.symm.trans same)
    exact inside
  obtain ⟨more, split, leads⟩ := seek_front begun
  have value : accelAt (seek thread.accel.queue sample.1) sample.1 = linear K accel sample.1 := by
    have increasing := holds.increasing
    rw [holds.split] at increasing
    rw [accelAt_seek (List.pairwise_append.mp increasing).2.1, holds.split]
    cases left : thread.accel.queue with
    | nil => exact absurd left some_
    | cons other queue =>
        rw [left] at begins increasing
        obtain rfl := Option.some.inj begins
        rw [linear_drop increasing inside]
  have spanned : spans accel sample.1 = true := by
    apply spans_of_mem holds.increasing _ inside reached
    rw [holds.split]
    exact List.mem_append_right _ (List.mem_of_head? begins)
  obtain ⟨accelSame, gyroSame, rows⟩ := ImuThread.push_ok pushed
  refine ⟨pairing.advance reached next ⟨dropped ++ more, ?_, ?_⟩ ?_ ?_, gyroSame⟩
  · rw [accelSame]
    refine ⟨?_, holds.increasing, holds.bounded, holds.known⟩
    rw [holds.split, List.append_assoc]
    exact congrArg _ split
  · rw [accelSame]
    intro _ other leading
    exact ⟨sample, by simp, leads other leading⟩
  · rw [accelSame]
    exact fun _ => seek_ne_nil some_
  · rw [rows, value]
    simp [pairedRows, spanned, ImuThread.setAccel]

/-- The loop pops what is reached, and it ends without a row at the bound of the queue only. -/
theorem run (pairing : Pairing accel gyro done rest thread) (increasing : Increasing gyro)
    (emptied : Nat → Bool) :
    thread.pair emptied rest = .error "IMU queue overflow; estimator cannot keep up" ∨
    ∃ next done left, thread.pair emptied rest = .ok next ∧ Pairing accel gyro done left next ∧
      next.gyro = (thread.setGyro left).gyro ∧ ∀ sample ∈ left, ¬ Reaches accel sample.1 := by
  induction rest generalizing thread done with
  | nil =>
      refine .inr ⟨_, done, [], rfl, ?_, rfl, by simp⟩
      exact ⟨pairing.queue, pairing.kept, pairing.split, pairing.reached, pairing.pushed⟩
  | cons sample rest inductionHypothesis =>
      have newest := pairing.newest
      have goes : (thread.accel.queue.getLast?.any fun back => decide (sample.1 ≤ back.1)) = true ↔
          Reaches accel sample.1 := by
        rw [newest, Option.any_eq_true]
        simp only [decide_eq_true_eq, Reaches]
      rw [ImuThread.pair]
      split
      · rename_i reaches
        have reached := goes.mp reaches
        obtain ⟨last, ended, _⟩ := reached
        rw [← newest] at ended
        obtain ⟨front, begins⟩ : ∃ front, thread.accel.queue.head? = some front := by
          cases left : thread.accel.queue with
          | nil => rw [left] at ended; cases ended
          | cons front queue => exact ⟨front, rfl⟩
        split
        · rename_i early
          rw [begins, Option.any_some, decide_eq_true_eq] at early
          exact inductionHypothesis (pairing.skip increasing (goes.mp reaches) begins early)
        · rename_i inside
          rw [begins, Option.any_some, decide_eq_true_eq, Int.not_lt] at inside
          rcases ImuThread.push_cases
              (thread.setAccel (seek thread.accel.queue sample.1)) emptied
              (imuData sample.1 sample.2 (accelAt (seek thread.accel.queue sample.1) sample.1)) with
            ⟨next, pushed⟩ | full
          · obtain ⟨after, same⟩ := pairing.push (goes.mp reaches) begins inside pushed
            have rest := inductionHypothesis after
            simp only [ImuThread.setGyro, same] at rest ⊢
            rwa [pushed]
          · dsimp only
            rw [full]
            exact .inl rfl
      · rename_i unreached
        refine .inr ⟨_, done, sample :: rest, rfl,
          ⟨pairing.queue, pairing.kept, pairing.split, pairing.reached, pairing.pushed⟩, rfl, ?_⟩
        have order := (List.pairwise_append.mp (pairing.split ▸ increasing)).2.1
        intro other member reaches
        apply unreached
        apply goes.mpr
        obtain ⟨last, ended, before⟩ := reaches
        refine ⟨last, ended, ?_⟩
        rcases List.mem_cons.mp member with rfl | member
        · exact before
        · have := (List.pairwise_cons.mp order).1 other member
          omega

end Pairing
end Vio
