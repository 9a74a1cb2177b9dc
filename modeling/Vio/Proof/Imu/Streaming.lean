import Vio.Construction.KalibrImuCsv
import Vio.Proof.Imu.Pairing

namespace Vio
open Interpolation

/-- The bytes that a round read from the accelerometer. -/
def ImuPoll.accelData : ImuPoll → List UInt8
  | .ready accel _ => accel.data
  | _ => []

/-- The bytes that a round read from the gyroscope. -/
def ImuPoll.gyroData : ImuPoll → List UInt8
  | .ready _ gyro => gyro.data
  | _ => []

/-- The bytes that the rounds read from the accelerometer, in order. -/
def accelBytes (polls : List ImuPoll) : List UInt8 := polls.flatMap ImuPoll.accelData

/-- The bytes that the rounds read from the gyroscope, in order. -/
def gyroBytes (polls : List ImuPoll) : List UInt8 := polls.flatMap ImuPoll.gyroData

variable {K : Type} [Field K]

/-- A round without a failure. -/
def ImuPoll.Healthy (accelDev gyroDev : ImuDev K) : ImuPoll → Prop
  | .idle => True
  | .fails _ => False
  | .ready accel gyro => accel.Healthy accelDev ∧ gyro.Healthy gyroDev

theorem ImuPoll.Healthy.whole {accelDev gyroDev : ImuDev K} {poll : ImuPoll}
    (healthy : poll.Healthy accelDev gyroDev) :
    poll.accelData.length % accelDev.record = 0 ∧ poll.gyroData.length % gyroDev.record = 0 := by
  cases poll with
  | ready accel gyro => exact ⟨healthy.1.whole, healthy.2.whole⟩
  | idle | fails => exact ⟨Nat.zero_mod _, Nat.zero_mod _⟩

/-- The times of a stream increase from a positive one. -/
def Streams (stream : List (ImuSample K)) : Prop :=
  Increasing stream ∧ ∀ sample ∈ stream, 0 < sample.1

omit [Field K] in
theorem Streams.begins {first second : List (ImuSample K)} (streams : Streams (first ++ second)) :
    Streams first :=
  ⟨(List.pairwise_append.mp streams.1).1,
    fun sample member => streams.2 sample (List.mem_append_left _ member)⟩

/-- The two bounds of the queues, by the message that the thread dies with. -/
def QueueBound (message : String) : Prop :=
  message = "unpaired IMU queue overflow" ∨
    message = "IMU queue overflow; estimator cannot keep up"

namespace ImuThread

/-- What the thread holds and what it pushed, by the streams so far. -/
structure Sound (accel gyro : List (ImuSample K)) (thread : ImuThread K) : Prop where
  paired : ∃ done, Pairing accel gyro done thread.gyro.queue thread ∧ thread.gyro.Holds gyro done
  waits : ∀ sample ∈ thread.gyro.queue, ¬ Reaches accel sample.1

theorem start_sound : (start : ImuThread K).Sound [] [] where
  paired := ⟨[], ⟨⟨[], .new, fun some_ => absurd rfl some_⟩, fun some_ => absurd rfl some_,
    rfl, by simp, rfl⟩, .new⟩
  waits := by simp [start, SensorQueue.empty]

variable {accel gyro : List (ImuSample K)} {thread next : ImuThread K} {filter : ImuLowPass K}
  {accelDev gyroDev : ImuDev K} {emptied : Nat → Bool}

/-- The rows pushed so far are those of the streams so far. -/
theorem Sound.pushed (sound : thread.Sound accel gyro) : thread.pushed = pairedRows accel gyro := by
  obtain ⟨done, pairing, _⟩ := sound.paired
  rw [pairing.pushed, pairing.split, pairedRows_append, pairedRows_unreached sound.waits,
    List.append_nil]

/-- New samples of both devices leave a state that the pairing loop may start from. -/
theorem Sound.read (sound : thread.Sound accel gyro) (off : filter.Off)
    {accelEvents gyroEvents : DeviceEvents} {accelQueue gyroQueue : SensorQueue K}
    (accelRead : thread.accel.readDevice filter accelDev accelEvents = .ok accelQueue)
    (gyroRead : thread.gyro.readDevice filter gyroDev gyroEvents = .ok gyroQueue) :
    ∃ done, Pairing (accel ++ accelDev.samples accelEvents.data)
      (gyro ++ gyroDev.samples gyroEvents.data) done gyroQueue.queue
      { thread with accel := accelQueue, gyro := gyroQueue } ∧
      gyroQueue.Holds (gyro ++ gyroDev.samples gyroEvents.data) done ∧
      accelEvents.data.length % accelDev.record = 0 ∧
      gyroEvents.data.length % gyroDev.record = 0 := by
  obtain ⟨done, pairing, gyroHolds⟩ := sound.paired
  obtain ⟨dropped, accelHolds, popped⟩ := pairing.queue
  obtain ⟨accelAfter, accelWhole⟩ := accelHolds.readDevice off accelRead
  obtain ⟨gyroAfter, gyroWhole⟩ := gyroHolds.readDevice off gyroRead
  have increasing := accelAfter.increasing
  have appended : accelQueue.queue = thread.accel.queue ++ accelDev.samples accelEvents.data := by
    have split := accelAfter.split
    rw [accelHolds.split, List.append_assoc] at split
    exact (List.append_cancel_left split).symm
  refine ⟨done, ⟨⟨dropped, accelAfter, fun some_ front begins => ?_⟩, fun some_ => ?_,
    gyroAfter.split, fun sample member => (pairing.reached sample member).append increasing, ?_⟩,
    gyroAfter, accelWhole, gyroWhole⟩
  · have old : thread.accel.queue ≠ [] := by
      apply pairing.kept
      rw [accelHolds.split]
      exact fun none => some_ (List.append_eq_nil_iff.mp none).1
    have begins : accelQueue.queue.head? = some front := begins
    apply popped some_ front
    cases queue : thread.accel.queue with
    | nil => exact absurd queue old
    | cons first rest =>
        rw [appended, queue] at begins
        exact begins
  · show accelQueue.queue ≠ []
    rw [appended]
    intro none
    obtain ⟨oldNone, newNone⟩ := List.append_eq_nil_iff.mp none
    apply some_
    rw [newNone, List.append_nil]
    by_contra old
    exact pairing.kept old oldNone
  · rw [pairedRows_grow increasing pairing.reached]
    exact pairing.pushed

/-- A poll extends both streams by its samples, and reads whole records. -/
theorem Sound.step (sound : thread.Sound accel gyro) (off : filter.Off) {poll : ImuPoll}
    (moved : thread.step filter accelDev gyroDev emptied poll = .ok next) :
    next.Sound (accel ++ accelDev.samples poll.accelData) (gyro ++ gyroDev.samples poll.gyroData) ∧
      poll.accelData.length % accelDev.record = 0 ∧ poll.gyroData.length % gyroDev.record = 0 := by
  cases poll with
  | idle =>
      obtain rfl := Except.ok.inj moved
      refine ⟨?_, Nat.zero_mod _, Nat.zero_mod _⟩
      simpa [ImuPoll.accelData, ImuPoll.gyroData, ImuDev.samples] using sound
  | fails reason => cases moved
  | ready accelEvents gyroEvents =>
      rw [ImuThread.step] at moved
      split at moved
      · cases moved
      rename_i accelQueue accelRead
      split at moved
      · cases moved
      rename_i gyroQueue gyroRead
      obtain ⟨done, pairing, gyroHolds, whole⟩ := sound.read off accelRead gyroRead
      refine ⟨?_, whole⟩
      rcases pairing.run gyroHolds.increasing emptied with
        full | ⟨after, more, left, paired, pairing, same, waits⟩
      · rw [full] at moved
        cases moved
      · rw [paired] at moved
        obtain rfl := Except.ok.inj moved
        have queue : after.gyro.queue = left := by rw [same]; rfl
        refine ⟨⟨more, by rwa [queue], ?_⟩, by rwa [queue]⟩
        rw [same]
        exact ⟨pairing.split, gyroHolds.increasing, gyroHolds.bounded, gyroHolds.known⟩

/-- The streams are those of all bytes so far, however the reads cut them. -/
theorem Sound.rounds {accelSoFar gyroSoFar : List UInt8} {polls : List ImuPoll}
    (sound : thread.Sound (accelDev.samples accelSoFar) (gyroDev.samples gyroSoFar))
    (off : filter.Off) (accelWhole : accelSoFar.length % accelDev.record = 0)
    (gyroWhole : gyroSoFar.length % gyroDev.record = 0)
    (ran : polls.foldlM (ImuThread.step filter accelDev gyroDev emptied) thread = .ok next) :
    next.Sound (accelDev.samples (accelSoFar ++ accelBytes polls))
      (gyroDev.samples (gyroSoFar ++ gyroBytes polls)) := by
  induction polls generalizing thread accelSoFar gyroSoFar with
  | nil =>
      obtain rfl := Except.ok.inj ran
      simpa [accelBytes, gyroBytes] using sound
  | cons poll polls inductionHypothesis =>
      rw [List.foldlM_cons] at ran
      cases moved : thread.step filter accelDev gyroDev emptied poll with
      | error message =>
          rw [moved] at ran
          cases ran
      | ok middle =>
          rw [moved] at ran
          obtain ⟨after, accelPart, gyroPart⟩ := sound.step off moved
          rw [← ImuDev.samples_append _ _ accelWhole, ← ImuDev.samples_append _ _ gyroWhole] at after
          have all := inductionHypothesis after
            (by rw [List.length_append, Nat.add_mod, accelWhole, accelPart, Nat.zero_mod])
            (by rw [List.length_append, Nat.add_mod, gyroWhole, gyroPart, Nat.zero_mod]) ran
          rwa [List.append_assoc, List.append_assoc] at all

/-- A healthy round ends at a bound of the queues only. -/
theorem Sound.goes (sound : thread.Sound accel gyro) (off : filter.Off) {poll : ImuPoll}
    (healthy : poll.Healthy accelDev gyroDev)
    (accelStream : Streams (accel ++ accelDev.samples poll.accelData))
    (gyroStream : Streams (gyro ++ gyroDev.samples poll.gyroData)) :
    (∃ next, thread.step filter accelDev gyroDev emptied poll = .ok next) ∨
      ∃ message, QueueBound message ∧
        thread.step filter accelDev gyroDev emptied poll = .error message := by
  cases poll with
  | idle => exact .inl ⟨thread, rfl⟩
  | fails reason => exact healthy.elim
  | ready accelEvents gyroEvents =>
      obtain ⟨done, pairing, gyroHolds⟩ := sound.paired
      obtain ⟨dropped, accelHolds, _⟩ := pairing.queue
      rw [ImuThread.step]
      rcases SensorQueue.readDevice_healthy accelHolds off healthy.1 accelStream.1
          (fun sample member => accelStream.2 sample (List.mem_append_right _ member)) with
        ⟨accelQueue, accelRead⟩ | full
      · rcases SensorQueue.readDevice_healthy gyroHolds off healthy.2 gyroStream.1
            (fun sample member => gyroStream.2 sample (List.mem_append_right _ member)) with
          ⟨gyroQueue, gyroRead⟩ | full
        · obtain ⟨done, pairing, gyroHolds, _⟩ := sound.read off accelRead gyroRead
          rw [accelRead, gyroRead]
          rcases pairing.run gyroHolds.increasing emptied with full | ⟨after, _, _, paired, _⟩
          · exact .inr ⟨_, .inr rfl, full⟩
          · exact .inl ⟨after, paired⟩
        · rw [accelRead, full]
          exact .inr ⟨_, .inl rfl, rfl⟩
      · rw [full]
        exact .inr ⟨_, .inl rfl, rfl⟩

end ImuThread
end Vio
