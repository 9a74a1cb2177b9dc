import Mathlib.Tactic.Common
import Vio.Construction.ImuThread
import Vio.Library.Interpolation

namespace Vio
open Interpolation

/-- The bytes that a round read from one device. -/
def DeviceEvents.data (events : DeviceEvents) : List UInt8 :=
  match events.input with
  | some (.bytes data _) => data
  | _ => []

variable {K : Type} [Field K]

/-- The device works: it is connected, and a read returns whole records with no future times. -/
def DeviceEvents.Healthy (device : ImuDev K) (events : DeviceEvents) : Prop :=
  events.disconnected = false ∧
    match events.input with
    | none | some .again => True
    | some (.fails _) => False
    | some (.bytes data clock) => data.length ≠ 0 ∧ data.length % device.record = 0 ∧
        ∀ index sample, (device.samples data)[index]? = some sample →
          sample.1 ≤ clock index + 10000000

/-- A healthy device gives whole records. -/
theorem DeviceEvents.Healthy.whole {device : ImuDev K} {events : DeviceEvents}
    (healthy : events.Healthy device) : events.data.length % device.record = 0 := by
  obtain ⟨_, input⟩ := healthy
  unfold DeviceEvents.data
  split
  · rename_i data clock read
    rw [read] at input
    exact input.2.1
  · exact Nat.zero_mod _

/-- The filter leaves values and times as they are. -/
structure ImuLowPass.Off (filter : ImuLowPass K) : Prop where
  on : filter.on = false
  delay : filter.delay = 0

/-- Whole records in a buffer are read as if they came alone. -/
theorem ImuDev.samples_append (device : ImuDev K) {first : List UInt8} (second : List UInt8)
    (whole : first.length % device.record = 0) :
    device.samples (first ++ second) = device.samples first ++ device.samples second := by
  obtain ⟨count, length⟩ := Nat.dvd_of_mod_eq_zero whole
  have positive : 0 < device.record := by
    have := device.recordBounds.1
    omega
  have parts : (first ++ second).length / device.record = count + second.length / device.record := by
    rw [List.length_append, length, Nat.mul_add_div positive]
  have firstCount : first.length / device.record = count := by
    rw [length, Nat.mul_div_cancel_left _ positive]
  rw [samples, samples, samples, parts, firstCount, List.range_add, List.map_append, List.map_map]
  congr 1
  · apply List.map_congr_left
    intro index member
    have inside : (index + 1) * device.record ≤ first.length := by
      rw [length, Nat.mul_comm device.record]
      exact Nat.mul_le_mul_right _ (List.mem_range.mp member)
    have room : device.record ≤ (first.drop (index * device.record)).length := by
      rw [List.length_drop]
      rw [Nat.add_mul] at inside
      omega
    have before : index * device.record ≤ first.length := by
      rw [Nat.add_mul] at inside
      omega
    rw [List.drop_append_of_le_length before, List.take_append_of_le_length room]
  · apply List.map_congr_left
    intro index member
    show device.parse (((first ++ second).drop ((count + index) * device.record)).take _) = _
    have skipped : (count + index) * device.record = first.length + index * device.record := by
      rw [length, Nat.add_mul, Nat.mul_comm count]
    rw [skipped, List.drop_length_add_append]

namespace SensorQueue

/-- The queue holds the end of an increasing stream. -/
structure Holds (stream dropped : List (ImuSample K)) (sensor : SensorQueue K) : Prop where
  split : stream = dropped ++ sensor.queue
  increasing : Increasing stream
  /-- The last timestamp is the stream's, or still zero. -/
  bounded : ∀ sample ∈ stream, sample.1 ≤ sensor.last
  known : sensor.last = 0 ∨ ∃ sample ∈ stream, sample.1 = sensor.last

theorem Holds.new : Holds [] [] (empty : SensorQueue K) where
  split := rfl
  increasing := .nil
  bounded := by simp
  known := .inl rfl

variable {filter : ImuLowPass K} {stream dropped : List (ImuSample K)} {sensor next : SensorQueue K}

/-- Without a filter, a record that passes the checks joins the queue. -/
theorem receive_ok (off : filter.Off) {now : Int} {sample : ImuSample K}
    (received : sensor.receive filter now sample = .ok next) :
    sensor.last < sample.1 ∧ next.queue = sensor.queue ++ [sample] ∧ next.last = sample.1 := by
  unfold receive at received
  split at received
  · cases received
  rename_i later
  rw [not_or] at later
  dsimp only at received
  split at received
  · cases received
  split at received
  · cases received
  obtain rfl := Except.ok.inj received
  refine ⟨by omega, ?_, rfl⟩
  simp only [ImuLowPassState.step, off.on, off.delay, if_true, Int.sub_zero]

/-- A sample that is received extends the stream. -/
theorem Holds.receive (holds : sensor.Holds stream dropped) (off : filter.Off) {now : Int}
    {sample : ImuSample K} (received : sensor.receive filter now sample = .ok next) :
    next.Holds (stream ++ [sample]) dropped := by
  obtain ⟨later, queue, last⟩ := receive_ok off received
  refine ⟨?_, ?_, ?_, .inr ⟨sample, by simp, last.symm⟩⟩
  · rw [holds.split, queue, List.append_assoc]
  · apply List.pairwise_append.mpr
    refine ⟨holds.increasing, List.pairwise_singleton .., fun earlier member other same => ?_⟩
    rw [List.mem_singleton.mp same]
    have := holds.bounded earlier member
    omega
  · intro other member
    rw [last]
    rcases List.mem_append.mp member with member | member
    · have := holds.bounded other member
      omega
    · rw [List.mem_singleton.mp member]

/-- The samples of one read extend the stream in their order. -/
theorem Holds.receiveAll (holds : sensor.Holds stream dropped) (off : filter.Off)
    {clock : Nat → Int} {index : Nat} {samples : List (ImuSample K)}
    (received : sensor.receiveAll filter clock index samples = .ok next) :
    next.Holds (stream ++ samples) dropped := by
  induction samples generalizing sensor stream index with
  | nil =>
      obtain rfl := Except.ok.inj received
      rwa [List.append_nil]
  | cons sample samples inductionHypothesis =>
      simp only [SensorQueue.receiveAll] at received
      split at received
      · cases received
      · rename_i middle one
        have whole := inductionHypothesis (holds.receive off one) received
        rwa [List.append_assoc] at whole

/-- A round extends the stream by the samples of what it read, and it read whole records. -/
theorem Holds.readDevice (holds : sensor.Holds stream dropped) (off : filter.Off)
    {device : ImuDev K} {events : DeviceEvents}
    (read : sensor.readDevice filter device events = .ok next) :
    next.Holds (stream ++ device.samples events.data) dropped ∧
      events.data.length % device.record = 0 := by
  have nothing : device.samples [] = [] := by simp [ImuDev.samples]
  unfold SensorQueue.readDevice at read
  split at read
  · cases read
  split at read
  · rename_i quiet
    obtain rfl := Except.ok.inj read
    rw [DeviceEvents.data, quiet, nothing, List.append_nil]
    exact ⟨holds, Nat.zero_mod _⟩
  · rename_i quiet
    obtain rfl := Except.ok.inj read
    rw [DeviceEvents.data, quiet, nothing, List.append_nil]
    exact ⟨holds, Nat.zero_mod _⟩
  · cases read
  · rename_i data clock input
    split at read
    · cases read
    split at read
    · cases read
    rename_i whole
    rw [DeviceEvents.data, input]
    exact ⟨holds.receiveAll off read, not_not.mp whole⟩

/-- A newer sample of the stream passes every check but the bound of the queue. -/
theorem Holds.accepts (holds : sensor.Holds stream dropped) (off : filter.Off) {now : Int}
    {sample : ImuSample K} (newer : ∀ earlier ∈ stream, earlier.1 < sample.1)
    (positive : 0 < sample.1) (past : sample.1 ≤ now + 10000000) :
    (∃ next, sensor.receive filter now sample = .ok next) ∨
      sensor.receive filter now sample = .error "unpaired IMU queue overflow" := by
  have later : ¬ (sample.1 ≤ sensor.last ∨ sample.1 > now + 10000000) := by
    rcases holds.known with zero | ⟨earlier, member, same⟩
    · omega
    · have := newer earlier member
      omega
  have increases : ¬ (sensor.queue.getLast?.any fun back => decide (sample.1 - filter.delay ≤ back.1)) := by
    rw [off.delay, Int.sub_zero, Option.any_eq_true]
    rintro ⟨back, found, early⟩
    have := newer back (by
      rw [holds.split]
      exact List.mem_append_right _ (List.mem_of_getLast? found))
    have early := of_decide_eq_true early
    omega
  unfold SensorQueue.receive
  rw [if_neg later]
  dsimp only
  rw [if_neg increases]
  split
  · exact .inr rfl
  · exact .inl ⟨_, rfl⟩

/-- Samples of a healthy device are refused only because the queue is full. -/
theorem receiveAll_healthy (holds : sensor.Holds stream dropped) (off : filter.Off)
    {clock : Nat → Int} {index : Nat} {samples : List (ImuSample K)}
    (increasing : Increasing (stream ++ samples)) (positive : ∀ sample ∈ samples, 0 < sample.1)
    (past : ∀ offset sample, samples[offset]? = some sample →
      sample.1 ≤ clock (index + offset) + 10000000) :
    (∃ next, sensor.receiveAll filter clock index samples = .ok next) ∨
      sensor.receiveAll filter clock index samples = .error "unpaired IMU queue overflow" := by
  induction samples generalizing sensor stream index with
  | nil => exact .inl ⟨sensor, rfl⟩
  | cons sample samples inductionHypothesis =>
      have newer : ∀ earlier ∈ stream, earlier.1 < sample.1 := fun earlier member =>
        (List.pairwise_append.mp increasing).2.2 earlier member sample (List.mem_cons_self ..)
      have timely : sample.1 ≤ clock index + 10000000 := past 0 sample rfl
      rw [SensorQueue.receiveAll]
      rcases holds.accepts off newer (positive sample (List.mem_cons_self ..)) timely with
        ⟨next, received⟩ | full
      · rw [List.append_cons] at increasing
        rw [received]
        apply inductionHypothesis (holds.receive off received) increasing
        · exact fun later member => positive later (List.mem_cons_of_mem _ member)
        · intro offset later found
          have := past (offset + 1) later found
          rwa [← Nat.add_assoc, Nat.add_right_comm] at this
      · rw [full]
        exact .inr rfl

/-- Healthy events with a newer part of an increasing stream end at the bound of the queue only. -/
theorem readDevice_healthy (holds : sensor.Holds stream dropped) (off : filter.Off)
    {device : ImuDev K} {events : DeviceEvents} (healthy : events.Healthy device)
    (increasing : Increasing (stream ++ device.samples events.data))
    (positive : ∀ sample ∈ device.samples events.data, 0 < sample.1) :
    (∃ next, sensor.readDevice filter device events = .ok next) ∨
      sensor.readDevice filter device events = .error "unpaired IMU queue overflow" := by
  obtain ⟨connected, input⟩ := healthy
  unfold SensorQueue.readDevice
  rw [connected, if_neg (by simp)]
  unfold DeviceEvents.data at increasing positive
  cases read : events.input with
  | none => exact .inl ⟨sensor, rfl⟩
  | some result =>
      rw [read] at input increasing positive
      cases result with
      | again => exact .inl ⟨sensor, rfl⟩
      | fails reason => exact input.elim
      | bytes data clock =>
          obtain ⟨some_, whole, past⟩ := input
          dsimp only
          rw [if_neg some_, if_neg (not_not.mpr whole)]
          apply receiveAll_healthy holds off increasing positive
          intro offset sample found
          rw [Nat.zero_add]
          exact past offset sample found

end SensorQueue
end Vio
