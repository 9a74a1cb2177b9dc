import Mathlib.Data.Rat.Floor
import Vio.Proof.Camera.Callbacks
import Vio.Proof.Camera.Extraction

namespace Vio
open CameraCapture History SourceEvent

namespace LibcameraSource
variable {K : Type} [Field K] [LinearOrder K] {exposure : Option (Exposure K)}
  {source : LibcameraSource K}

section Start
variable [FloorRing K]

/-- In every interleaving after a start the queue is the outcome of the callbacks, the faults, the reads
and the end of the stop, and the reads return only frames that the callbacks pushed; the callbacks are
those of the completed requests, all of them before a fault or a stop. Before the first fault a pushed
frame belongs to at least the eleventh callback, its own request and the two before it reported the
requested exposure, and its timestamp is the one of its sensor minus the offset of the start, close to
the clock of its callback and larger than every earlier one. The callbacks from the sixtieth on settle
where the completed requests do whose number has wrapped, and just where those of them do that raise no
fault. A read after a fault throws the first one. -/
theorem frames_settled {started last : LibcameraSource K} {fps : K} {answers : StartAnswers}
    {actions : List (SourceAction K)}
    (began : source.start fps exposure answers = (started, .ok ()))
    (ran : started.run actions = some last) :
    (last.frames = (CameraQueue.reset {}).run (heard queueAction last.history) ∧
        ((CameraQueue.reset {}).returned (heard queueAction last.history) ++ last.frames.frames).Sublist
          (heard delivered last.history)) ∧
      ((heard SourceEvent.request last.history).Sublist (actions.filterMap SourceAction.live) ∧
        (heard thrown last.history = [] → (∀ action ∈ actions, action.stops = false) →
          heard SourceEvent.request last.history = actions.filterMap SourceAction.live)) ∧
      (∃ offset, clockOffset answers.clocks = .ok offset ∧
        Always (Lawful offset exposure) last.history) ∧
      (Always (Settles Late exposure) last.history ↔ Always (Settles Wrapped exposure) last.history) ∧
      (WrapsReported exposure (actions.filterMap SourceAction.live) →
        Always (Settles Late exposure) last.history) ∧
      ∀ before after, actions = before ++ .read :: after → ∃ middle,
        started.run before = some middle ∧ started.run (before ++ [.read]) = some middle.read.2 ∧
        ∀ first, (heard thrown middle.history).head? = some first → middle.read.1 = .throws first := by
  obtain ⟨offset, sampled, sound, followed⟩ := start_ok began
  have kept {actions : List (SourceAction K)} {last : LibcameraSource K}
      (ran : started.run actions = some last) : Sound offset exposure last :=
    PartialRun.invariant (Sound offset exposure) (fun _ _ _ moved sound => sound.step moved) ran sound
  have final := kept ran
  have whole : last.Followed actions :=
    PartialRun.traced (fun actions source => source.Followed actions)
      (fun _ _ _ _ moved followed => followed.step moved) ran followed
  have settled := settles_late final.settles
  have since := CameraQueue.Sound.run {} (reset_not_heard last.history)
  have pushed : (QueueAction.entered (heard queueAction last.history)).Sublist
      (heard delivered last.history) := by
    rw [← pushes_heard]
    exact (List.takeWhile_sublist _).filterMap _
  refine ⟨⟨final.queue, final.queue ▸ since.ordered.trans pushed⟩,
    ⟨whole.among, fun unfailed quiet => whole.all (whole.running quiet) unfailed⟩,
    ⟨offset, sampled, final.lawful⟩, settled,
    fun reported => settled.mpr (settles_wrapped whole.leads reported), ?_⟩
  · rintro before after rfl
    rw [LibcameraSource.run, List.foldlM_append] at ran
    obtain ⟨middle, reached, _⟩ := Option.bind_eq_some_iff.mp ran
    refine ⟨middle, reached, PartialRun.run_append reached rfl, fun first faulted => ?_⟩
    have since := CameraQueue.Sound.run {} (reset_not_heard middle.history)
    have error := since.error
    rw [← (kept reached).queue, failures_heard, faulted] at error
    rw [LibcameraSource.read, CameraQueue.read, error]

end Start

section Sample

def sampleExposure : Exposure ℚ := ⟨100, 1⟩

/-- The answers of a start at twenty frames a second. -/
def sampleAnswers : StartAnswers where
  configured := .ok (2560, true)
  clocks := [.ok ⟨0, 1005, 10⟩]

def sampleStarted : LibcameraSource ℚ where
  frames := CameraQueue.reset {}
  stopping := false
  running := true
  highByte := true
  stride := 2560
  offset := 1000
  durationUs := 50000
  exposure := some sampleExposure

theorem frameDuration_twenty : frameDuration (20 : ℚ) = 50000 := by
  norm_num [frameDuration, SensorRunner.llround, round_eq, Int.floor_eq_iff]

theorem start_sample : ({} : LibcameraSource ℚ).start 20 (some sampleExposure) sampleAnswers =
    (sampleStarted, .ok ()) := by
  have sampled : clockOffset [.ok ⟨0, 1005, 10⟩] = .ok 1000 := by decide
  norm_num [start, stop, close, launch, frameDuration_twenty, sampled, sampleAnswers, sampleStarted,
    sampleExposure, allowsExposure, CameraQueue.reset]

/-- A whole request with this shutter. -/
def sampleRequest (index : Nat) (shutter : Int) : Request ℚ where
  timestamp := some (2001 + index)
  shutter := some shutter
  gain := some 1
  duration := some 50000
  clocks := [.ok ⟨0, 1005, 10⟩]
  now := .ok (1001 + index)
  data := fun _ => 0
  bytesUsed := 2048000
  mapped := 2048000
  sequence := index

/-- A callback without a stop, and the return of its request. -/
def callback (request : Request ℚ) : List (SourceAction ℚ) :=
  [.completed request false, .requeue (.ok ())]

/-- So many callbacks with the requested exposure. -/
def matching (number : Nat) : List (SourceAction ℚ) :=
  (List.range number).flatMap fun index => callback (sampleRequest index 100)

/-- The source after so many callbacks with the requested exposure. -/
structure Matched (number : Nat) (source : LibcameraSource ℚ) : Prop where
  running : source.stopping = false
  idle : source.requeueing = false
  format : source.stride = 2560 ∧ source.highByte = true ∧ source.durationUs = 50000
  offset : source.offset = 1000
  exposure : source.exposure = some sampleExposure
  previous : source.previous ≤ 1000 + number
  received : source.received = UInt32.ofNat number
  settled : source.settled = UInt32.ofNat number
  unfailed : heard thrown source.history = []
  many : (requests source.history).length = number
  pushed : number < 2 ^ 32 → (heard delivered source.history).length = number - 10

/-- A source that was started has matched no callback. -/
theorem matched_started : Matched 0 sampleStarted where
  running := rfl
  idle := rfl
  format := ⟨rfl, rfl, rfl⟩
  offset := rfl
  exposure := rfl
  previous := by decide
  received := rfl
  settled := rfl
  unfailed := rfl
  many := rfl
  pushed := fun _ => rfl

variable {number : Nat} {source : LibcameraSource ℚ}

/-- The metadata of the next request passes every check. -/
theorem Matched.readMetadata (matched : Matched number source) {shutter : Int} (positive : 0 < shutter) :
    source.readMetadata (sampleRequest number shutter) = .ok (1001 + number, shutter, 1) := by
  have sampled : clockOffset [.ok ⟨0, 1005, 10⟩] = .ok 1000 := by decide
  have stamped : cameraTimestamp (2001 + number) 1000 (1001 + number) source.previous =
      .ok (1001 + number) := by
    have previous := matched.previous
    have time : (2001 : Int) + number - 1000 = 1001 + number := by omega
    rw [cameraTimestamp, if_neg (by omega)]
    dsimp only
    rw [time, if_neg (by omega)]
  have valid : ¬ (shutter ≤ 0 ∨ (1 : ℚ) ≤ 0) := by
    rintro (small | small)
    · exact absurd positive (not_lt.mpr small)
    · norm_num at small
  simp only [LibcameraSource.readMetadata, sampleRequest, matched.offset, Bool.true_eq_false, if_false,
    sampled, if_neg valid, stamped]
  norm_num

/-- The source after a callback with this frame, once its request went back. -/
def called (source : LibcameraSource ℚ) (number : Nat) (shutter : Int)
    (frame : Option (CameraCapture.CameraFrame ℚ)) : LibcameraSource ℚ :=
  { source.count (1001 + number) shutter 1 with
    frames := (frame.map source.frames.push).getD source.frames
    requeueing := false
    history := .callback (sampleRequest number shutter) frame :: source.history }

/-- The callback of the next request, if it raises nothing. -/
theorem Matched.callback (matched : Matched number source) {shutter : Int} (positive : 0 < shutter)
    {frame : Option (CameraCapture.CameraFrame ℚ)}
    (decided : (source.count (1001 + number) shutter 1).frameOf (sampleRequest number shutter)
      (1001 + number) shutter 1 = .ok frame) :
    source.run (callback (sampleRequest number shutter)) =
      some (source.called number shutter frame) := by
  have read := matched.readMetadata positive
  have idle := matched.idle
  have running := matched.running
  obtain ⟨frames, stopping, active, highByte, stride, received, settled, offset, previous, durationUs,
    exposure, requeueing, history⟩ := source
  cases idle
  cases running
  rw [LibcameraSource.run, LibcameraSource.callback, List.foldlM_cons, step, if_neg Bool.false_ne_true,
    completed, if_neg (by simp [sampleRequest])]
  dsimp only
  rw [read]
  dsimp only
  rw [decided]
  rfl

theorem matches_requested : matchesExposure (some sampleExposure) 100 (1 : ℚ) = true := by
  norm_num [matchesExposure, sampleExposure]

theorem matches_doubled : matchesExposure (some sampleExposure) 200 (1 : ℚ) = false := by
  norm_num [matchesExposure, sampleExposure]

omit [Field K] [LinearOrder K] in
/-- A copy that fits into its mapping and succeeds. -/
theorem copyPixels_ok {source : LibcameraSource K} {request : Request K} {pixels : List UInt8}
    (mapped : ¬ request.bytesUsed > request.mapped) (started : request.syncStart = .ok ())
    (ended : request.syncEnd = .ok ())
    (copied : copyMonoFrame (some request.data) request.bytesUsed source.stride source.highByte =
      .ok pixels) : source.copyPixels request = .ok pixels := by
  rw [LibcameraSource.copyPixels, if_neg mapped, started]
  dsimp only
  rw [copied, ended]

/-- The pixels of each request pass the extraction. -/
theorem Matched.copyPixels (matched : Matched number source) (shutter : Int) :
    (source.count (1001 + number) shutter 1).copyPixels (sampleRequest number shutter) =
      .ok (pixelsOf (fun _ => 0) 2560 true) := by
  have fits : Fits 2048000 2560 true := by
    constructor <;> norm_num [width_eq, height_eq, pixelStep]
  have stride : (source.count (1001 + number) shutter 1).stride = 2560 := matched.format.1
  have highByte : (source.count (1001 + number) shutter 1).highByte = true := matched.format.2.1
  refine copyPixels_ok (lt_irrefl 2048000) rfl rfl ?_
  rw [stride, highByte]
  exact copyMonoFrame_clear fits fun _ _ _ _ tainted => tainted.2 rfl

/-- A matching callback raises nothing, and delivers its frame from the eleventh one on. -/
theorem Matched.frameOf (matched : Matched number source) :
    ∃ frame, (source.count (1001 + number) 100 1).frameOf (sampleRequest number 100)
        (1001 + number) 100 1 = .ok frame ∧
      (number + 1 < 2 ^ 32 → frame.isSome = decide (10 ≤ number)) := by
  have counted : UInt32.ofNat number + 1 = UInt32.ofNat (number + 1) := (UInt32.ofNat_add number 1).symm
  have received : (source.count (1001 + number) 100 1).received = UInt32.ofNat (number + 1) := by
    rw [count, matched.received, counted]
  have settled : (source.count (1001 + number) 100 1).settled = UInt32.ofNat (number + 1) := by
    rw [count, matched.exposure, matches_requested, if_pos rfl, matched.settled, counted]
  have value : (UInt32.ofNat (number + 1)).toNat = (number + 1) % 2 ^ 32 := UInt32.toNat_ofNat'
  have applied : ¬ (UInt32.ofNat (number + 1) ≥ 60 ∧ UInt32.ofNat (number + 1) < 3) := by
    rw [ge_iff_le, UInt32.le_iff_toNat_le, UInt32.lt_iff_toNat_lt]
    exact fun both => absurd (both.1.trans_lt both.2) (by decide)
  have ready : UInt32.ofNat (number + 1) > 10 ∧ UInt32.ofNat (number + 1) ≥ 3 ↔
      10 < (number + 1) % 2 ^ 32 := by
    rw [gt_iff_lt, ge_iff_le, UInt32.le_iff_toNat_le, UInt32.lt_iff_toNat_lt, value]
    exact ⟨And.left, fun large => ⟨large, le_of_lt (lt_trans (by decide) large)⟩⟩
  rw [LibcameraSource.frameOf, received, settled, if_neg applied]
  by_cases large : 10 < (number + 1) % 2 ^ 32
  · have steady : ((sampleRequest number 100).duration.all fun duration =>
        decide (|duration - (source.count (1001 + number) 100 1).durationUs| >
          max 100 ((source.count (1001 + number) 100 1).durationUs.tdiv 20))) = false := by
      rw [count, matched.format.2.2]
      rfl
    rw [if_pos (ready.mpr large), steady, if_neg Bool.false_ne_true, matched.copyPixels]
    refine ⟨_, rfl, fun small => ?_⟩
    rw [Nat.mod_eq_of_lt small] at large
    exact (decide_eq_true (Nat.le_of_lt_succ large)).symm
  · rw [if_neg (mt ready.mp large)]
    refine ⟨_, rfl, fun small => ?_⟩
    rw [Nat.mod_eq_of_lt small] at large
    exact (decide_eq_false fun many => large (Nat.lt_succ_of_le many)).symm

/-- One more callback with the requested exposure. -/
theorem Matched.next (matched : Matched number source) : ∃ next,
    source.run (LibcameraSource.callback (sampleRequest number 100)) = some next ∧
      Matched (number + 1) next := by
  obtain ⟨frame, decided, delivers⟩ := matched.frameOf
  have counted : UInt32.ofNat number + 1 = UInt32.ofNat (number + 1) := (UInt32.ofNat_add number 1).symm
  refine ⟨_, matched.callback (by decide) decided, ?_⟩
  constructor
  · exact matched.running
  · rfl
  · exact matched.format
  · exact matched.offset
  · exact matched.exposure
  · rw [called, count]
    push_cast
    omega
  · rw [called, count, matched.received, counted]
  · rw [called, count, matched.exposure, matches_requested, if_pos rfl, matched.settled, counted]
  · rw [called, heard_cons_none rfl]
    exact matched.unfailed
  · exact congrArg Nat.succ matched.many
  · intro small
    have before := matched.pushed (Nat.lt_of_succ_lt small)
    have isSome := delivers small
    rw [called]
    cases frame with
    | none =>
        have early : ¬ 10 ≤ number := of_decide_eq_false isSome.symm
        rw [heard_cons_none rfl]
        exact before.trans (by omega)
    | some frame =>
        have late : 10 ≤ number := of_decide_eq_true isSome.symm
        rw [heard_delivered_some, List.length_append]
        exact (congrArg Nat.succ before).trans (by omega)

theorem matching_succ (number : Nat) :
    matching (number + 1) = matching number ++ LibcameraSource.callback (sampleRequest number 100) := by
  rw [matching, List.range_succ, List.flatMap_append, List.flatMap_singleton, matching]

/-- However many callbacks match, each of them passes. -/
theorem run_matching (number : Nat) : ∃ source,
    sampleStarted.run (matching number) = some source ∧ Matched number source := by
  induction number with
  | zero => exact ⟨sampleStarted, rfl, matched_started⟩
  | succ number inductionHypothesis =>
      obtain ⟨source, ran, matched⟩ := inductionHypothesis
      obtain ⟨next, moved, further⟩ := matched.next
      refine ⟨next, ?_, further⟩
      rw [matching_succ]
      exact PartialRun.run_append ran moved

/-- The counters after a callback with the doubled shutter. -/
theorem Matched.doubled (matched : Matched number source) :
    (source.count (1001 + number) 200 1).received.toNat = (number + 1) % 2 ^ 32 ∧
      (source.count (1001 + number) 200 1).settled = 0 := by
  have counted : UInt32.ofNat number + 1 = UInt32.ofNat (number + 1) := (UInt32.ofNat_add number 1).symm
  constructor
  · rw [count, matched.received, counted]
    exact UInt32.toNat_ofNat'
  · rw [count, matched.exposure, matches_doubled, if_neg Bool.false_ne_true]

/-- A callback with the doubled shutter raises nothing where the counter is small. -/
theorem Matched.mismatch (matched : Matched number source) (small : (number + 1) % 2 ^ 32 < 60) :
    source.run (LibcameraSource.callback (sampleRequest number 200)) =
      some (source.called number 200 none) := by
  apply matched.callback (by decide)
  obtain ⟨received, settled⟩ := matched.doubled
  rw [LibcameraSource.frameOf, settled, if_neg, if_neg]
  · exact fun both => absurd both.2 (by decide)
  · rw [ge_iff_le, UInt32.le_iff_toNat_le, received]
    exact fun both => absurd both.1 (not_le.mpr small)

/-- A callback with the doubled shutter raises a fault where the counter is large. -/
theorem Matched.refused (matched : Matched number source) (large : 60 ≤ (number + 1) % 2 ^ 32) :
    source.step (.completed (sampleRequest number 200) false) =
      some ((source.count (1001 + number) 200 1).fail
        (.runtimeError "camera did not apply requested exposure")) := by
  have decided : (source.count (1001 + number) 200 1).frameOf (sampleRequest number 200)
      (1001 + number) 200 1 = .error (.runtimeError "camera did not apply requested exposure") := by
    obtain ⟨received, settled⟩ := matched.doubled
    rw [LibcameraSource.frameOf, settled, if_pos]
    rw [ge_iff_le, UInt32.le_iff_toNat_le, received]
    exact ⟨large, by decide⟩
  have read := matched.readMetadata (show (0 : Int) < 200 by decide)
  have idle := matched.idle
  have running := matched.running
  obtain ⟨frames, stopping, active, highByte, stride, received, settled, offset, previous, durationUs,
    exposure, requeueing, history⟩ := source
  cases idle
  cases running
  rw [step, if_neg Bool.false_ne_true, completed, if_neg (by simp [sampleRequest])]
  dsimp only
  rw [read]
  dsimp only
  rw [decided]
  rfl

/-- Sixty callbacks with the requested exposure, one with the doubled shutter, and a read. -/
def sampleActions : List (SourceAction ℚ) :=
  matching 60 ++ [.completed (sampleRequest 60 200) false] ++ [.read]

/-- Fifty frames are delivered, and the read throws what the last callback raised. -/
theorem frames_settled_doubled : ∃ last, sampleStarted.run sampleActions = some last ∧
    (heard delivered last.history).length = 50 ∧
    Always (Lawful 1000 (some sampleExposure)) last.history ∧
    Always (Settles Late (some sampleExposure)) last.history ∧
    ∃ middle, sampleStarted.run (matching 60 ++ [.completed (sampleRequest 60 200) false]) =
        some middle ∧
      middle.read.1 = .throws (.runtimeError "camera did not apply requested exposure") := by
  obtain ⟨source, ran, matched⟩ := run_matching 60
  have refused := matched.refused (by decide)
  have reached : sampleStarted.run (matching 60 ++ [.completed (sampleRequest 60 200) false]) =
      some ((source.count (1001 + (60 : Nat)) 200 1).fail
        (.runtimeError "camera did not apply requested exposure")) := by
    refine PartialRun.run_append ran ?_
    rw [List.foldlM_cons, refused]
    rfl
  have whole := PartialRun.run_append reached (show List.foldlM step _ [.read] = _ from rfl)
  obtain ⟨_, _, ⟨offset, sampled, lawful⟩, _, settles, reads⟩ := frames_settled start_sample whole
  obtain rfl : (1000 : Int) = offset := Except.ok.inj sampled
  obtain ⟨middle, same, _, throws⟩ := reads _ [] rfl
  obtain rfl := Option.some.inj (reached.symm.trans same)
  refine ⟨_, whole, ?_, lawful, settles (wrapsReported_few (by decide)), _, reached, throws _ ?_⟩
  · exact matched.pushed (by decide)
  · rw [LibcameraSource.fail, heard_thrown_fault]
    exact congrArg (fun faults => (faults ++ [_]).head?) matched.unfailed

/-- A callback with the doubled shutter does not settle. -/
theorem Matched.unsettled (matched : Matched number source) (late : Late (number + 1)) :
    ¬ Always (Settles Late (some sampleExposure)) (source.called number 200 none).history := by
  intro settles
  have settled := settles.head matched.unfailed _ _ rfl (by rw [matched.many]; exact late)
  have reported := settled.2 (sampleRequest number 200) List.mem_cons_self
  exact absurd (matches_doubled.symm.trans reported) Bool.false_ne_true

/-- After 2^32 callbacks with the requested exposure a callback with the doubled shutter raises
nothing. -/
theorem late_callback_unsettled :
    ¬ ∀ (started last : LibcameraSource ℚ) (answers : StartAnswers) (actions : List (SourceAction ℚ)),
      ({} : LibcameraSource ℚ).start 20 (some sampleExposure) answers = (started, .ok ()) →
      started.run actions = some last → Always (Settles Late (some sampleExposure)) last.history := by
  intro claimed
  obtain ⟨source, ran, matched⟩ := run_matching (2 ^ 32)
  have small : (2 ^ 32 + 1) % 2 ^ 32 < 60 := by norm_num
  have late : Late (2 ^ 32 + 1) := by norm_num [Late]
  exact matched.unsettled late
    (claimed _ _ _ _ start_sample (PartialRun.run_append ran (matched.mismatch small)))

end Sample

end LibcameraSource
end Vio
