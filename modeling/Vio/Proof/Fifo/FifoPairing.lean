import Vio.Library.FallibleLoop
import Vio.Proof.Fifo.FifoSteps

namespace Vio

namespace FifoCapture
open FrameReplay MetaThread

/-- Frames that precede what the frame thread gives later. -/
def after (handed : List (Int × List UInt8)) (later : List (Int × List UInt8) × Option String) :
    List (Int × List UInt8) × Option String :=
  (handed ++ later.1, later.2)

/-- The frame thread goes on as one pass over its whole input would after these timestamps. -/
def Continues (capture : FifoCapture) (frames : List UInt8) (taken : List Int) : Prop :=
  (∀ thrown, capture.stage = .threw thrown → ∃ polling reason,
    thrown = readFailure polling reason) ∧
  ∀ later, frameThread capture.npx 0 frames (taken ++ later) =
    after capture.handed
      (frameThread capture.npx capture.handed.length (capture.raw ++ capture.frameInput) later)

/-- One pass over the whole input refuses the frame after these timestamps. -/
def Refused (capture : FifoCapture) (frames : List UInt8) (taken : List Int) : Prop :=
  ∃ reason, capture.stage = .threw (.runtimeError reason) ∧
    ∀ later, frameThread capture.npx 0 frames (taken ++ later) = (capture.handed, some reason)

/-- The count and the bytes of the current frame. -/
def Counted (capture : FifoCapture) : Prop :=
  match capture.stage with
  | .filling | .polling =>
      capture.idx = capture.handed.length ∧ capture.raw.length < 2 * capture.npx
  | .pairing =>
      capture.idx = capture.handed.length + 1 ∧ capture.raw.length = 2 * capture.npx
  | .ended | .threw _ => True

/-- Why the frame thread ended. -/
def Exhausted (capture : FifoCapture) : Prop :=
  capture.stop = true ∨ (capture.raw ++ capture.frameInput).length < 2 * capture.npx ∨
    (capture.metadata.metaTs = [] ∧ capture.metadata.metaDone = true)

/-- What holds between the transitions of a capture that reads these frames and this text. -/
structure Sound (frames text : List UInt8) (capture : FifoCapture) : Prop where
  scanned : capture.metadata.Sound
  whole : capture.metadata.text ++ capture.metadataInput = text
  pushed : ∃ before later, numbers text = before ++ later ∧
    before.mapM stoll = .ok capture.metadata.pushed
  ends : capture.metadata.Ends
  polls : capture.metadataPolls = true → capture.metadata.stage = .reading
  closed : capture.metadata.stage = .done → capture.stop = true ∨ capture.metadataInput = []
  counted : capture.Counted
  paired : ∃ taken, capture.metadata.pushed = taken ++ capture.metadata.metaTs ∧
    (capture.Continues frames taken ∨ capture.Refused frames taken)
  exhausted : capture.stage = .ended → capture.Exhausted

variable {capture next : FifoCapture} {frames text : List UInt8}

section Metadata

/-- A step of the metadata thread alone, which may take bytes of its input. -/
structure MetadataMove (capture next : FifoCapture) : Prop where
  npx : next.npx = capture.npx
  frameInput : next.frameInput = capture.frameInput
  stop : next.stop = capture.stop
  stage : next.stage = capture.stage
  raw : next.raw = capture.raw
  idx : next.idx = capture.idx
  handed : next.handed = capture.handed

theorem MetadataMove.counted (move : MetadataMove capture next) (counted : capture.Counted) :
    next.Counted := by
  unfold Counted at counted ⊢
  rw [move.stage, move.idx, move.handed, move.raw, move.npx]
  exact counted

/-- A move of the metadata thread leaves what the frame thread has paired. -/
theorem MetadataMove.paired (move : MetadataMove capture next) {taken : List Int}
    (paired : capture.Continues frames taken ∨ capture.Refused frames taken) :
    next.Continues frames taken ∨ next.Refused frames taken := by
  rcases paired with continues | refused
  · refine .inl ⟨?_, ?_⟩
    · rw [move.stage]
      exact continues.1
    · rw [move.handed, move.raw, move.npx, move.frameInput]
      exact continues.2
  · unfold Refused at refused ⊢
    rw [move.stage, move.handed, move.npx]
    exact .inr refused

/-- The frame thread does not see a step of the metadata thread that takes no timestamp. -/
theorem Sound.metadata (sound : capture.Sound frames text) (move : MetadataMove capture next)
    {action : MetaAction} (moved : capture.metadata.step action = some next.metadata)
    (other : action ≠ .take)
    (whole : next.metadata.text ++ next.metadataInput = text)
    (polls : next.metadataPolls = true → next.metadata.stage = .reading)
    (closed : next.metadata.stage = .done → next.stop = true ∨ next.metadataInput = []) :
    next.Sound frames text := by
  have scanned := sound.scanned.step moved
  refine ⟨scanned, whole, ?_, sound.ends.step moved, polls, closed, move.counted sound.counted, ?_,
    fun ended => ?_⟩
  · by_cases alive : ∀ thrown, next.metadata.stage ≠ .threw thrown
    · obtain ⟨before, read, split⟩ := scanned.split alive
      exact ⟨before, _, by rw [← whole]; exact split _, read⟩
    · push Not at alive
      obtain ⟨thrown, threw⟩ := alive
      rw [step_threw moved threw]
      exact sound.pushed
  · obtain ⟨taken, split, paired⟩ := sound.paired
    rcases step_queue moved with ⟨_, new, pushed, queue⟩ | ⟨same, _⟩
    · exact ⟨taken, by rw [pushed, queue, split, List.append_assoc], move.paired paired⟩
    · exact absurd same other
  · have before := sound.exhausted (move.stage ▸ ended)
    unfold Exhausted at before ⊢
    rw [move.stop, move.raw, move.frameInput, move.npx]
    refine before.imp_right (Or.imp_right fun alone => ?_)
    have done := sound.ends alone.2
    cases action with
    | read bytes =>
        obtain ⟨⟨reading, _⟩, _⟩ := Option.ite_none_right_eq_some.mp moved
        rw [done] at reading
        cases reading
    | scan =>
        obtain ⟨scanning, _⟩ := Option.ite_none_right_eq_some.mp moved
        rw [done] at scanning
        cases scanning
    | close =>
        obtain ⟨reading, _⟩ := Option.ite_none_right_eq_some.mp moved
        rw [done] at reading
        cases reading
    | take => exact absurd rfl other

/-- What is read from the metadata pipe is the next part of the text. -/
theorem Sound.readMetadata (sound : capture.Sound frames text) {count : Nat}
    (moved : capture.readMetadata count = some next) : next.Sound frames text := by
  unfold FifoCapture.readMetadata at moved
  split at moved
  · cases moved
  rename_i allowed
  rw [not_or, Nat.not_lt] at allowed
  split at moved
  · split at moved
    · rename_i empty
      obtain ⟨metadata, closes, rfl⟩ := Option.map_eq_some_iff.mp moved
      refine sound.metadata ⟨rfl, rfl, rfl, rfl, rfl, rfl, rfl⟩ closes (by simp) ?_ nofun
        fun _ => .inr empty
      rw [step_text closes, show MetaAction.close.chunk = [] from rfl, List.append_nil]
      exact sound.whole
    · cases moved
  · obtain ⟨metadata, reads, rfl⟩ := Option.map_eq_some_iff.mp moved
    refine sound.metadata ⟨rfl, rfl, rfl, rfl, rfl, rfl, rfl⟩ reads (by simp) ?_ nofun fun done => ?_
    · rw [step_text reads, MetaAction.chunk, List.append_assoc, List.take_append_drop]
      exact sound.whole
    · obtain ⟨_, same⟩ := Option.ite_none_right_eq_some.mp reads
      rw [← Option.some.inj same] at done
      revert done
      unfold MetaThread.append
      dsimp only
      split <;> exact nofun

/-- A check of the metadata pipe changes nothing but the place of the thread. -/
theorem Sound.checkMetadata (sound : capture.Sound frames text)
    (moved : capture.step .checkMetadata = some next) : next.Sound frames text := by
  obtain ⟨⟨reading, idle⟩, moved⟩ := Option.ite_none_right_eq_some.mp moved
  split at moved
  · rename_i stopped
    obtain ⟨metadata, closes, rfl⟩ := Option.map_eq_some_iff.mp moved
    refine sound.metadata ⟨rfl, rfl, rfl, rfl, rfl, rfl, rfl⟩ closes (by simp) ?_ ?_
      fun _ => .inl stopped
    · rw [step_text closes, show MetaAction.close.chunk = [] from rfl, List.append_nil]
      exact sound.whole
    · intro polls
      rw [show capture.metadataPolls = true from polls] at idle
      cases idle
  · cases moved
    exact { sound with polls := fun _ => reading }

/-- A failed read ends the metadata thread and leaves what was parsed. -/
theorem Sound.failMetadata (sound : capture.Sound frames text) {polling : Bool} {reason : String}
    (moved : capture.step (.failMetadata polling reason) = some next) : next.Sound frames text := by
  obtain ⟨polls, ⟨⟩⟩ := Option.ite_none_right_eq_some.mp moved
  have reading := sound.polls polls
  refine { sound with
    scanned := ⟨fun alive => absurd rfl (alive _), nofun⟩
    ends := fun done => ?_
    polls := nofun
    closed := nofun }
  have ended : capture.metadata.stage = .done := sound.ends done
  rw [reading] at ended
  cases ended

/-- A scan parses what the buffer holds, which is a part of the one-pass scan. -/
theorem Sound.scan (sound : capture.Sound frames text) (moved : capture.step .scan = some next) :
    next.Sound frames text := by
  obtain ⟨metadata, scans, rfl⟩ := Option.map_eq_some_iff.mp moved
  have scanning := (Option.ite_none_right_eq_some.mp scans).1
  refine sound.metadata ⟨rfl, rfl, rfl, rfl, rfl, rfl, rfl⟩ scans (by simp) ?_ ?_ fun done => ?_
  · rw [step_text scans, show MetaAction.scan.chunk = [] from rfl, List.append_nil]
    exact sound.whole
  · intro polls
    rw [sound.polls polls] at scanning
    cases scanning
  · obtain ⟨_, same⟩ := Option.ite_none_right_eq_some.mp scans
    rw [← Option.some.inj same] at done
    exact absurd done (scanRound_stage scanning)

end Metadata

section Frames

/-- A step of the frame thread that leaves the metadata alone. -/
theorem Sound.frame (sound : capture.Sound frames text)
    (metadata : next.metadata = capture.metadata)
    (input : next.metadataInput = capture.metadataInput)
    (polls : next.metadataPolls = capture.metadataPolls) (stop : next.stop = capture.stop)
    (counted : next.Counted)
    (paired : ∀ taken, capture.Continues frames taken ∨ capture.Refused frames taken →
      next.Continues frames taken ∨ next.Refused frames taken)
    (exhausted : next.stage = .ended → next.Exhausted) : next.Sound frames text := by
  obtain ⟨taken, split, before⟩ := sound.paired
  refine ⟨?_, ?_, ?_, ?_, ?_, ?_, counted, ⟨taken, ?_, paired taken before⟩, exhausted⟩
  · rw [metadata]
    exact sound.scanned
  · rw [metadata, input]
    exact sound.whole
  · rw [metadata]
    exact sound.pushed
  · rw [metadata]
    exact sound.ends
  · rw [polls, metadata]
    exact sound.polls
  · rw [metadata, stop, input]
    exact sound.closed
  · rw [metadata]
    exact split

theorem not_refused {taken : List Int} (alive : ∀ thrown, capture.stage ≠ .threw thrown) :
    ¬ capture.Refused frames taken := by
  rintro ⟨reason, threw, _⟩
  exact alive _ threw

/-- A check of the frame pipe changes nothing but the place of the thread. -/
theorem Sound.checkFrames (sound : capture.Sound frames text)
    (moved : capture.step .checkFrames = some next) : next.Sound frames text := by
  obtain ⟨filling, ⟨⟩⟩ := Option.ite_none_right_eq_some.mp moved
  have counted := sound.counted
  unfold Counted at counted
  rw [filling] at counted
  have alive (thrown : Thrown) : capture.stage ≠ .threw thrown := by
    rw [filling]
    exact nofun
  by_cases stopped : capture.stop = true
  · simp only [stopped, if_true]
    exact sound.frame rfl rfl rfl stopped.symm trivial
      (fun _ before => .inl ⟨nofun, (before.resolve_right (not_refused alive)).2⟩) fun _ => .inl rfl
  · simp only [if_neg stopped]
    exact sound.frame rfl rfl rfl rfl counted
      (fun _ before => .inl ⟨nofun, (before.resolve_right (not_refused alive)).2⟩) nofun

/-- A poll without frames leaves everything. -/
theorem Sound.idleFrames (sound : capture.Sound frames text)
    (moved : capture.step .idleFrames = some next) : next.Sound frames text := by
  obtain ⟨polling, ⟨⟩⟩ := Option.ite_none_right_eq_some.mp moved
  have counted := sound.counted
  unfold Counted at counted
  rw [polling] at counted
  have alive (thrown : Thrown) : capture.stage ≠ .threw thrown := by
    rw [polling]
    exact nofun
  exact sound.frame rfl rfl rfl rfl counted
    (fun _ before => .inl ⟨nofun, (before.resolve_right (not_refused alive)).2⟩) nofun

/-- A failed read ends the frame thread and leaves the frames handed over. -/
theorem Sound.failFrames (sound : capture.Sound frames text) {polling : Bool} {reason : String}
    (moved : capture.step (.failFrames polling reason) = some next) : next.Sound frames text := by
  obtain ⟨polls, ⟨⟩⟩ := Option.ite_none_right_eq_some.mp moved
  have alive (thrown : Thrown) : capture.stage ≠ .threw thrown := by
    rw [polls]
    exact nofun
  refine sound.frame rfl rfl rfl rfl trivial (fun _ before => .inl ⟨fun thrown same => ?_, ?_⟩) nofun
  · exact ⟨polling, reason, (FrameStage.threw.inj same).symm⟩
  · exact (before.resolve_right (not_refused alive)).2

/-- What is read from the frame pipe is the next part of the frames. -/
theorem Sound.readFrames (sound : capture.Sound frames text) {count : Nat}
    (moved : capture.readFrames count = some next) : next.Sound frames text := by
  unfold FifoCapture.readFrames at moved
  split at moved
  · cases moved
  rename_i allowed
  rw [not_or, not_or, not_not, Nat.not_lt, Nat.not_lt] at allowed
  obtain ⟨polling, within, room⟩ := allowed
  have counted := sound.counted
  unfold Counted at counted
  rw [polling] at counted
  have alive (thrown : Thrown) : capture.stage ≠ .threw thrown := by
    rw [polling]
    exact nofun
  split at moved
  · split at moved
    · rename_i empty
      cases moved
      refine sound.frame rfl rfl rfl rfl trivial
        (fun _ before => .inl ⟨nofun, (before.resolve_right (not_refused alive)).2⟩) fun _ => .inr (.inl ?_)
      change (capture.raw ++ capture.frameInput).length < 2 * capture.npx
      rw [empty, List.append_nil]
      exact counted.2
    · cases moved
  · rename_i some
    cases moved
    have bytes : (capture.raw ++ capture.frameInput.take count) ++ capture.frameInput.drop count =
        capture.raw ++ capture.frameInput := by
      rw [List.append_assoc, List.take_append_drop]
    have length : (capture.raw ++ capture.frameInput.take count).length =
        capture.raw.length + count := by
      rw [List.length_append, List.length_take, Nat.min_eq_left within]
    refine sound.frame rfl rfl rfl rfl ?_ (fun taken before => .inl ?_) ?_
    · by_cases full : (capture.raw ++ capture.frameInput.take count).length = 2 * capture.npx
      · simp only [Counted, if_pos full]
        exact ⟨congrArg (· + 1) counted.1, full⟩
      · simp only [Counted, if_neg full]
        exact ⟨counted.1, by omega⟩
    · refine ⟨?_, fun later => ?_⟩
      · dsimp only
        split <;> exact nofun
      · dsimp only
        rw [bytes]
        exact (before.resolve_right (not_refused alive)).2 later
    · dsimp only
      split <;> exact nofun

/-- The frame thread takes the oldest timestamp for the frame that it has. -/
theorem Sound.handle (sound : capture.Sound frames text) (pairing : capture.stage = .pairing)
    {ts : Int} {rest : List Int} (queue : capture.metadata.metaTs = ts :: rest) {metadata : MetaThread}
    (takes : capture.metadata.step .take = some metadata) (active : Bool) :
    ({ capture with metadata }.handle active ts).Sound frames text := by
  have counted := sound.counted
  unfold Counted at counted
  rw [pairing] at counted
  have alive (thrown : Thrown) : capture.stage ≠ .threw thrown := by
    rw [pairing]
    intro same
    cases same
  obtain ⟨taken, split, before⟩ := sound.paired
  have continues := before.resolve_right (not_refused alive)
  obtain ⟨idx, length⟩ := counted
  have taking : metadata = { capture.metadata with metaTs := rest } := by
    simp only [MetaThread.step, queue] at takes
    exact (Option.some.inj takes).symm
  subst taking
  have pushed : capture.metadata.pushed = (taken ++ [ts]) ++ rest := by
    rw [split, queue, List.append_assoc, List.singleton_append]
  have onward (later : List Int) : frameThread capture.npx 0 frames ((taken ++ [ts]) ++ later) =
      after capture.handed (frameThread capture.npx capture.handed.length
        (capture.raw ++ capture.frameInput) (ts :: later)) := by
    rw [List.append_assoc, List.singleton_append]
    exact continues.2 (ts :: later)
  have scanned := sound.scanned.step takes
  unfold FifoCapture.handle
  dsimp only
  by_cases tainted : lowBytesClear capture.npx (if capture.idx = 1 then 1 else 997) capture.raw = false
  · rw [if_pos tainted]
    refine ⟨scanned, sound.whole, sound.pushed, sound.ends, sound.polls, sound.closed, trivial,
      ⟨taken ++ [ts], pushed, .inr ⟨_, rfl, fun later => ?_⟩⟩, fun ended => by cases ended⟩
    rw [onward, frameThread_cons length, if_pos (by rw [← idx]; exact tainted)]
    simp only [after, List.append_nil]
  · rw [if_neg tainted]
    refine ⟨scanned, sound.whole, sound.pushed, sound.ends, sound.polls, sound.closed, ?_,
      ⟨taken ++ [ts], pushed, .inl ⟨(fun _ same => by cases same), fun later => ?_⟩⟩,
      fun ended => by cases ended⟩
    · refine ⟨?_, ?_⟩
      · change capture.idx = (capture.handed ++ [_]).length
        rw [List.length_append, idx]
        rfl
      · change 0 < 2 * capture.npx
        exact Nat.mul_pos (by decide) capture.positive
    · rw [onward, frameThread_cons length, if_neg (by rw [← idx]; exact tainted)]
      simp only [after, List.append_assoc, List.nil_append, List.length_append, List.length_singleton,
        List.singleton_append]

/-- A whole frame takes the next stamp, as the one-pass pairing does, or waits for it. -/
theorem Sound.pair (sound : capture.Sound frames text) {active : Bool}
    (moved : capture.pair active = some next) : next.Sound frames text := by
  unfold FifoCapture.pair at moved
  split at moved
  · cases moved
  rename_i pairing
  rw [not_not] at pairing
  have alive (thrown : Thrown) : capture.stage ≠ .threw thrown := by
    rw [pairing]
    exact nofun
  split at moved
  · rename_i empty
    obtain ⟨ended, ⟨⟩⟩ := Option.ite_none_right_eq_some.mp moved
    refine sound.frame rfl rfl rfl rfl trivial
      (fun _ before => .inl ⟨nofun, (before.resolve_right (not_refused alive)).2⟩) fun _ => ?_
    rcases ended with done | stopped
    · exact .inr (.inr ⟨empty, done⟩)
    · exact .inl stopped
  · rename_i ts rest queue
    obtain ⟨metadata, takes, rfl⟩ := Option.map_eq_some_iff.mp moved
    exact sound.handle pairing queue takes active

end Frames

/-- Each transition of the two threads keeps the invariant. -/
theorem Sound.step (sound : capture.Sound frames text) {action : FifoAction}
    (moved : capture.step action = some next) : next.Sound frames text := by
  cases action with
  | checkFrames => exact sound.checkFrames moved
  | idleFrames => exact sound.idleFrames moved
  | readFrames count => exact sound.readFrames moved
  | failFrames polling reason => exact sound.failFrames moved
  | pair active => exact sound.pair moved
  | checkMetadata => exact sound.checkMetadata moved
  | idleMetadata =>
      obtain ⟨_, ⟨⟩⟩ := Option.ite_none_right_eq_some.mp moved
      exact { sound with polls := nofun }
  | readMetadata count => exact sound.readMetadata moved
  | failMetadata polling reason => exact sound.failMetadata moved
  | scan => exact sound.scan moved
  | requestStop =>
      cases moved
      exact { sound with closed := fun _ => .inl rfl, exhausted := fun _ => .inl rfl }

/-- At the start nothing was read and nothing was handed over. -/
theorem start_sound (npx : Nat) (positive : 0 < npx) (frames text : List UInt8) :
    (start npx positive frames text).Sound frames text where
  scanned := Sound.create
  whole := rfl
  pushed := ⟨[], _, rfl, rfl⟩
  ends := nofun
  polls := nofun
  closed := nofun
  counted := ⟨rfl, Nat.mul_pos (by decide) positive⟩
  paired := ⟨[], rfl, .inl ⟨nofun, fun _ => rfl⟩⟩
  exhausted := nofun

theorem Sound.run {frames text : List UInt8} {first last : FifoCapture} {actions : List FifoAction}
    (sound : first.Sound frames text) (ran : first.run actions = some last) :
    last.Sound frames text :=
  PartialRun.invariant (FifoCapture.Sound frames text) (fun _ _ _ moved sound => sound.step moved) ran
    sound

theorem handle_npx (capture : FifoCapture) (active : Bool) (ts : Int) :
    (capture.handle active ts).npx = capture.npx := by
  unfold FifoCapture.handle
  dsimp only
  repeat' split
  all_goals rfl

/-- The frame size does not change. -/
theorem step_npx {action : FifoAction} (moved : capture.step action = some next) :
    next.npx = capture.npx := by
  cases action with
  | checkFrames | idleFrames | failFrames | idleMetadata | failMetadata =>
      obtain ⟨_, ⟨⟩⟩ := Option.ite_none_right_eq_some.mp moved
      rfl
  | readFrames count =>
      simp only [FifoCapture.step, readFrames] at moved
      repeat' split at moved
      all_goals cases moved
      all_goals rfl
  | pair active =>
      simp only [FifoCapture.step, pair] at moved
      repeat' split at moved
      all_goals try cases moved
      · rfl
      · obtain ⟨metadata, _, rfl⟩ := Option.map_eq_some_iff.mp moved
        exact handle_npx _ active _
  | checkMetadata =>
      obtain ⟨_, moved⟩ := Option.ite_none_right_eq_some.mp moved
      split at moved
      · obtain ⟨metadata, _, rfl⟩ := Option.map_eq_some_iff.mp moved
        rfl
      · cases moved
        rfl
  | readMetadata count =>
      simp only [FifoCapture.step, readMetadata] at moved
      repeat' split at moved
      all_goals try cases moved
      all_goals
        obtain ⟨metadata, _, rfl⟩ := Option.map_eq_some_iff.mp moved
        rfl
  | scan =>
      obtain ⟨metadata, _, rfl⟩ := Option.map_eq_some_iff.mp moved
      rfl
  | requestStop =>
      cases moved
      rfl

theorem run_npx {actions : List FifoAction} {last : FifoCapture}
    (ran : capture.run actions = some last) : last.npx = capture.npx :=
  PartialRun.invariant (fun state : FifoCapture => state.npx = capture.npx)
    (fun _ _ _ moved same => (step_npx moved).trans same) ran rfl

/-- The timestamps so far begin those of the whole text. -/
theorem Sound.stamps (sound : capture.Sound frames text) {stamps : List Int}
    (converted : (numbers text).mapM stoll = .ok stamps) :
    ∃ later, stamps = capture.metadata.pushed ++ later := by
  obtain ⟨before, rest, split, pushed⟩ := sound.pushed
  rw [split, List.mapM_append, pushed] at converted
  obtain ⟨one, pushedOne, converted⟩ := FallibleLoop.bind_ok converted
  obtain ⟨later, _, same⟩ := FallibleLoop.bind_ok converted
  cases pushedOne
  exact ⟨later, (Except.ok.inj same).symm⟩

/-- A thread that ended by itself has seen all that one pass over the streams finds. -/
theorem Sound.complete (sound : capture.Sound frames text) (ended : capture.stage = .ended)
    (unstopped : capture.stop = false) {stamps : List Int}
    (converted : (numbers text).mapM stoll = .ok stamps) :
    frameThread capture.npx 0 frames stamps = (capture.handed, none) := by
  obtain ⟨later, rfl⟩ := sound.stamps converted
  obtain ⟨taken, split, paired⟩ := sound.paired
  have continues := paired.resolve_right (not_refused (by rw [ended]; exact nofun))
  have final (stamps : List Int) (nothing : frameThread capture.npx capture.handed.length
      (capture.raw ++ capture.frameInput) stamps = ([], none)) :
      frameThread capture.npx 0 frames (taken ++ stamps) = (capture.handed, none) := by
    rw [continues.2, nothing, after, List.append_nil]
  rcases sound.exhausted ended with stopped | short | ⟨empty, done⟩
  · rw [unstopped] at stopped
    cases stopped
  · rw [split, List.append_assoc]
    exact final _ (frameThread_short short _ _)
  · have all : numbers text = numbers capture.metadata.text := by
      rcases sound.closed (sound.ends done) with stopped | read
      · rw [unstopped] at stopped
        cases stopped
      · rw [← sound.whole, read, List.append_nil]
    obtain ⟨before, pushed, parts⟩ := sound.scanned.split (by rw [sound.ends done]; exact nofun)
    have none := parts []
    rw [List.append_nil, List.append_nil, sound.scanned.exhausted (.inr (sound.ends done)),
      List.append_nil, ← all] at none
    rw [none, pushed] at converted
    have nothing : later = [] := List.self_eq_append_right.mp (Except.ok.inj converted)
    rw [nothing, split, empty, List.append_nil, List.append_nil, ← List.append_nil taken]
    exact final [] rfl

/-- What was handed on begins the frames of one pass over the streams. -/
theorem Sound.begins (sound : capture.Sound frames text) (later : List Int) :
    capture.handed <+:
      (frameThread capture.npx 0 frames (capture.metadata.pushed ++ later)).1 := by
  obtain ⟨taken, split, paired⟩ := sound.paired
  rw [split, List.append_assoc]
  rcases paired with continues | ⟨reason, _, refused⟩
  · rw [continues.2]
    exact List.prefix_append _ _
  · rw [refused]

/-- The frame thread agrees with one pass over the streams. -/
theorem Sound.pairing (sound : capture.Sound frames text) {stamps : List Int}
    (converted : (numbers text).mapM stoll = .ok stamps) :
    capture.handed <+: (frameThread capture.npx 0 frames stamps).1 ∧
    (capture.stage = .ended → capture.stop = false →
      frameThread capture.npx 0 frames stamps = (capture.handed, none)) ∧
    ∀ thrown, capture.stage = .threw thrown →
      (∃ polling reason, thrown = readFailure polling reason) ∨
      ∃ reason, thrown = .runtimeError reason ∧
        frameThread capture.npx 0 frames stamps = (capture.handed, some reason) := by
  obtain ⟨later, rfl⟩ := sound.stamps converted
  refine ⟨sound.begins later, fun ended unstopped => sound.complete ended unstopped converted,
    fun thrown threw => ?_⟩
  obtain ⟨taken, split, paired⟩ := sound.paired
  rcases paired with continues | ⟨reason, refuses, refused⟩
  · exact .inl (continues.1 thrown threw)
  · rw [refuses] at threw
    refine .inr ⟨reason, (FrameStage.threw.inj threw).symm, ?_⟩
    rw [split, List.append_assoc]
    exact refused _

/-- However the two streams are cut and the threads interleave, the frames that are handed on are the
first ones of a single pass over the streams, with their timestamps. A thread that ends by itself has
handed on all of them, and it dies where that pass refuses a frame, or where a read fails. -/
theorem fifo_pairing {npx : Nat} {positive : 0 < npx} {frames text : List UInt8}
    {actions : List FifoAction} {last : FifoCapture}
    (ran : (start npx positive frames text).run actions = some last) :
    last.handed <+: (frameThread npx 0 frames last.metadata.pushed).1 ∧
    (∃ before later, numbers text = before ++ later ∧
      before.mapM stoll = .ok last.metadata.pushed) ∧
    ∀ stamps, (numbers text).mapM stoll = .ok stamps →
      last.handed <+: (frameThread npx 0 frames stamps).1 ∧
      (last.stage = .ended → last.stop = false →
        frameThread npx 0 frames stamps = (last.handed, none)) ∧
      ∀ thrown, last.stage = .threw thrown →
        (∃ polling reason, thrown = readFailure polling reason) ∨
        ∃ reason, thrown = .runtimeError reason ∧
          frameThread npx 0 frames stamps = (last.handed, some reason) := by
  have sound : last.Sound frames text := (start_sound npx positive frames text).run ran
  obtain rfl : last.npx = npx := run_npx ran
  have begins := sound.begins []
  rw [List.append_nil] at begins
  exact ⟨begins, sound.pushed, fun stamps converted => sound.pairing converted⟩

/-- Both threads read their streams in parts, and the frame waits for its timestamp. -/
def twoParts : List FifoAction :=
  [.checkFrames, .readFrames 1, .checkMetadata, .readMetadata 9, .checkFrames, .readFrames 1, .scan,
    .checkMetadata, .readMetadata 12, .scan, .pair true, .checkFrames, .readFrames 0]

/-- The metadata comes in two parts and after the first frame. -/
theorem fifo_pairing_twoParts : ∃ last,
    (start 1 (by decide) [0, 7] sampleText).run twoParts = some last ∧
    frameThread 1 0 [0, 7] [42] = (last.handed, none) := by
  have ends : ((start 1 (by decide) [0, 7] sampleText).run twoParts).map
      (fun last => (last.stage, last.stop)) = some (.ended, false) := by
    decide +kernel
  obtain ⟨last, ran, ended⟩ := Option.map_eq_some_iff.mp ends
  obtain ⟨ended, unstopped⟩ := Prod.mk.inj ended
  have converted : (numbers sampleText).mapM stoll = .ok [42] := by decide +kernel
  exact ⟨last, ran, ((fifo_pairing ran).2.2 _ converted).2.1 ended unstopped⟩

end FifoCapture
end Vio
