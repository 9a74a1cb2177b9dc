import Vio.Construction.MetadataThread
import Vio.Library.PartialRun

namespace Vio
open RecordScan

namespace MetaAction

/-- The bytes of a read. -/
def chunk : MetaAction → List UInt8
  | .read bytes => bytes
  | _ => []

/-- The text that the reads give. -/
def text (actions : List MetaAction) : List UInt8 := (actions.map chunk).flatten

end MetaAction

namespace MetaThread

/-- The numbers of a text, as texts, in one pass. -/
def numbers (text : List UInt8) : List (List UInt8) := scan isColon endsNumber key text

/-- The numbers of the text so far are those pushed and then those of the buffer, whatever follows. -/
structure Sound (thread : MetaThread) : Prop where
  split : (∀ thrown, thread.stage ≠ .threw thrown) → ∃ before,
    before.mapM stoll = .ok thread.pushed ∧
      ∀ later, numbers (thread.text ++ later) = before ++ numbers (thread.buf ++ later)
  exhausted : thread.stage = .reading ∨ thread.stage = .done → numbers thread.buf = []

variable {thread : MetaThread}

theorem key_length : key.length = 17 := by decide

/-- The place where a number ends is not its colon. -/
theorem entry_positive {text content : List UInt8} {stop : Nat}
    (found : entry isColon endsNumber text = some (content, stop)) : 0 < stop := by
  obtain ⟨start, opened, closed, _⟩ := entry_eq_some.mp found
  apply Nat.pos_of_ne_zero
  rintro rfl
  obtain rfl := Nat.le_zero.mp (findFrom_eq_some.mp closed).1
  obtain ⟨symbol, present, colon⟩ := (Option.any_eq_true _ _).mp (findFrom_eq_some.mp opened).2.1
  obtain rfl := of_decide_eq_true colon
  have last := (findFrom_eq_some.mp closed).2.1
  rw [present] at last
  revert last
  decide

/-- What one round finds is the first record after the first key. -/
theorem numbers_record {buf : List UInt8} {k c e : Nat} (found : find key buf = some k)
    (colon : findFrom isColon buf k = some c) (last : findFrom endsNumber buf c = some e)
    (later : List UInt8) :
    numbers (buf ++ later) = (buf.drop (c + 1)).take (e - c - 1) :: numbers (buf.drop e ++ later) := by
  obtain ⟨within, here, first⟩ := find_eq_some.mp found
  have order := (findFrom_eq_some.mp colon).1
  have orderLast := (findFrom_eq_some.mp last).1
  have inside := findFrom_lt last
  obtain ⟨start, rfl⟩ := Nat.exists_eq_add_of_le order
  obtain ⟨stop, rfl⟩ := Nat.exists_eq_add_of_le (order.trans orderLast)
  have record : entry isColon endsNumber (buf.drop k) =
      some ((buf.drop (k + start + 1)).take (k + stop - (k + start) - 1), stop) := by
    refine entry_eq_some.mpr ⟨start, ?_, ?_, ?_⟩
    · have moved : findFrom isColon buf (k + 0) =
          (findFrom isColon (buf.drop k) 0).map (k + ·) := findFrom_drop k
      rw [Nat.add_zero, colon] at moved
      obtain ⟨same, found, equal⟩ := Option.map_eq_some_iff.mp moved.symm
      rwa [Nat.add_left_cancel equal] at found
    · rw [findFrom_drop] at last
      obtain ⟨same, found, equal⟩ := Option.map_eq_some_iff.mp last
      rwa [Nat.add_left_cancel equal] at found
    · rw [List.drop_drop, Nat.add_assoc, Nat.add_sub_add_left]
  have fits : k + key.length ≤ buf.length := by
    have long := here.length_le
    rw [List.length_drop] at long
    omega
  have unreached : ∀ place < k, ¬ key <+: (buf ++ later).drop place := fun place before occurrence =>
    first place before ((prefix_drop_append (by omega) later).mp occurrence)
  have dropped : (buf ++ later).drop k = buf.drop k ++ later := List.drop_append_of_le_length within
  have front : key <+: buf.drop k ++ later := here.trans (List.prefix_append _ _)
  rw [numbers, scan_drop unreached, dropped,
    scan_entry front (entry_append record later) (entry_positive record), numbers]
  rw [List.drop_append_of_le_length (by rw [List.length_drop]; omega), List.drop_drop]

/-- Without a complete record there are no numbers. -/
theorem numbers_none {buf : List UInt8}
    (missing : ∀ k, find key buf = some k → ∀ c, findFrom isColon buf k = some c →
      findFrom endsNumber buf c = none) : numbers buf = [] := by
  apply scan_eq_nil
  intro place here
  cases found : find key buf with
  | none =>
      have within : place ≤ buf.length := by
        by_contra outside
        rw [List.drop_of_length_le (not_le.mp outside).le] at here
        exact absurd (List.prefix_nil.mp here) (by decide)
      exact absurd here (find_eq_none.mp found place within)
  | some k =>
      obtain ⟨_, _, first⟩ := find_eq_some.mp found
      have after : k ≤ place := not_lt.mp fun before => first place before here
      have none : entry isColon endsNumber (buf.drop k) = none := by
        by_contra complete
        obtain ⟨⟨content, stop⟩, complete⟩ := Option.ne_none_iff_exists'.mp complete
        obtain ⟨start, opened, closed, _⟩ := entry_eq_some.mp complete
        have colon : findFrom isColon buf k = some (k + start) := by
          rw [← Nat.add_zero k, findFrom_drop, Nat.add_zero, opened]
          rfl
        have last := missing k found _ colon
        rw [findFrom_drop, closed] at last
        cases last
      rw [← Nat.add_sub_cancel' after, ← List.drop_drop]
      exact entry_drop_eq_none none _

/-- The bytes that a trim drops hold no begin of a key, also of one that is not complete yet. -/
theorem numbers_trim {buf : List UInt8} (none : find key buf = none) (later : List UInt8) :
    numbers (buf ++ later) = numbers (buf.drop (buf.length - 32) ++ later) := by
  rw [numbers, ← List.drop_append_of_le_length (Nat.sub_le _ _)]
  apply scan_drop
  intro place before occurrence
  have room : place + key.length ≤ buf.length := by
    rw [key_length]
    omega
  exact find_eq_none.mp none place (by omega) ((prefix_drop_append room later).mp occurrence)

/-- What the trim drops begins no number, whatever follows. -/
theorem Sound.trim (sound : thread.Sound) (alive : ∀ thrown, thread.stage ≠ .threw thrown)
    (exhausted : numbers thread.buf = []) : thread.trim.Sound := by
  obtain ⟨before, read, split⟩ := sound.split alive
  by_cases long : thread.buf.length > 64 ∧ find key thread.buf = none
  · have same : thread.trim.buf = thread.buf.drop (thread.buf.length - 32) := if_pos long
    constructor
    · intro _
      refine ⟨before, read, fun later => ?_⟩
      rw [same, ← numbers_trim long.2]
      exact split later
    · intro _
      have trimmed := numbers_trim long.2 []
      rw [List.append_nil, List.append_nil, exhausted] at trimmed
      rw [same, ← trimmed]
  · have same : thread.trim.buf = thread.buf := if_neg long
    constructor
    · intro _
      refine ⟨before, read, fun later => ?_⟩
      rw [same]
      exact split later
    · intro _
      rw [same, exhausted]

/-- A number that was found is the next one of the text. -/
theorem Sound.push (sound : thread.Sound) (scanning : thread.stage = .scanning) {k c e : Nat}
    (found : find key thread.buf = some k) (colon : findFrom isColon thread.buf k = some c)
    (last : findFrom endsNumber thread.buf c = some e) {ts : Int}
    (number : stoll ((thread.buf.drop (c + 1)).take (e - c - 1)) = .ok ts) :
    (thread.push (thread.buf.drop e) ts).Sound := by
  unfold MetaThread.push
  split
  · exact ⟨fun alive => absurd rfl (alive _), nofun⟩
  · constructor
    · intro alive
      obtain ⟨before, read, split⟩ := sound.split alive
      refine ⟨before ++ [(thread.buf.drop (c + 1)).take (e - c - 1)], ?_, fun later => ?_⟩
      · rw [List.mapM_append, read, List.mapM_cons, number]
        rfl
      · rw [List.append_assoc, List.singleton_append, ← numbers_record found colon last]
        exact split later
    · rintro (reading | done)
      · rw [show thread.stage = .reading from reading] at scanning
        cases scanning
      · rw [show thread.stage = .done from done] at scanning
        cases scanning

/-- A round finds the next number, or trims a buffer without one. -/
theorem Sound.scanRound (sound : thread.Sound) (scanning : thread.stage = .scanning) :
    thread.scanRound.Sound := by
  have alive (thrown : Thrown) : thread.stage ≠ .threw thrown := by
    rw [scanning]
    exact nofun
  unfold MetaThread.scanRound
  split
  · rename_i none
    exact sound.trim alive (numbers_none fun k found => by rw [none] at found; cases found)
  · rename_i k found
    split
    · rename_i none
      refine sound.trim alive (numbers_none fun k' found' c colon => ?_)
      rw [found] at found'
      cases found'
      rw [none] at colon
      cases colon
    · rename_i c colon
      split
      · rename_i none
        refine sound.trim alive (numbers_none fun k' found' c' colon' => ?_)
        rw [found] at found'
        cases found'
        rw [colon] at colon'
        cases colon'
        exact none
      · rename_i e last
        split
        · exact ⟨fun alive => absurd rfl (alive _), nofun⟩
        · rename_i ts number
          exact sound.push scanning found colon last number

/-- More bytes belong to the buffer and to the text alike. -/
theorem Sound.append (sound : thread.Sound) (reading : thread.stage = .reading)
    (bytes : List UInt8) : (thread.append bytes).Sound := by
  constructor
  · intro _
    obtain ⟨before, read, split⟩ := sound.split (by rw [reading]; exact nofun)
    refine ⟨before, read, fun later => ?_⟩
    change numbers (thread.text ++ bytes ++ later) = before ++ numbers (thread.buf ++ bytes ++ later)
    rw [List.append_assoc, List.append_assoc]
    exact split (bytes ++ later)
  · unfold MetaThread.append
    dsimp only
    split <;> exact nofun

/-- Each access of the thread keeps the numbers of the text. -/
theorem Sound.step (sound : thread.Sound) {next : MetaThread} {action : MetaAction}
    (moved : thread.step action = some next) : next.Sound := by
  cases action with
  | read bytes =>
      obtain ⟨⟨reading, _⟩, ⟨⟩⟩ := Option.ite_none_right_eq_some.mp moved
      exact sound.append reading bytes
  | scan =>
      obtain ⟨scanning, ⟨⟩⟩ := Option.ite_none_right_eq_some.mp moved
      exact sound.scanRound scanning
  | close =>
      obtain ⟨reading, ⟨⟩⟩ := Option.ite_none_right_eq_some.mp moved
      exact ⟨fun _ => sound.split (by rw [reading]; exact nofun),
        fun _ => sound.exhausted (.inl reading)⟩
  | take =>
      simp only [MetaThread.step] at moved
      split at moved
      · cases moved
      · cases moved
        exact ⟨sound.split, sound.exhausted⟩

theorem Sound.create : ({} : MetaThread).Sound := ⟨fun _ => ⟨[], rfl, fun _ => rfl⟩, fun _ => rfl⟩

/-- A read adds its bytes to the text, and nothing else does. -/
theorem step_text {next : MetaThread} {action : MetaAction}
    (moved : thread.step action = some next) : next.text = thread.text ++ action.chunk := by
  cases action with
  | read bytes =>
      obtain ⟨_, ⟨⟩⟩ := Option.ite_none_right_eq_some.mp moved
      rfl
  | scan =>
      obtain ⟨_, ⟨⟩⟩ := Option.ite_none_right_eq_some.mp moved
      rw [show MetaAction.scan.chunk = [] from rfl, List.append_nil]
      unfold MetaThread.scanRound MetaThread.push
      repeat' split
      all_goals rfl
  | close =>
      obtain ⟨_, ⟨⟩⟩ := Option.ite_none_right_eq_some.mp moved
      exact (List.append_nil _).symm
  | take =>
      simp only [MetaThread.step] at moved
      split at moved
      · cases moved
      · cases moved
        exact (List.append_nil _).symm

/-- The text is what was read, however it was cut. -/
theorem run_text {last : MetaThread} {actions : List MetaAction}
    (ran : thread.run actions = some last) : last.text = thread.text ++ MetaAction.text actions := by
  induction actions generalizing thread with
  | nil =>
      cases ran
      exact (List.append_nil _).symm
  | cons action actions inductionHypothesis =>
      obtain ⟨middle, moved, ran⟩ := Option.bind_eq_some_iff.mp ran
      rw [inductionHypothesis ran, step_text moved, List.append_assoc]
      rfl

/-- A thread that ended without an exception has pushed the numbers of its text. -/
theorem pushed_numbers {last : MetaThread} {actions : List MetaAction}
    (ran : ({} : MetaThread).run actions = some last) (ended : last.stage = .done) :
    (numbers (MetaAction.text actions)).mapM stoll = .ok last.pushed := by
  have sound : last.Sound := PartialRun.invariant Sound (fun _ _ _ moved sound => sound.step moved)
    ran Sound.create
  obtain ⟨before, read, split⟩ := sound.split (by rw [ended]; exact nofun)
  have whole := split []
  rw [List.append_nil, List.append_nil, sound.exhausted (.inr ended), List.append_nil,
    run_text ran] at whole
  rw [show MetaAction.text actions = [] ++ MetaAction.text actions from rfl]
  exact (congrArg _ whole).trans read

/-- Two threads that read one text, cut in any ways, and end without an exception push the same
timestamps: the numbers that one pass over the text finds. -/
theorem metadata_cut_independent {text : List UInt8} {first second : List MetaAction}
    {one other : MetaThread} (readsOne : MetaAction.text first = text)
    (readsOther : MetaAction.text second = text) (ranOne : ({} : MetaThread).run first = some one)
    (ranOther : ({} : MetaThread).run second = some other) (endedOne : one.stage = .done)
    (endedOther : other.stage = .done) :
    one.pushed = other.pushed ∧ (numbers text).mapM stoll = .ok one.pushed := by
  have pushedOne := pushed_numbers ranOne endedOne
  have pushedOther := pushed_numbers ranOther endedOther
  rw [readsOne] at pushedOne
  rw [readsOther, pushedOne] at pushedOther
  exact ⟨Except.ok.inj pushedOther, pushedOne⟩

/-- A text with one record. -/
def sampleText : List UInt8 := key ++ [58, 52, 50, 125]

def wholeCut : List MetaAction := [.read sampleText, .scan, .take, .scan, .close]

/-- The text cut within its key and within its number. -/
def keyCut : List MetaAction :=
  [.read (key.take 5), .scan, .read (key.drop 5 ++ [58, 52]), .scan, .read [50, 125], .scan, .scan,
    .close]

/-- A cut within the key gives the same stamp. -/
theorem metadata_cut_independent_key : ∃ one other,
    ({} : MetaThread).run wholeCut = some one ∧ ({} : MetaThread).run keyCut = some other ∧
    one.pushed = [42] ∧ one.pushed = other.pushed ∧
    (numbers sampleText).mapM stoll = .ok one.pushed := by
  have whole : MetaAction.text wholeCut = sampleText := by decide
  have cut : MetaAction.text keyCut = sampleText := by decide
  have ends : (({} : MetaThread).run wholeCut).map (fun thread => (thread.stage, thread.pushed)) =
      some (.done, [42]) := by
    decide +kernel
  have endsCut : (({} : MetaThread).run keyCut).map (·.stage) = some .done := by decide +kernel
  obtain ⟨one, ran, ended⟩ := Option.map_eq_some_iff.mp ends
  obtain ⟨other, ranCut, endedCut⟩ := Option.map_eq_some_iff.mp endsCut
  obtain ⟨ended, pushed⟩ := Prod.mk.inj ended
  exact ⟨one, other, ran, ranCut, pushed,
    metadata_cut_independent whole cut ran ranCut ended endedCut⟩

end MetaThread
end Vio
