/-
This file holds the search for records in a text: a key, and the content between the next opening and
the next closing symbol after it. A text that arrives in parts can be searched part by part, and what
lies before the next key can be dropped.
-/

import Mathlib.Data.List.Basic
import Mathlib.Data.List.Infix
import Mathlib.Data.List.TakeDrop
import Mathlib.Data.Nat.Find

namespace RecordScan
variable {B : Type*} [DecidableEq B]

/-- The place of the first occurrence of a key. -/
def find (key : List B) : List B → Option Nat
  | [] => if key = [] then some 0 else none
  | symbol :: rest =>
      if key <+: symbol :: rest then some 0 else (find key rest).map (· + 1)

/-- The place of the first symbol from `start` on that satisfies `wanted`. -/
def findFrom (wanted : B → Bool) (text : List B) (start : Nat) : Option Nat :=
  ((text.drop start).findIdx? wanted).map (start + ·)

variable (opens closes : B → Bool)

/-- The content of the record at the front of a text, and the place of its closing symbol. -/
def entry (text : List B) : Option (List B × Nat) :=
  match findFrom opens text 0 with
  | none => none
  | some start =>
      match findFrom closes text start with
      | none => none
      | some stop => some ((text.drop (start + 1)).take (stop - start - 1), stop)

/-- The contents of all records, in one pass. The search goes on at the closing symbol of a record;
the number counts the symbols up to it. -/
def scanFrom (key : List B) : Nat → List B → List (List B)
  | _, [] => []
  | skip + 1, _ :: rest => scanFrom key skip rest
  | 0, symbol :: rest =>
      if key <+: symbol :: rest then
        match entry opens closes (symbol :: rest) with
        | none => scanFrom key 0 rest
        | some (content, stop) => content :: scanFrom key (stop - 1) rest
      else scanFrom key 0 rest

def scan (key text : List B) : List (List B) := scanFrom opens closes key 0 text

section Find
variable {key text : List B} {place : Nat}

/-- What the first occurrence is. -/
theorem find_eq_some : find key text = some place ↔
    place ≤ text.length ∧ key <+: text.drop place ∧
      ∀ earlier < place, ¬ key <+: text.drop earlier := by
  induction text generalizing place with
  | nil =>
      simp only [find, List.drop_nil, List.prefix_nil, List.length_nil, Nat.le_zero]
      split
      · rename_i empty
        simp only [Option.some.injEq, empty, true_and, not_true_eq_false]
        constructor
        · rintro rfl
          exact ⟨rfl, nofun⟩
        · exact fun first => first.1.symm
      · rename_i nonempty
        simp [nonempty]
  | cons symbol rest inductionHypothesis =>
      rw [find]
      split
      · rename_i here
        constructor
        · rintro ⟨⟩
          exact ⟨Nat.zero_le _, here, nofun⟩
        · rintro ⟨_, _, first⟩
          cases place with
          | zero => rfl
          | succ place => exact absurd here (first 0 place.succ_pos)
      · rename_i other
        cases place with
        | zero => simpa using other
        | succ place =>
            rw [Option.map_eq_some_iff]
            simp only [Nat.add_right_cancel_iff, exists_eq_right, inductionHypothesis,
              List.drop_succ_cons, List.length_cons, Nat.add_le_add_iff_right]
            refine and_congr_right fun _ => and_congr_right fun _ => ?_
            constructor
            · intro first earlier before
              cases earlier with
              | zero => exact other
              | succ earlier => exact first earlier (Nat.lt_of_succ_lt_succ before)
            · exact fun first earlier before => first (earlier + 1) (Nat.succ_lt_succ before)

theorem find_eq_none : find key text = none ↔ ∀ place ≤ text.length, ¬ key <+: text.drop place := by
  constructor
  · intro missing
    by_contra occurs
    push Not at occurs
    obtain ⟨within, here⟩ := Nat.find_spec occurs
    have first : find key text = some (Nat.find occurs) :=
      find_eq_some.mpr ⟨within, here, fun earlier before occurrence =>
        Nat.find_min occurs before ⟨before.le.trans within, occurrence⟩⟩
    rw [missing] at first
    cases first
  · intro missing
    by_contra found
    obtain ⟨place, found⟩ := Option.ne_none_iff_exists'.mp found
    obtain ⟨within, here, _⟩ := find_eq_some.mp found
    exact missing place within here

omit [DecidableEq B] in
/-- A key that ends within a text does not depend on what follows. -/
theorem prefix_drop_append (room : place + key.length ≤ text.length) (later : List B) :
    key <+: (text ++ later).drop place ↔ key <+: text.drop place := by
  have short : key.length ≤ (text.drop place).length := by
    rw [List.length_drop]
    omega
  rw [List.drop_append_of_le_length (by omega)]
  exact ⟨fun longer => List.prefix_of_prefix_length_le longer (List.prefix_append _ _) short,
    fun here => here.trans (List.prefix_append _ _)⟩

end Find

section FindFrom
variable {wanted : B → Bool} {text : List B} {start stop : Nat}

omit [DecidableEq B] in
/-- What the first symbol from a start on is. -/
theorem findFrom_eq_some : findFrom wanted text start = some stop ↔
    start ≤ stop ∧ text[stop]?.any wanted = true ∧
      ∀ place, start ≤ place → place < stop → text[place]?.any wanted = false := by
  rw [findFrom, Option.map_eq_some_iff]
  constructor
  · rintro ⟨offset, found, rfl⟩
    obtain ⟨inside, here, first⟩ := List.findIdx?_eq_some_iff_getElem.mp found
    refine ⟨Nat.le_add_right _ _, ?_, fun place after before => ?_⟩
    · rw [← List.getElem?_drop, List.getElem?_eq_getElem inside]
      exact here
    · obtain ⟨earlier, rfl⟩ := Nat.exists_eq_add_of_le after
      have earlier := Nat.lt_of_add_lt_add_left before
      rw [← List.getElem?_drop, List.getElem?_eq_getElem (earlier.trans inside)]
      simpa using first _ earlier
  · rintro ⟨after, here, first⟩
    obtain ⟨offset, rfl⟩ := Nat.exists_eq_add_of_le after
    rw [← List.getElem?_drop] at here
    obtain ⟨symbol, present, holds⟩ := (Option.any_eq_true _ _).mp here
    obtain ⟨inside, same⟩ := List.getElem?_eq_some_iff.mp present
    refine ⟨offset, List.findIdx?_eq_some_iff_getElem.mpr ⟨inside, same ▸ holds, ?_⟩, rfl⟩
    intro earlier before
    have none := first (start + earlier) (Nat.le_add_right _ _) (Nat.add_lt_add_left before _)
    rw [← List.getElem?_drop, List.getElem?_eq_getElem (before.trans inside)] at none
    simpa using none

omit [DecidableEq B] in
theorem findFrom_eq_none : findFrom wanted text start = none ↔
    ∀ place, start ≤ place → text[place]?.any wanted = false := by
  rw [findFrom, Option.map_eq_none_iff, List.findIdx?_eq_none_iff]
  constructor
  · intro missing place after
    obtain ⟨offset, rfl⟩ := Nat.exists_eq_add_of_le after
    rw [← List.getElem?_drop]
    cases present : (text.drop start)[offset]? with
    | none => rfl
    | some symbol => exact missing symbol (List.mem_of_getElem? present)
  · intro missing symbol member
    obtain ⟨offset, present⟩ := List.getElem?_of_mem member
    have none := missing (start + offset) (Nat.le_add_right _ _)
    rwa [← List.getElem?_drop, present] at none

omit [DecidableEq B] in
theorem findFrom_lt (found : findFrom wanted text start = some stop) : stop < text.length := by
  obtain ⟨_, here, _⟩ := findFrom_eq_some.mp found
  obtain ⟨symbol, present, _⟩ := (Option.any_eq_true _ _).mp here
  exact (List.getElem?_eq_some_iff.mp present).1

omit [DecidableEq B] in
theorem findFrom_append (found : findFrom wanted text start = some stop) (later : List B) :
    findFrom wanted (text ++ later) start = some stop := by
  have inside := findFrom_lt found
  obtain ⟨after, here, first⟩ := findFrom_eq_some.mp found
  refine findFrom_eq_some.mpr ⟨after, ?_, fun place begins before => ?_⟩
  · rwa [List.getElem?_append_left inside]
  · rw [List.getElem?_append_left (before.trans inside)]
    exact first place begins before

omit [DecidableEq B] in
theorem findFrom_drop (skip : Nat) :
    findFrom wanted text (skip + start) = (findFrom wanted (text.drop skip) start).map (skip + ·) := by
  rw [findFrom, findFrom, List.drop_drop, Option.map_map]
  congr 1
  funext offset
  exact Nat.add_assoc _ _ _

end FindFrom

section Scan
variable {opens closes} {key text content : List B} {stop : Nat}

omit [DecidableEq B] in
theorem entry_eq_some : entry opens closes text = some (content, stop) ↔
    ∃ start, findFrom opens text 0 = some start ∧ findFrom closes text start = some stop ∧
      content = (text.drop (start + 1)).take (stop - start - 1) := by
  unfold entry
  constructor
  · intro found
    split at found
    · cases found
    · rename_i start opened
      split at found
      · cases found
      · rename_i closed
        cases found
        exact ⟨start, opened, closed, rfl⟩
  · rintro ⟨start, opened, closed, rfl⟩
    rw [opened]
    dsimp only
    rw [closed]

omit [DecidableEq B] in
theorem entry_lt (found : entry opens closes text = some (content, stop)) : stop < text.length := by
  obtain ⟨start, _, closed, _⟩ := entry_eq_some.mp found
  exact findFrom_lt closed

omit [DecidableEq B] in
/-- A complete record does not depend on what follows. -/
theorem entry_append (found : entry opens closes text = some (content, stop)) (later : List B) :
    entry opens closes (text ++ later) = some (content, stop) := by
  obtain ⟨start, opened, closed, rfl⟩ := entry_eq_some.mp found
  have inside := findFrom_lt closed
  have order := (findFrom_eq_some.mp closed).1
  refine entry_eq_some.mpr ⟨start, findFrom_append opened later, findFrom_append closed later, ?_⟩
  by_cases adjacent : start = stop
  · rw [adjacent, Nat.sub_self, Nat.zero_sub, List.take_zero, List.take_zero]
  · rw [List.drop_append_of_le_length (by omega), List.take_append_of_le_length]
    rw [List.length_drop]
    omega

omit [DecidableEq B] in
/-- Without a complete record there is none further on. -/
theorem entry_drop_eq_none (missing : entry opens closes text = none) (skip : Nat) :
    entry opens closes (text.drop skip) = none := by
  by_contra found
  obtain ⟨⟨content, stop⟩, found⟩ := Option.ne_none_iff_exists'.mp found
  obtain ⟨start, opened, closed, _⟩ := entry_eq_some.mp found
  have opened : findFrom opens text skip = some (skip + start) := by
    rw [← Nat.add_zero skip, findFrom_drop, Nat.add_zero, opened]
    rfl
  have closed : findFrom closes text (skip + start) = some (skip + stop) := by
    rw [findFrom_drop, closed]
    rfl
  cases first : findFrom opens text 0 with
  | none =>
      have here := (findFrom_eq_some.mp opened).2.1
      rw [findFrom_eq_none.mp first _ (Nat.zero_le _)] at here
      cases here
  | some earlier =>
      have order : earlier ≤ skip + start := by
        by_contra later
        have none := (findFrom_eq_some.mp first).2.2 _ (Nat.zero_le _) (not_le.mp later)
        rw [(findFrom_eq_some.mp opened).2.1] at none
        cases none
      cases last : findFrom closes text earlier with
      | none =>
          have here := (findFrom_eq_some.mp closed).2.1
          have after := order.trans (findFrom_eq_some.mp closed).1
          rw [findFrom_eq_none.mp last _ after] at here
          cases here
      | some stop =>
          rw [entry_eq_some.mpr ⟨earlier, first, last, rfl⟩] at missing
          cases missing

theorem scanFrom_eq_scan (skip : Nat) :
    scanFrom opens closes key skip text = scan opens closes key (text.drop skip) := by
  induction text generalizing skip with
  | nil => rw [List.drop_nil, scan, scanFrom, scanFrom]
  | cons symbol rest inductionHypothesis =>
      cases skip with
      | zero => rfl
      | succ skip => rw [scanFrom, List.drop_succ_cons, inductionHypothesis]

/-- A record at the front. -/
theorem scan_entry (here : key <+: text) (found : entry opens closes text = some (content, stop))
    (positive : 0 < stop) :
    scan opens closes key text = content :: scan opens closes key (text.drop stop) := by
  cases text with
  | nil => exact absurd (entry_lt found) (Nat.not_lt_zero _)
  | cons symbol rest =>
      obtain ⟨stop, rfl⟩ := Nat.exists_eq_succ_of_ne_zero positive.ne'
      rw [scan, scanFrom, if_pos here, found]
      exact congrArg (content :: ·) (scanFrom_eq_scan stop)

/-- Symbols where no key begins can be dropped. -/
theorem scan_drop {skip : Nat} (missing : ∀ place < skip, ¬ key <+: text.drop place) :
    scan opens closes key text = scan opens closes key (text.drop skip) := by
  induction skip generalizing text with
  | zero => rfl
  | succ skip inductionHypothesis =>
      cases text with
      | nil => rfl
      | cons symbol rest =>
          have other : ¬ key <+: symbol :: rest := missing 0 skip.succ_pos
          have later : ∀ place < skip, ¬ key <+: rest.drop place := fun place before =>
            missing (place + 1) (Nat.succ_lt_succ before)
          rw [List.drop_succ_cons, ← inductionHypothesis later, scan, scanFrom, if_neg other, scan]

/-- Without a complete record after a key the scan finds nothing. -/
theorem scan_eq_nil (missing : ∀ place, key <+: text.drop place →
    entry opens closes (text.drop place) = none) : scan opens closes key text = [] := by
  induction text with
  | nil => rfl
  | cons symbol rest inductionHypothesis =>
      have later := inductionHypothesis fun place => missing (place + 1)
      rw [scan, scanFrom]
      split
      · rename_i here
        rw [show entry opens closes (symbol :: rest) = none from missing 0 here]
        exact later
      · exact later

/-- A text that goes on keeps its records. -/
theorem scanFrom_append (skip : Nat) (later : List B) :
    scanFrom opens closes key skip text <+: scanFrom opens closes key skip (text ++ later) := by
  induction text generalizing skip with
  | nil => exact List.nil_prefix
  | cons symbol rest inductionHypothesis =>
      cases skip with
      | succ skip => exact inductionHypothesis skip
      | zero =>
          rw [List.cons_append, scanFrom, scanFrom, ← List.cons_append]
          by_cases here : key <+: symbol :: rest
          · rw [if_pos here, if_pos (here.trans (List.prefix_append _ _))]
            cases found : entry opens closes (symbol :: rest) with
            | some record =>
                rw [entry_append found]
                exact (List.prefix_cons_inj _).mpr (inductionHypothesis _)
            | none =>
                have nothing : scanFrom opens closes key 0 rest = [] :=
                  scan_eq_nil fun place _ => entry_drop_eq_none found (place + 1)
                dsimp only
                rw [nothing]
                exact List.nil_prefix
          · rw [if_neg here]
            by_cases longer : key <+: symbol :: rest ++ later
            · have long : rest.length < key.length := by
                by_contra short
                exact here (List.prefix_of_prefix_length_le longer (List.prefix_append _ _)
                  ((not_lt.mp short).trans (Nat.le_succ _)))
              have nothing : scanFrom opens closes key 0 rest = [] := by
                refine scan_eq_nil fun place occurs => absurd occurs.length_le ?_
                rw [List.length_drop]
                omega
              rw [nothing]
              exact List.nil_prefix
            · rw [if_neg longer]
              exact inductionHypothesis 0

end Scan
end RecordScan
