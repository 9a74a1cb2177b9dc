/-
This file holds paths as texts: their segments, the place that a path leads to in a tree of directories
without links, and the lexical normal form, which leads to the same place and is a fixed point.
-/

import Mathlib.Data.List.Basic
import Mathlib.Logic.Function.Iterate

namespace LexicalPath

/-- The separator of the segments, and the letter of the segments that stand for a directory itself and
for the one above it. -/
structure Signs (α : Type*) where
  slash : α
  dot : α
  different : dot ≠ slash

variable {α : Type*} [DecidableEq α] (signs : Signs α)

abbrev Signs.up : List α := [signs.dot, signs.dot]

/-- The segment names an entry of a directory. -/
structure Signs.Names (segment : List α) : Prop where
  nonempty : segment ≠ []
  here : segment ≠ [signs.dot]
  above : segment ≠ signs.up
  whole : signs.slash ∉ segment

def Signs.segments (text : List α) : List (List α) := text.splitOn signs.slash

def Signs.absolute (text : List α) : Bool := text.head? = some signs.slash

theorem Signs.segments_whole (text : List α) : ∀ segment ∈ signs.segments text, signs.slash ∉ segment := by
  induction text with
  | nil => simp [Signs.segments, List.splitOn_nil]
  | cons letter rest inductionHypothesis =>
      unfold Signs.segments at *
      rw [List.splitOn_cons_eq_if_modifyHead]
      by_cases slash : letter = signs.slash
      · rw [if_pos (beq_iff_eq.mpr slash)]
        exact List.forall_mem_cons.mpr ⟨List.not_mem_nil, inductionHypothesis⟩
      · rw [if_neg (by simpa using slash)]
        cases split : rest.splitOn signs.slash with
        | nil => exact nofun
        | cons first others =>
            rw [split] at inductionHypothesis
            obtain ⟨here, later⟩ := List.forall_mem_cons.mp inductionHypothesis
            refine List.forall_mem_cons.mpr ⟨?_, later⟩
            rintro (_ | ⟨_, member⟩)
            · exact slash rfl
            · exact here member

/-- A step from a place, which is the list of the names that lead to it. -/
def Signs.visit (place : List (List α)) (segment : List α) : List (List α) :=
  if segment = [] ∨ segment = [signs.dot] then place
  else if segment = signs.up then place.dropLast
  else place ++ [segment]

/-- The place that a path leads to from a base. -/
def Signs.place (base : List (List α)) (text : List α) : List (List α) :=
  (signs.segments text).foldl signs.visit (if signs.absolute text then [] else base)

section Place
variable {signs}

theorem place_absolute {text : List α} (absolute : signs.absolute text = true)
    (first second : List (List α)) : signs.place first text = signs.place second text := by
  unfold Signs.place
  rw [if_pos absolute, if_pos absolute]

theorem place_nil (base : List (List α)) : signs.place base [] = base := by
  simp [Signs.place, Signs.segments, Signs.absolute, Signs.visit, List.splitOn_nil]

/-- What follows a separator starts where the path before it leads to. -/
theorem place_append (base : List (List α)) (first second : List α) :
    signs.place base (first ++ signs.slash :: second) =
      (signs.segments second).foldl signs.visit (signs.place base (first ++ [signs.slash])) := by
  have head (rest : List α) : signs.absolute (first ++ signs.slash :: rest) =
      signs.absolute (first ++ [signs.slash]) := by
    cases first <;> rfl
  have hollow : signs.segments [] = [[]] := List.splitOn_nil _
  unfold Signs.place
  rw [head, Signs.segments, List.splitOn_append_cons_self, List.foldl_append]
  rw [Signs.segments, List.splitOn_append_cons_self, List.foldl_append]
  change _ = (signs.segments second).foldl signs.visit ((signs.segments []).foldl signs.visit _)
  rw [hollow]
  simp [Signs.visit, Signs.segments]

theorem place_slash (base : List (List α)) {text : List α} (some : text ≠ []) :
    signs.place base (text ++ [signs.slash]) = signs.place base text := by
  have head : signs.absolute (text ++ [signs.slash]) = signs.absolute text := by
    cases text with
    | nil => exact absurd rfl some
    | cons letter rest => rfl
  unfold Signs.place
  rw [head, Signs.segments, List.splitOn_append_cons_self, List.foldl_append]
  simp [Signs.visit, Signs.segments, List.splitOn_nil]

end Place

/-- A path without segments that could be left out. -/
@[ext] structure NormalPath (signs : Signs α) where
  root : Bool
  ups : Nat := 0
  names : List (List α) := []
  directory : Bool := false
  named : ∀ name ∈ names, signs.Names name
  rooted : root = true → ups = 0
  entered : directory = true → names ≠ []

namespace NormalPath
variable {signs} (path : NormalPath signs)

def start (root : Bool) : NormalPath signs where
  root
  ups := 0
  names := []
  directory := false
  named := nofun
  rooted _ := rfl
  entered := nofun

/-- One more segment. -/
def enter (segment : List α) (whole : signs.slash ∉ segment) : NormalPath signs :=
  if hollow : segment = [] ∨ segment = [signs.dot] then
    { path with
      directory := !path.names.isEmpty
      entered := fun inside empty => by simp [empty] at inside }
  else if above : segment = signs.up then
    { path with
      ups := if path.root = false ∧ path.names = [] then path.ups + 1 else path.ups
      names := path.names.dropLast
      directory := !path.names.dropLast.isEmpty
      named := fun name member => path.named name (List.dropLast_subset _ member)
      rooted := fun root => by rw [if_neg (by simp [root])]; exact path.rooted root
      entered := fun inside empty => by simp [empty] at inside }
  else
    { path with
      names := path.names ++ [segment]
      directory := false
      named := by
        intro name member
        rcases List.mem_append.mp member with member | member
        · exact path.named name member
        · rw [List.mem_singleton.mp member]
          exact ⟨fun empty => hollow (.inl empty), fun here => hollow (.inr here), above, whole⟩
      entered := nofun }

def follow (path : NormalPath signs) : (segments : List (List α)) →
    (∀ segment ∈ segments, signs.slash ∉ segment) → NormalPath signs
  | [], _ => path
  | segment :: rest, whole =>
      (path.enter segment (whole segment List.mem_cons_self)).follow rest
        fun other member => whole other (List.mem_cons_of_mem _ member)

def segments : List (List α) :=
  if path.names = [] then
    if path.root then [[], []]
    else if path.ups = 0 then [[signs.dot]]
    else List.replicate path.ups signs.up
  else
    (if path.root then [[]] else []) ++ List.replicate path.ups signs.up ++ path.names ++
      if path.directory then [[]] else []

def text : List α := [signs.slash].intercalate path.segments

/-- The place that the path leads to from a base. -/
def place (base : List (List α)) : List (List α) :=
  (if path.root then [] else List.dropLast^[path.ups] base) ++ path.names

end NormalPath

/-- The normal form of a path. -/
def Signs.normalize (text : List α) : NormalPath signs :=
  (NormalPath.start (signs.absolute text)).follow (signs.segments text) (signs.segments_whole text)

namespace NormalPath
variable {signs} (path : NormalPath signs)

section Place
variable (base : List (List α))

theorem root_enter (segment : List α) (whole : signs.slash ∉ segment) :
    (path.enter segment whole).root = path.root := by
  unfold enter
  split
  · rfl
  · split <;> rfl

theorem root_follow (segments : List (List α)) (whole : ∀ segment ∈ segments, signs.slash ∉ segment) :
    (path.follow segments whole).root = path.root := by
  induction segments generalizing path with
  | nil => rfl
  | cons segment rest inductionHypothesis =>
      rw [follow, inductionHypothesis, root_enter]

/-- Each segment moves the place of the path. -/
theorem place_enter (segment : List α) (whole : signs.slash ∉ segment) :
    (path.enter segment whole).place base = signs.visit (path.place base) segment := by
  unfold enter Signs.visit
  split
  · rfl
  · split
    · dsimp only [place]
      by_cases names : path.names = []
      · cases root : path.root with
        | true => simp [names]
        | false => simp [names, Function.iterate_succ_apply']
      · simp only [names, and_false, if_false]
        rw [List.dropLast_append_of_ne_nil names]
    · exact (List.append_assoc ..).symm

theorem place_follow (segments : List (List α)) (whole : ∀ segment ∈ segments, signs.slash ∉ segment) :
    (path.follow segments whole).place base = segments.foldl signs.visit (path.place base) := by
  induction segments generalizing path with
  | nil => rfl
  | cons segment rest inductionHypothesis =>
      rw [follow, inductionHypothesis, place_enter, List.foldl_cons]

theorem place_normalize (text : List α) :
    (signs.normalize text).place base = signs.place base text := by
  unfold Signs.normalize Signs.place
  rw [place_follow]
  congr 1
  cases signs.absolute text <;> simp [place, start]

end Place
section Text

omit [DecidableEq α] in
theorem up_whole : signs.slash ∉ signs.up := by
  simp [Ne.symm signs.different]

omit [DecidableEq α] in
theorem segments_ne_nil : path.segments ≠ [] := by
  unfold segments
  split
  · split
    · exact List.cons_ne_nil _ _
    · split
      · exact List.cons_ne_nil _ _
      · rename_i some
        exact fun none => some (List.replicate_eq_nil_iff _ |>.mp none)
  · rename_i some
    simp [some]

omit [DecidableEq α] in
theorem segments_whole : ∀ segment ∈ path.segments, signs.slash ∉ segment := by
  have names : ∀ name ∈ path.names, signs.slash ∉ name := fun name member => (path.named name member).whole
  have ups : ∀ segment ∈ List.replicate path.ups signs.up, signs.slash ∉ segment :=
    fun segment member => (List.mem_replicate.mp member).2 ▸ up_whole
  have hollow (flag : Bool) : ∀ segment ∈ (if flag then [[]] else [] : List (List α)),
      signs.slash ∉ segment := by
    cases flag <;> simp
  intro segment member
  unfold segments at member
  split at member
  · split at member
    · simp only [List.mem_cons, List.not_mem_nil, or_false, or_self] at member
      rw [member]
      exact List.not_mem_nil
    · split at member
      · rw [List.mem_singleton.mp member]
        simp [Ne.symm signs.different]
      · exact ups segment member
  · rcases List.mem_append.mp member with member | member
    · rcases List.mem_append.mp member with member | member
      · rcases List.mem_append.mp member with member | member
        · exact hollow _ segment member
        · exact ups segment member
      · exact names segment member
    · exact hollow _ segment member

theorem segments_text : signs.segments path.text = path.segments :=
  List.splitOn_intercalate signs.slash path.segments_whole path.segments_ne_nil

theorem absolute_text : signs.absolute path.text = path.root := by
  cases root : path.root with
  | true =>
      have starts : ∃ next rest, path.segments = [] :: next :: rest := by
        unfold segments
        rw [root, path.rooted root]
        cases names : path.names with
        | nil => exact ⟨[], [], rfl⟩
        | cons name others => exact ⟨name, _, rfl⟩
      obtain ⟨next, rest, same⟩ := starts
      rw [Signs.absolute, text, same, List.intercalate_cons_cons]
      simp
  | false =>
      have starts : ∃ letter letters rest, path.segments = (letter :: letters) :: rest := by
        unfold segments
        rw [root]
        cases ups : path.ups with
        | zero =>
            cases names : path.names with
            | nil => exact ⟨_, _, _, rfl⟩
            | cons name others =>
                cases name with
                | nil => exact absurd rfl (path.named [] (names ▸ List.mem_cons_self)).nonempty
                | cons letter letters => exact ⟨letter, letters, _, rfl⟩
        | succ count =>
            cases names : path.names with
            | nil => exact ⟨_, _, _, rfl⟩
            | cons name others => exact ⟨_, _, _, rfl⟩
      obtain ⟨letter, letters, rest, same⟩ := starts
      have other : letter ≠ signs.slash := by
        intro equal
        have whole := path.segments_whole (letter :: letters) (same ▸ List.mem_cons_self)
        exact whole (equal ▸ List.mem_cons_self)
      rw [Signs.absolute, text, same]
      cases rest with
      | nil => simpa using other
      | cons next rest =>
          rw [List.intercalate_cons_cons]
          simpa using other

theorem follow_append {first second : List (List α)}
    (whole : ∀ segment ∈ first ++ second, signs.slash ∉ segment) :
    path.follow (first ++ second) whole =
      (path.follow first fun segment member => whole segment (List.mem_append_left _ member)).follow second
        fun segment member => whole segment (List.mem_append_right _ member) := by
  induction first generalizing path with
  | nil => rfl
  | cons segment rest inductionHypothesis => exact inductionHypothesis _ _

theorem follow_congr {first second : List (List α)} (same : first = second)
    (whole : ∀ segment ∈ first, signs.slash ∉ segment) :
    path.follow first whole = path.follow second (same ▸ whole) := by
  subst same
  rfl

/-- What is left of the segments above the base. -/
theorem follow_ups (count : Nat) (relative : path.root = false) (none : path.names = [])
    (whole : ∀ segment ∈ List.replicate count signs.up, signs.slash ∉ segment) :
    let last := path.follow (List.replicate count signs.up) whole
    last.root = false ∧ last.ups = path.ups + count ∧ last.names = [] ∧
      (path.directory = false → last.directory = false) := by
  induction count generalizing path with
  | zero => exact ⟨relative, rfl, none, id⟩
  | succ count inductionHypothesis =>
      have entered : (path.enter signs.up up_whole).ups = path.ups + 1 ∧
          (path.enter signs.up up_whole).names = [] ∧
          (path.enter signs.up up_whole).directory = false := by
        simp [enter, relative, none]
      obtain ⟨root, ups, names, inside⟩ := inductionHypothesis (path.enter signs.up up_whole)
        ((path.root_enter ..).trans relative) entered.2.1
        fun segment member => whole segment (List.mem_cons_of_mem _ member)
      refine ⟨root, ?_, names, fun _ => inside entered.2.2⟩
      rw [← Nat.add_assoc, Nat.add_right_comm, ← entered.1]
      exact ups

theorem follow_names {names : List (List α)} (named : ∀ name ∈ names, signs.Names name) :
    let last := path.follow names fun name member => (named name member).whole
    last.ups = path.ups ∧ last.names = path.names ++ names ∧
      (path.directory = false → last.directory = false) := by
  induction names generalizing path with
  | nil => exact ⟨rfl, (List.append_nil _).symm, id⟩
  | cons name rest inductionHypothesis =>
      have here := named name List.mem_cons_self
      have ordinary : ¬ (name = [] ∨ name = [signs.dot]) := not_or.mpr ⟨here.nonempty, here.here⟩
      obtain ⟨ups, names, inside⟩ := inductionHypothesis (path.enter name here.whole)
        fun other member => named other (List.mem_cons_of_mem _ member)
      have entered : (path.enter name here.whole).ups = path.ups ∧
          (path.enter name here.whole).names = path.names ++ [name] ∧
          (path.enter name here.whole).directory = false := by
        simp [enter, ordinary, here.above]
      refine ⟨ups.trans entered.1, names.trans ?_, fun _ => inside entered.2.2⟩
      rw [entered.2.1, List.append_assoc]
      rfl

theorem follow_root (root : Bool)
    (whole : ∀ segment ∈ (if root then [[]] else [] : List (List α)), signs.slash ∉ segment) :
    (start root : NormalPath signs).follow (if root then [[]] else []) whole = start root := by
  cases root with
  | false => rfl
  | true => simp [follow, enter, start]

theorem follow_directory (directory : Bool) (named : path.names ≠ []) (outside : path.directory = false)
    (whole : ∀ segment ∈ (if directory then [[]] else [] : List (List α)), signs.slash ∉ segment) :
    let last := path.follow (if directory then [[]] else []) whole
    last.ups = path.ups ∧ last.names = path.names ∧ last.directory = directory := by
  cases directory with
  | false => exact ⟨rfl, rfl, outside⟩
  | true => simp [follow, enter, named]

/-- The text of a normal form is a fixed point of the normalization. -/
theorem normalize_text : signs.normalize path.text = path := by
  have whole := path.segments_whole
  have same : signs.normalize path.text = (start path.root).follow path.segments whole := by
    unfold Signs.normalize
    rw [follow_congr _ path.segments_text, absolute_text]
  have root : ((start path.root).follow path.segments whole).root = path.root := root_follow ..
  rw [same]
  by_cases none : path.names = []
  · have outside : path.directory = false :=
      eq_false_of_ne_true fun inside => path.entered inside none
    by_cases rooted : path.root = true
    · have split : path.segments = [[], []] := by simp [segments, none, rooted]
      rw [follow_congr _ split] at root ⊢
      refine NormalPath.ext root ?_ ?_ ?_ <;>
        simp [follow, enter, start, none, outside, path.rooted rooted]
    · have relative := eq_false_of_ne_true rooted
      by_cases zero : path.ups = 0
      · have split : path.segments = [[signs.dot]] := by simp [segments, none, relative, zero]
        rw [follow_congr _ split] at root ⊢
        refine NormalPath.ext root ?_ ?_ ?_ <;> simp [follow, enter, start, none, outside, zero]
      · have split : path.segments = List.replicate path.ups signs.up := by
          simp [segments, none, relative, zero]
        rw [follow_congr _ split] at root ⊢
        obtain ⟨_, ups, names, inside⟩ := (start path.root : NormalPath signs).follow_ups path.ups relative
          rfl (split ▸ whole)
        refine NormalPath.ext root (ups.trans (Nat.zero_add _)) (names.trans none.symm) ?_
        rw [inside rfl, outside]
  · have split : path.segments = (if path.root then [[]] else []) ++
        (List.replicate path.ups signs.up ++ (path.names ++ if path.directory then [[]] else [])) := by
      simp only [segments, if_neg none, List.append_assoc]
    rw [follow_congr _ split] at root ⊢
    rw [follow_append, follow_root, follow_append, follow_append] at root ⊢
    have above (free : ∀ segment ∈ List.replicate path.ups signs.up, signs.slash ∉ segment) :
        let last := (start path.root).follow (List.replicate path.ups signs.up) free
        last.ups = path.ups ∧ last.names = [] ∧ last.directory = false := by
      cases rooted : path.root with
      | true =>
          have zero : List.replicate path.ups signs.up = [] := by rw [path.rooted rooted]; rfl
          rw [follow_congr _ zero]
          exact ⟨(path.rooted rooted).symm, rfl, rfl⟩
      | false =>
          obtain ⟨_, ups, names, inside⟩ :=
            (start false : NormalPath signs).follow_ups path.ups rfl rfl free
          exact ⟨ups.trans (Nat.zero_add _), names, inside rfl⟩
    obtain ⟨ups, empty, outside⟩ := above fun segment member =>
      (List.mem_replicate.mp member).2 ▸ up_whole
    obtain ⟨later, names, still⟩ := ((start path.root).follow (List.replicate path.ups signs.up)
      fun segment member => (List.mem_replicate.mp member).2 ▸ up_whole).follow_names path.named
    rw [empty, List.nil_append] at names
    obtain ⟨last, all, directory⟩ := follow_directory _ path.directory (by rw [names]; exact none)
      (still outside) (by cases path.directory <;> simp)
    exact NormalPath.ext root (last.trans (later.trans ups)) (all.trans names) directory

theorem place_text (base : List (List α)) : signs.place base path.text = path.place base := by
  rw [← place_normalize, normalize_text]

end Text
end NormalPath
end LexicalPath
