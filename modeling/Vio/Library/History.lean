/-
This file holds past-time properties of event histories. A history lists events newest first.
-/

import Mathlib.Data.List.Basic
import Mathlib.Data.List.Infix

namespace History
variable {E : Type*}

/-- Some event satisfies `mark` together with its past, and every later event satisfies `hold`. -/
def Since (hold : E → Prop) (mark : E → List E → Prop) (history : List E) : Prop :=
  ∃ recent event past, history = recent ++ event :: past ∧ mark event past ∧
    ∀ later ∈ recent, hold later

variable {hold : E → Prop} {mark : E → List E → Prop} {history : List E} {event : E}

theorem not_since_nil : ¬ Since hold mark [] := by
  rintro ⟨recent, event, past, split, _⟩
  simp at split

theorem Since.now (marked : mark event history) : Since hold mark (event :: history) :=
  ⟨[], event, history, rfl, marked, by simp⟩

theorem Since.cons (held : hold event) (since : Since hold mark history) :
    Since hold mark (event :: history) := by
  obtain ⟨recent, marker, past, split, marked, kept⟩ := since
  exact ⟨event :: recent, marker, past, by rw [split]; rfl, marked,
    List.forall_mem_cons.mpr ⟨held, kept⟩⟩

theorem since_cons_iff :
    Since hold mark (event :: history) ↔ mark event history ∨ hold event ∧ Since hold mark history := by
  constructor
  · rintro ⟨recent, marker, past, split, marked, kept⟩
    cases recent with
    | nil =>
        simp only [List.nil_append, List.cons.injEq] at split
        obtain ⟨rfl, rfl⟩ := split
        exact .inl marked
    | cons first rest =>
        simp only [List.cons_append, List.cons.injEq] at split
        obtain ⟨rfl, rfl⟩ := split
        have kept := List.forall_mem_cons.mp kept
        exact .inr ⟨kept.1, rest, marker, past, rfl, marked, kept.2⟩
  · rintro (marked | ⟨held, since⟩)
    · exact Since.now marked
    · exact since.cons held

/-- Every event satisfies `law` together with its past. -/
def Always (law : E → List E → Prop) (history : List E) : Prop :=
  ∀ recent event past, history = recent ++ event :: past → law event past

variable {law : E → List E → Prop}

theorem always_nil : Always law [] := by
  intro recent event past split
  simp at split

theorem Always.cons (current : law event history) (always : Always law history) :
    Always law (event :: history) := by
  intro recent marker past split
  cases recent with
  | nil =>
      simp only [List.nil_append, List.cons.injEq] at split
      obtain ⟨rfl, rfl⟩ := split
      exact current
  | cons first rest =>
      simp only [List.cons_append, List.cons.injEq] at split
      exact always rest marker past split.2

theorem Always.head (always : Always law (event :: history)) : law event history :=
  always [] event history rfl

theorem Always.tail (always : Always law (event :: history)) : Always law history :=
  fun recent marker past split => always (event :: recent) marker past (congrArg _ split)

/-- The newest value that `read` finds. -/
def latest {A : Type*} (read : E → Option A) (history : List E) : Option A :=
  history.findSome? read

@[simp] theorem latest_nil {A : Type*} (read : E → Option A) : latest read [] = none := rfl

theorem latest_cons_some {A : Type*} {read : E → Option A} {value : A} (found : read event = some value) :
    latest read (event :: history) = some value := by
  simp [latest, List.findSome?, found]

theorem latest_cons_none {A : Type*} {read : E → Option A} (skipped : read event = none) :
    latest read (event :: history) = latest read history := by
  simp [latest, List.findSome?, skipped]

/-- The values that `read` finds, oldest first. -/
def heard {A : Type*} (read : E → Option A) (history : List E) : List A :=
  (history.filterMap read).reverse

@[simp] theorem heard_nil {A : Type*} (read : E → Option A) : heard read [] = [] := rfl

theorem heard_cons_some {A : Type*} {read : E → Option A} {value : A} (found : read event = some value) :
    heard read (event :: history) = heard read history ++ [value] := by
  rw [heard, List.filterMap_cons_some found, List.reverse_cons, heard]

theorem heard_cons_none {A : Type*} {read : E → Option A} (skipped : read event = none) :
    heard read (event :: history) = heard read history := by
  rw [heard, List.filterMap_cons_none skipped, heard]

theorem latest_eq_getLast? {A : Type*} (read : E → Option A) (history : List E) :
    latest read history = (heard read history).getLast? := by
  rw [heard, List.getLast?_reverse, latest, List.head?_filterMap]

/-- The events after the last one with the mark, newest first. -/
def recent (mark : E → Bool) (history : List E) : List E := history.takeWhile fun event => !mark event

@[simp] theorem recent_nil (mark : E → Bool) : recent mark [] = [] := rfl

theorem recent_cons_mark {mark : E → Bool} (marked : mark event = true) :
    recent mark (event :: history) = [] := by
  rw [recent, List.takeWhile_cons_of_neg (by simp [marked])]

theorem recent_cons_other {mark : E → Bool} (other : mark event = false) :
    recent mark (event :: history) = event :: recent mark history := by
  rw [recent, List.takeWhile_cons_of_pos (by simp [other]), recent]

end History
