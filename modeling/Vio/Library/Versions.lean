/-
This file holds a value that is replaced as a whole on storage. A crash may take back the
replacements that no sync has made durable.
-/

import Mathlib.Logic.Function.Iterate
import Mathlib.Tactic.Common

/-- The value that a reader sees, and the values that the unsynced replacements replaced,
newest first. -/
structure Versions (A : Type) where
  live : A
  replaced : List A := []
  deriving DecidableEq, Repr

namespace Versions
variable {A : Type}

def put (versions : Versions A) (value : A) : Versions A :=
  { live := value, replaced := versions.live :: versions.replaced }

/-- Every replacement so far is durable. -/
def sync (versions : Versions A) : Versions A := { live := versions.live }

/-- A crash takes the newest `count` replacements back; a durable one stays. -/
def lose (versions : Versions A) (count : Nat) : Option (Versions A) :=
  (versions.live :: versions.replaced)[count]?.map fun live => { live }

/-- Each value that a crash can leave satisfies `holds`. -/
def All (holds : A → Prop) (versions : Versions A) : Prop :=
  ∀ value ∈ versions.live :: versions.replaced, holds value

section All
variable {holds : A → Prop} {versions : Versions A}

theorem All.live (all : versions.All holds) : holds versions.live :=
  all _ (List.mem_cons_self ..)

theorem All.put (all : versions.All holds) {value : A} (new : holds value) :
    (versions.put value).All holds := by
  intro other member
  rcases List.mem_cons.mp member with rfl | member
  · exact new
  · exact all other member

theorem All.sync (all : versions.All holds) : versions.sync.All holds := by
  intro value member
  rw [List.mem_singleton.mp member]
  exact all.live

theorem All.lose (all : versions.All holds) {count : Nat} {left : Versions A}
    (lost : versions.lose count = some left) : left.All holds := by
  obtain ⟨value, found, rfl⟩ := Option.map_eq_some_iff.mp lost
  intro other member
  rw [List.mem_singleton.mp member]
  exact all value (List.mem_of_getElem? found)

end All

/-- The live value is `count` steps after `base`, and a value that a crash can leave is as many
steps earlier as replacements are lost. -/
def Grown (next : A → A) (base : A) (count : Nat) (versions : Versions A) : Prop :=
  ∀ index value, (versions.live :: versions.replaced)[index]? = some value →
    index ≤ count ∧ value = next^[count - index] base

section Grown
variable {next : A → A} {base : A} {count : Nat} {versions : Versions A}

theorem grown_new (next : A → A) (base : A) : Grown next base 0 { live := base } := by
  intro index value found
  cases index with
  | zero => exact ⟨Nat.le_refl 0, (Option.some.inj found).symm⟩
  | succ index => cases found

theorem Grown.live (grown : versions.Grown next base count) : versions.live = next^[count] base :=
  (grown 0 _ rfl).2

theorem Grown.put (grown : versions.Grown next base count) :
    (versions.put (next versions.live)).Grown next base (count + 1) := by
  intro index value found
  cases index with
  | zero =>
      refine ⟨Nat.zero_le _, ?_⟩
      rw [Nat.sub_zero, Function.iterate_succ_apply', ← grown.live]
      exact (Option.some.inj found).symm
  | succ index =>
      obtain ⟨bound, same⟩ := grown index value found
      exact ⟨Nat.succ_le_succ bound, by rwa [Nat.add_sub_add_right]⟩

theorem Grown.sync (grown : versions.Grown next base count) :
    versions.sync.Grown next base count := by
  intro index value found
  cases index with
  | zero => exact grown 0 value found
  | succ index => cases found

/-- A crash undoes steps, and never more of them than there were. -/
theorem Grown.lose (grown : versions.Grown next base count) {lost : Nat} {left : Versions A}
    (crash : versions.lose lost = some left) :
    lost ≤ count ∧ left.Grown next base (count - lost) := by
  obtain ⟨value, found, rfl⟩ := Option.map_eq_some_iff.mp crash
  obtain ⟨bound, same⟩ := grown lost value found
  refine ⟨bound, fun index other member => ?_⟩
  cases index with
  | zero => exact ⟨Nat.zero_le _, (Option.some.inj member).symm.trans same⟩
  | succ index => cases member

end Grown

end Versions
