/-
This file holds lists whose members have different keys.
-/

import Mathlib.Data.List.Basic

namespace KeyedList
variable {A K : Type*} {key : A → K} {members : List A} {place : Nat} {old : A}

/-- Two members with one key are at one place. -/
theorem place_eq (single : (members.map key).Nodup) (found : members[place]? = some old) {other : Nat}
    {member : A} (located : members[other]? = some member) (same : key member = key old) :
    other = place := by
  have inside : other < (members.map key).length := by
    rw [List.length_map]
    exact (List.getElem?_eq_some_iff.mp located).1
  refine (List.getElem?_inj inside single).mp ?_
  rw [List.getElem?_map, List.getElem?_map, located, found, Option.map_some, Option.map_some, same]

theorem mem_eraseIdx_iff (single : (members.map key).Nodup) (found : members[place]? = some old)
    {member : A} : member ∈ members.eraseIdx place ↔ member ∈ members ∧ key member ≠ key old := by
  rw [List.mem_eraseIdx_iff_getElem?]
  constructor
  · rintro ⟨other, different, located⟩
    exact ⟨List.mem_of_getElem? located, fun same => different (place_eq single found located same)⟩
  · rintro ⟨listed, different⟩
    obtain ⟨other, located⟩ := List.getElem?_of_mem listed
    refine ⟨other, fun same => different ?_, located⟩
    rw [same, found] at located
    rw [Option.some.inj located]

theorem mem_set_iff (single : (members.map key).Nodup) (found : members[place]? = some old)
    {new member : A} :
    member ∈ members.set place new ↔ member = new ∨ member ∈ members ∧ key member ≠ key old := by
  have inside := (List.getElem?_eq_some_iff.mp found).1
  rw [← mem_eraseIdx_iff single found, List.set_eq_take_cons_drop _ inside,
    List.eraseIdx_eq_take_drop_succ, List.mem_append, List.mem_cons, List.mem_append]
  tauto

theorem nodup_eraseIdx (single : (members.map key).Nodup) :
    ((members.eraseIdx place).map key).Nodup :=
  single.sublist ((List.eraseIdx_sublist members place).map key)

/-- A member is replaced by one with its key. -/
theorem nodup_set (single : (members.map key).Nodup) (found : members[place]? = some old) {new : A}
    (same : key new = key old) : ((members.set place new).map key).Nodup := by
  obtain ⟨inside, rfl⟩ := List.getElem?_eq_some_iff.mp found
  have kept : (members.set place new).map key = members.map key := by
    rw [List.map_set, same, ← List.getElem_map key, List.set_getElem_self]
    rwa [List.length_map]
  rwa [kept]

end KeyedList
