import Vio.Construction.CameraCapture
import Vio.Library.Selection

namespace Vio
namespace CameraCapture
open Selection

namespace SweepResult
variable {K : Type} [Field K] [LinearOrder K]

/-- A usable result, and no usable one is brighter. -/
def Brightest (results : List (SweepResult K)) (result : SweepResult K) : Prop :=
  result.usable = true ∧ ∀ other ∈ results, other.usable = true → other.mean ≤ result.mean

/-- No result is clipped less. -/
def LeastClipped (results : List (SweepResult K)) (result : SweepResult K) : Prop :=
  ∀ other ∈ results, result.clipped ≤ other.clipped

theorem Brightest.of_append {results later : List (SweepResult K)} {result : SweepResult K}
    (brightest : Brightest (results ++ later) result) : Brightest results result :=
  ⟨brightest.1, fun other member => brightest.2 other (List.mem_append_left _ member)⟩

omit [Field K] in
theorem LeastClipped.of_append {results later : List (SweepResult K)} {result : SweepResult K}
    (least : LeastClipped (results ++ later) result) : LeastClipped results result :=
  fun other member => least other (List.mem_append_left _ member)

/-- The choice among the results so far. The criterion changes with the first usable result. -/
inductive Chosen (results : List (SweepResult K)) : SweepResult K × Bool → Prop
  | clipped {chosen : SweepResult K} (unusable : ∀ result ∈ results, result.usable = false)
      (first : First (LeastClipped results) results chosen) : Chosen results (chosen, false)
  | bright {chosen : SweepResult K} (first : First (Brightest results) results chosen) :
      Chosen results (chosen, true)

/-- One more result keeps the choice: a usable one wins over those with less brightness only. -/
theorem Chosen.choose {results : List (SweepResult K)} {state : SweepResult K × Bool}
    (chosen : Chosen results state) (result : SweepResult K) :
    Chosen (results ++ [result]) (choose state result) := by
  cases chosen with
  | clipped unusable first =>
      rename_i chosen
      cases candidate : result.usable with
      | true =>
          -- The first usable result replaces a choice by the clipped fraction.
          simp only [SweepResult.choose, candidate]
          apply Chosen.bright
          apply first_last
          · refine ⟨candidate, fun other member usable => ?_⟩
            rcases List.mem_append.mp member with member | member
            · rw [unusable other member] at usable
              cases usable
            · rw [List.mem_singleton.mp member]
          · intro other member brightest
            have usable := brightest.1
            rw [unusable other member] at usable
            cases usable
      | false =>
          have unusable : ∀ other ∈ results ++ [result], other.usable = false := by
            intro other member
            rcases List.mem_append.mp member with member | member
            · exact unusable other member
            · rw [List.mem_singleton.mp member, candidate]
          by_cases less : result.clipped < chosen.clipped
          · simp only [SweepResult.choose, candidate, less, decide_true]
            refine Chosen.clipped unusable (first_last ?_ ?_)
            · intro other member
              rcases List.mem_append.mp member with member | member
              · exact less.le.trans (first.holds other member)
              · rw [List.mem_singleton.mp member]
            · intro other member least
              have notLess := least result (List.mem_append_right _ (List.mem_singleton_self _))
              exact absurd ((first.holds other member).trans notLess) (not_le.mpr less)
          · simp only [SweepResult.choose, candidate, less, decide_false]
            refine Chosen.clipped unusable (first.append [result] ?_ fun _ => LeastClipped.of_append)
            intro other member
            rcases List.mem_append.mp member with member | member
            · exact first.holds other member
            · rw [List.mem_singleton.mp member]
              exact not_lt.mp less
  | bright first =>
      rename_i chosen
      by_cases brighter : result.usable = true ∧ result.mean > chosen.mean
      · simp only [SweepResult.choose, brighter.1, brighter.2, decide_true]
        apply Chosen.bright
        apply first_last
        · refine ⟨brighter.1, fun other member usable => ?_⟩
          rcases List.mem_append.mp member with member | member
          · exact (first.holds.2 other member usable).trans brighter.2.le
          · rw [List.mem_singleton.mp member]
        · intro other member brightest
          have notLess := brightest.2 result (List.mem_append_right _ (List.mem_singleton_self _))
            brighter.1
          exact absurd (notLess.trans (first.holds.2 other member brightest.1))
            (not_le.mpr brighter.2)
      · have kept : SweepResult.choose (chosen, true) result = (chosen, true) := by
          cases candidate : result.usable with
          | false => simp [SweepResult.choose, candidate]
          | true =>
              have darker : ¬ result.mean > chosen.mean := fun more => brighter ⟨candidate, more⟩
              simp [SweepResult.choose, candidate, darker]
        rw [kept]
        refine Chosen.bright (first.append [result] ⟨first.holds.1, ?_⟩ fun _ => Brightest.of_append)
        intro other member usable
        rcases List.mem_append.mp member with member | member
        · exact first.holds.2 other member usable
        · rw [List.mem_singleton.mp member] at usable ⊢
          exact not_lt.mp fun more => brighter ⟨usable, more⟩

/-- The choice over the first results goes on over the later ones. -/
theorem Chosen.foldl {results : List (SweepResult K)} {state : SweepResult K × Bool}
    (chosen : Chosen results state) (later : List (SweepResult K)) :
    Chosen (results ++ later) (later.foldl SweepResult.choose state) := by
  induction later generalizing results state with
  | nil => rwa [List.append_nil]
  | cons result later inductionHypothesis =>
      rw [List.append_cons]
      exact inductionHypothesis (chosen.choose result)

/-- After the first result the choice is that result. -/
theorem chosen_first (first : SweepResult K) : Chosen [first] (choose (first, false) first) := by
  have alone (property : SweepResult K → Prop) (holds : property first) :
      First property [first] first := ⟨[], [], rfl, holds, by simp⟩
  cases candidate : first.usable with
  | true =>
      simp only [choose, candidate, Bool.not_false, Bool.true_or, Bool.and_self, Bool.or_true,
        if_true]
      exact .bright (alone _ ⟨candidate, by simp⟩)
  | false =>
      simp only [choose, candidate, lt_irrefl]
      exact .clipped (by simp [candidate]) (alone _ (by simp [LeastClipped]))

/-- The sweep takes the first of the brightest usable results, or, where none is usable, the first of
the least clipped ones. -/
theorem best_first (first : SweepResult K) (rest : List (SweepResult K)) :
    let results := first :: rest
    ((∃ result ∈ results, result.usable = true) →
      First (Brightest results) results (best first rest)) ∧
    ((∀ result ∈ results, result.usable = false) →
      First (LeastClipped results) results (best first rest)) := by
  intro results
  have chosen : Chosen results (results.foldl choose (first, false)) := (chosen_first first).foldl rest
  unfold best
  change (_ → First _ _ (results.foldl choose (first, false)).1) ∧
    (_ → First _ _ (results.foldl choose (first, false)).1)
  generalize results.foldl choose (first, false) = state at chosen
  cases chosen with
  | clipped unusable first =>
      refine ⟨fun ⟨result, member, usable⟩ => ?_, fun _ => first⟩
      rw [unusable result member] at usable
      cases usable
  | bright first =>
      refine ⟨fun _ => first, fun unusable => ?_⟩
      have usable := first.holds.1
      rw [unusable _ first.mem] at usable
      cases usable

end SweepResult
end CameraCapture
end Vio
