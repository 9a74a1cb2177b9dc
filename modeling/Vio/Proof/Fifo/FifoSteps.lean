import Vio.Construction.FifoCapture
import Vio.Proof.Runner.MetadataCuts

namespace Vio

namespace MetaThread
variable {thread next : MetaThread} {action : MetaAction}

/-- A step that ends in an exception pushes nothing. -/
theorem step_threw {thrown : Thrown} (moved : thread.step action = some next)
    (threw : next.stage = .threw thrown) : next.pushed = thread.pushed := by
  cases action with
  | read bytes =>
      obtain ⟨_, ⟨⟩⟩ := Option.ite_none_right_eq_some.mp moved
      rfl
  | scan =>
      obtain ⟨scanning, ⟨⟩⟩ := Option.ite_none_right_eq_some.mp moved
      revert threw
      unfold scanRound push
      repeat' split
      any_goals exact fun _ => rfl
      intro threw
      rw [show thread.stage = .threw thrown from threw] at scanning
      cases scanning
  | close =>
      obtain ⟨_, ⟨⟩⟩ := Option.ite_none_right_eq_some.mp moved
      cases threw
  | take =>
      simp only [step] at moved
      split at moved
      · cases moved
      · cases moved
        rfl

/-- What a step does to the queue of the timestamps. -/
theorem step_queue (moved : thread.step action = some next) :
    (action ≠ .take ∧ ∃ new, next.pushed = thread.pushed ++ new ∧ next.metaTs = thread.metaTs ++ new) ∨
      (action = .take ∧ next.pushed = thread.pushed ∧ ∃ ts, thread.metaTs = ts :: next.metaTs) := by
  cases action with
  | read bytes =>
      obtain ⟨_, ⟨⟩⟩ := Option.ite_none_right_eq_some.mp moved
      exact .inl ⟨by simp, [], (List.append_nil _).symm, (List.append_nil _).symm⟩
  | scan =>
      obtain ⟨_, ⟨⟩⟩ := Option.ite_none_right_eq_some.mp moved
      refine .inl ⟨by simp, ?_⟩
      unfold scanRound push
      repeat' split
      any_goals exact ⟨[], (List.append_nil _).symm, (List.append_nil _).symm⟩
      exact ⟨[_], rfl, rfl⟩
  | close =>
      obtain ⟨_, ⟨⟩⟩ := Option.ite_none_right_eq_some.mp moved
      exact .inl ⟨by simp, [], (List.append_nil _).symm, (List.append_nil _).symm⟩
  | take =>
      simp only [step] at moved
      split at moved
      · cases moved
      · rename_i ts rest queue
        cases moved
        exact .inr ⟨rfl, rfl, ts, queue⟩

theorem scanRound_stage (scanning : thread.stage = .scanning) : thread.scanRound.stage ≠ .done := by
  unfold scanRound push trim
  repeat' split
  all_goals simp [scanning]

/-- `meta_done` is set at the end of the thread only. -/
def Ends (thread : MetaThread) : Prop := thread.metaDone = true → thread.stage = .done

/-- Only the end of the thread sets `meta_done`, and nothing follows it. -/
theorem Ends.step (ends : thread.Ends) (moved : thread.step action = some next) : next.Ends := by
  cases action with
  | read bytes =>
      obtain ⟨⟨reading, _⟩, ⟨⟩⟩ := Option.ite_none_right_eq_some.mp moved
      intro done
      rw [ends done] at reading
      cases reading
  | scan =>
      obtain ⟨scanning, ⟨⟩⟩ := Option.ite_none_right_eq_some.mp moved
      intro done
      have before : thread.metaDone = true := by
        revert done
        unfold scanRound push
        repeat' split
        all_goals exact id
      rw [ends before] at scanning
      cases scanning
  | close =>
      obtain ⟨_, ⟨⟩⟩ := Option.ite_none_right_eq_some.mp moved
      exact fun _ => rfl
  | take =>
      simp only [MetaThread.step] at moved
      split at moved
      · cases moved
      · cases moved
        exact ends

end MetaThread

namespace FrameReplay

/-- Without a whole frame the thread ends. -/
theorem frameThread_short {npx : Nat} {bytes : List UInt8} (short : bytes.length < 2 * npx)
    (idx : Nat) (stamps : List Int) : frameThread npx idx bytes stamps = ([], none) := by
  cases stamps with
  | nil => rfl
  | cons ts stamps => rw [frameThread, if_pos short]

/-- A whole frame at the front takes the first timestamp. -/
theorem frameThread_cons {npx : Nat} {raw : List UInt8} (whole : raw.length = 2 * npx) (idx : Nat)
    (rest : List UInt8) (ts : Int) (stamps : List Int) :
    frameThread npx idx (raw ++ rest) (ts :: stamps) =
      if lowBytesClear npx (if idx + 1 = 1 then 1 else 997) raw = false then
        ([], some "frame low byte nonzero -- not the R8 8-bit-in-16 layout")
      else
        ((ts, highBytes npx raw) :: (frameThread npx (idx + 1) rest stamps).1,
          (frameThread npx (idx + 1) rest stamps).2) := by
  rw [frameThread, if_neg (by rw [List.length_append, whole]; omega)]
  dsimp only
  rw [List.take_left' whole, List.drop_left' whole]

end FrameReplay
end Vio
