import Mathlib.Data.List.Basic
import Mathlib.Data.List.Induction
import Mathlib.Data.List.TakeWhile
import Vio.Construction.CameraQueue

namespace Vio

def ReadOutcome.returnedFrame {F E : Type} : ReadOutcome F E → Option F
  | .frame returned => some returned
  | .nothing => none
  | .throws _ => none

namespace QueueAction
variable {F E : Type}

def isClose : QueueAction F E → Bool
  | .close => true
  | _ => false

def pushedFrame : QueueAction F E → Option F
  | .push frame => some frame
  | _ => none

def failedError : QueueAction F E → Option E
  | .fail error => some error
  | _ => none

/-- The frames that actions without a reset push before they close the queue. -/
def entered (actions : List (QueueAction F E)) : List F :=
  (actions.takeWhile fun action => !action.isClose).filterMap pushedFrame

/-- Neither a failure nor a close is among the actions. -/
def Calm (actions : List (QueueAction F E)) : Prop :=
  ∀ action ∈ actions, action.failedError = none ∧ action.isClose = false

instance [DecidableEq E] (actions : List (QueueAction F E)) : Decidable (Calm actions) :=
  inferInstanceAs (Decidable (∀ action ∈ actions, _))

/-- Actions without a close push all their frames into the open queue. -/
theorem Calm.entered {actions : List (QueueAction F E)} (calm : Calm actions) :
    entered actions = actions.filterMap pushedFrame := by
  rw [QueueAction.entered, List.takeWhile_eq_self_iff.mpr]
  intro action member
  rw [(calm action member).2]
  rfl

theorem calm_append {actions : List (QueueAction F E)} {action : QueueAction F E} :
    Calm (actions ++ [action]) ↔
      Calm actions ∧ action.failedError = none ∧ action.isClose = false := by
  simp only [Calm, List.forall_mem_append, List.mem_singleton, forall_eq]

theorem isClose_iff {action : QueueAction F E} : action.isClose = true ↔ action = .close := by
  cases action <;> simp [isClose]

/-- No frame enters after a close. -/
theorem entered_shut {actions : List (QueueAction F E)} (shut : .close ∈ actions)
    (later : List (QueueAction F E)) : entered (actions ++ later) = entered actions := by
  unfold entered
  induction actions with
  | nil => cases shut
  | cons first actions inductionHypothesis =>
      rw [List.cons_append]
      by_cases close : first = .close
      · rw [close]
        rfl
      · have other : (!first.isClose) = true := by
          rw [Bool.not_eq_true', Bool.eq_false_iff]
          exact mt isClose_iff.mp close
        have shut := (List.mem_cons.mp shut).resolve_left (Ne.symm close)
        simp only [List.takeWhile_cons, other, if_true, List.filterMap_cons, inductionHypothesis shut]

/-- Before a close each frame enters. -/
theorem entered_opened {actions : List (QueueAction F E)} (opened : .close ∉ actions)
    (action : QueueAction F E) :
    entered (actions ++ [action]) = entered actions ++ action.pushedFrame.toList := by
  have others : ∀ first ∈ actions, (!first.isClose) = true := by
    intro first member
    rw [Bool.not_eq_true', Bool.eq_false_iff]
    rintro close
    exact opened (isClose_iff.mp close ▸ member)
  unfold entered
  rw [List.takeWhile_append_of_pos others, List.filterMap_append,
    List.takeWhile_eq_self_iff.mpr others]
  cases action <;> rfl

/-- An action that pushes no frame, or comes after a close, lets no frame in. -/
theorem entered_idle {actions : List (QueueAction F E)} {action : QueueAction F E}
    (idle : action.pushedFrame = none ∨ .close ∈ actions) :
    entered (actions ++ [action]) = entered actions := by
  by_cases shut : .close ∈ actions
  · exact entered_shut shut [action]
  · rw [entered_opened shut, idle.resolve_right shut]
    exact List.append_nil _

end QueueAction

open QueueAction

namespace CameraQueue
variable {F E : Type} {queue : CameraQueue F E}

theorem run_append (actions later : List (QueueAction F E)) :
    queue.run (actions ++ later) = (queue.run actions).run later := List.foldl_append

theorem run_snoc (actions : List (QueueAction F E)) (action : QueueAction F E) :
    queue.run (actions ++ [action]) = (queue.run actions).step action := run_append actions [action]

/-- One more action adds its outcome at the end. -/
theorem outcomes_snoc (actions : List (QueueAction F E)) (action : QueueAction F E) :
    queue.outcomes (actions ++ [action]) =
      queue.outcomes actions ++ ((queue.run actions).outcome action).toList := by
  induction actions generalizing queue with
  | nil => exact List.append_nil _
  | cons first actions inductionHypothesis =>
      rw [List.cons_append, outcomes, inductionHypothesis, outcomes, List.append_assoc]
      rfl

/-- The frames that the reads of an interleaving return, in order. -/
def returned (queue : CameraQueue F E) (actions : List (QueueAction F E)) : List F :=
  (queue.outcomes actions).filterMap ReadOutcome.returnedFrame

/-- What has left a queue at its front: each frame with whether a read returned it or a newer frame
replaced it. -/
structure Departed (pushes returned frames : List F) (dropped : Nat) (left : List (Bool × F)) :
    Prop where
  whole : pushes = left.map Prod.snd ++ frames
  returned : returned = (left.filter fun departure => departure.1).map Prod.snd
  dropped : dropped = (left.filter fun departure => !departure.1).length

/-- A frame that left was returned or dropped. -/
theorem Departed.count {pushes returned frames : List F} {dropped : Nat} {left : List (Bool × F)}
    (departed : Departed pushes returned frames dropped left) :
    pushes.length = returned.length + dropped + frames.length := by
  rw [departed.whole, departed.returned, departed.dropped, List.length_append, List.length_map,
    List.length_map, ← List.length_eq_length_filter_add fun departure : Bool × F => departure.1]

/-- What a queue keeps since a reset, in terms of the actions since then. -/
structure Sound (actions : List (QueueAction F E)) (returned : List F) (queue : CameraQueue F E) :
    Prop where
  bounded : queue.frames.length ≤ 4
  error : queue.error = (actions.filterMap failedError).head?
  closed : queue.closed = true ↔ .close ∈ actions
  emptied : queue.closed = true → queue.frames = []
  ordered : (returned ++ queue.frames).Sublist (entered actions)
  departed : Calm actions → ∃ left, Departed (entered actions) returned queue.frames queue.dropped left

/-- A reset queue is sound without actions. -/
theorem Sound.reset (queue : CameraQueue F E) : queue.reset.Sound [] [] where
  bounded := Nat.zero_le 4
  error := rfl
  closed := by simp [CameraQueue.reset]
  emptied := fun _ => rfl
  ordered := List.Sublist.refl []
  departed := fun _ => ⟨[], rfl, rfl, rfl⟩

variable {actions : List (QueueAction F E)} {returned : List F}

/-- An action that pushes nothing and returns nothing leaves the queue as it was. -/
theorem Sound.quiet (sound : queue.Sound actions returned) {action : QueueAction F E}
    (unfailed : action.failedError = none) (unclosed : action.isClose = false)
    (idle : action.pushedFrame = none ∨ queue.closed = true) :
    queue.Sound (actions ++ [action]) returned := by
  have other : QueueAction.close ≠ action := by
    rintro rfl
    cases unclosed
  have entered : entered (actions ++ [action]) = entered actions :=
    entered_idle (idle.imp_right sound.closed.mp)
  constructor
  · exact sound.bounded
  · rw [List.filterMap_append, List.filterMap_cons_none unfailed]
    exact sound.error.trans (by simp)
  · rw [sound.closed]
    simp [other]
  · exact sound.emptied
  · rw [entered]
    exact sound.ordered
  · rw [entered, calm_append]
    exact fun calm => sound.departed calm.1

/-- A frame leaves at the front, to a reader or for a newer frame. -/
theorem Sound.depart (sound : queue.Sound actions returned) {next : CameraQueue F E} {oldest : F}
    (read : Bool) (front : queue.frames = oldest :: next.frames)
    (dropped : next.dropped = queue.dropped + if read then 0 else 1)
    (error : next.error = queue.error) (closed : next.closed = queue.closed) :
    next.Sound actions (returned ++ if read then [oldest] else []) := by
  constructor
  · have bounded := sound.bounded
    rw [front, List.length_cons] at bounded
    omega
  · rw [error, sound.error]
  · rw [closed, sound.closed]
  · intro shut
    have empty := sound.emptied (closed ▸ shut)
    rw [front] at empty
    cases empty
  · have ordered := sound.ordered
    rw [front] at ordered
    cases read with
    | true => rwa [if_pos rfl, List.append_assoc]
    | false =>
        rw [if_neg Bool.false_ne_true, List.append_nil]
        exact ((List.sublist_cons_self oldest _).append_left returned).trans ordered
  · intro calm
    obtain ⟨left, whole, kept, counted⟩ := sound.departed calm
    refine ⟨left ++ [(read, oldest)], ?_, ?_, ?_⟩
    · rw [whole, front, List.map_append, List.append_assoc]
      rfl
    · rw [kept, List.filter_append, List.map_append]
      cases read <;> rfl
    · rw [dropped, counted, List.filter_append, List.length_append]
      cases read <;> rfl

/-- The dropped frame was pushed and not returned, so it stays accounted for. -/
theorem Sound.makeRoom (sound : queue.Sound actions returned) :
    queue.makeRoom.Sound actions returned := by
  unfold CameraQueue.makeRoom
  split
  · exact sound
  · rename_i oldest rest front
    split
    · let next : CameraQueue F E := { queue with frames := rest, dropped := queue.dropped + 1 }
      have departed : next.Sound actions (returned ++ []) :=
        sound.depart false front rfl rfl rfl
      rwa [List.append_nil] at departed
    · exact sound

/-- After the drop one of the four places is free. -/
theorem makeRoom_length (bounded : queue.frames.length ≤ 4) : queue.makeRoom.frames.length < 4 := by
  unfold CameraQueue.makeRoom
  split
  · rename_i empty
    simp [empty]
  · rename_i oldest rest front
    rw [front, List.length_cons] at bounded
    split
    · exact Nat.lt_of_succ_le bounded
    · rename_i room
      rw [front, List.length_cons] at room ⊢
      omega

theorem makeRoom_closed (queue : CameraQueue F E) : queue.makeRoom.closed = queue.closed := by
  unfold CameraQueue.makeRoom
  repeat' split
  all_goals rfl

/-- A pushed frame enters the queue unless an error stands, and is accounted for either way. -/
theorem Sound.push (sound : queue.Sound actions returned) (frame : F) :
    (queue.push frame).Sound (actions ++ [.push frame]) returned := by
  unfold CameraQueue.push
  split
  · rename_i closed
    exact sound.quiet rfl rfl (.inr closed)
  · rename_i opened
    have roomy := sound.makeRoom
    have kept : .close ∉ actions := fun member => opened (sound.closed.mpr member)
    have entered : entered (actions ++ [.push frame]) = entered actions ++ [frame] :=
      entered_opened kept (.push frame)
    constructor
    · rw [List.length_append]
      exact makeRoom_length sound.bounded
    · rw [List.filterMap_append]
      exact roomy.error.trans (by simp [failedError])
    · rw [makeRoom_closed, sound.closed]
      simp
    · intro closed
      rw [makeRoom_closed] at closed
      exact absurd closed opened
    · rw [entered, ← List.append_assoc]
      exact roomy.ordered.append_right [frame]
    · intro calm
      obtain ⟨left, whole, kept, counted⟩ := roomy.departed (calm_append.mp calm).1
      exact ⟨left, by rw [entered, whole, List.append_assoc], kept, counted⟩

/-- A returned frame leaves the queue for the frames that were returned. -/
theorem Sound.read (sound : queue.Sound actions returned) :
    queue.read.2.Sound (actions ++ [.read])
      (returned ++ (queue.read.1.returnedFrame).toList) := by
  have silent : queue.Sound (actions ++ [.read]) (returned ++ []) := by
    rw [List.append_nil]
    exact sound.quiet rfl rfl (.inl rfl)
  unfold CameraQueue.read
  split
  · exact silent
  · exact silent
  · rename_i frame rest unfailed frames
    let next : CameraQueue F E := { queue with frames := rest }
    have departed : next.Sound actions (returned ++ [frame]) :=
      sound.depart true frames rfl rfl rfl
    exact departed.quiet rfl rfl (.inl rfl)

/-- A failure or a close empties the queue. -/
theorem Sound.clear (sound : queue.Sound actions returned) {next : CameraQueue F E}
    {action : QueueAction F E} (clears : action.failedError ≠ none ∨ action.isClose = true)
    (unpushed : action.pushedFrame = none) (frames : next.frames = [])
    (error : next.error = ((actions ++ [action]).filterMap failedError).head?)
    (closed : next.closed = true ↔ .close ∈ actions ++ [action]) :
    next.Sound (actions ++ [action]) returned := by
  constructor
  · rw [frames]
    exact Nat.zero_le 4
  · exact error
  · exact closed
  · exact fun _ => frames
  · rw [frames, List.append_nil, entered_idle (.inl unpushed)]
    exact (List.sublist_append_left _ _).trans sound.ordered
  · intro calm
    obtain ⟨_, unfailed, unclosed⟩ := calm_append.mp calm
    rcases clears with failed | shut
    · exact absurd unfailed failed
    · rw [unclosed] at shut
      cases shut

/-- Of the errors the first one stands. -/
theorem Sound.fail (sound : queue.Sound actions returned) (error : E) :
    (queue.fail error).Sound (actions ++ [.fail error]) returned := by
  refine sound.clear (.inl (Option.some_ne_none error)) rfl rfl ?_ ?_
  · rw [List.filterMap_append, CameraQueue.fail, sound.error]
    cases actions.filterMap failedError <;> rfl
  · simpa [CameraQueue.fail] using sound.closed

/-- A closed queue gives up its frames, which were pushed and not returned. -/
theorem Sound.close (sound : queue.Sound actions returned) :
    queue.close.Sound (actions ++ [.close]) returned := by
  refine sound.clear (.inr rfl) rfl rfl ?_ ?_
  · rw [List.filterMap_append]
    exact sound.error.trans (by simp [failedError])
  · simp [CameraQueue.close]

/-- One action other than a reset, with what its caller gets. -/
theorem Sound.step (sound : queue.Sound actions returned) {action : QueueAction F E}
    (unreset : action ≠ .reset) :
    (queue.step action).Sound (actions ++ [action])
      (returned ++ ((queue.outcome action).toList).filterMap ReadOutcome.returnedFrame) := by
  have silent (next : CameraQueue F E) (kept : next.Sound (actions ++ [action]) returned) :
      next.Sound (actions ++ [action]) (returned ++ []) := by rwa [List.append_nil]
  cases action with
  | reset => exact absurd rfl unreset
  | push frame => exact silent _ (sound.push frame)
  | read =>
      have same : [queue.read.1].filterMap ReadOutcome.returnedFrame =
          queue.read.1.returnedFrame.toList := by
        cases queue.read.1 <;> rfl
      rw [outcome, Option.toList_some, same]
      exact sound.read
  | fail error => exact silent _ (sound.fail error)
  | close => exact silent _ sound.close

/-- A run since a reset. -/
theorem Sound.run (queue : CameraQueue F E) {actions : List (QueueAction F E)}
    (unreset : .reset ∉ actions) :
    (queue.reset.run actions).Sound actions (queue.reset.returned actions) := by
  induction actions using List.reverseRecOn with
  | nil => exact Sound.reset queue
  | append_singleton actions action inductionHypothesis =>
      rw [List.mem_append, not_or, List.mem_singleton] at unreset
      rw [run_snoc, CameraQueue.returned, outcomes_snoc, List.filterMap_append]
      exact (inductionHypothesis unreset.1).step (Ne.symm unreset.2)

/-- Before the first reset a queue is closed and holds nothing. -/
theorem run_unreset {actions : List (QueueAction F E)} (unreset : .reset ∉ actions) :
    ((({} : CameraQueue F E).run actions).closed = true ∧
      (({} : CameraQueue F E).run actions).frames = []) ∧
    ({} : CameraQueue F E).returned actions = [] := by
  induction actions using List.reverseRecOn with
  | nil => exact ⟨⟨rfl, rfl⟩, rfl⟩
  | append_singleton actions action inductionHypothesis =>
      rw [List.mem_append, not_or, List.mem_singleton] at unreset
      obtain ⟨⟨closed, empty⟩, nothing⟩ := inductionHypothesis unreset.1
      rw [returned] at nothing
      rw [run_snoc, returned, outcomes_snoc, List.filterMap_append, nothing]
      generalize ({} : CameraQueue F E).run actions = queue at closed empty
      cases action with
      | reset => exact absurd rfl unreset.2
      | push frame => simp [CameraQueue.step, push, outcome, closed, empty]
      | read =>
          cases error : queue.error <;>
            simp [CameraQueue.step, outcome, read, ReadOutcome.returnedFrame, closed, empty, error]
      | fail error => exact ⟨⟨closed, rfl⟩, rfl⟩
      | close => exact ⟨⟨rfl, rfl⟩, rfl⟩

/-- The last reset of some actions. -/
theorem last_reset (actions : List (QueueAction F E)) :
    .reset ∉ actions ∨ ∃ before after, actions = before ++ .reset :: after ∧ .reset ∉ after := by
  induction actions with
  | nil => exact .inl List.not_mem_nil
  | cons action actions inductionHypothesis =>
      rcases inductionHypothesis with unreset | ⟨before, after, rfl, unreset⟩
      · by_cases reset : action = .reset
        · exact .inr ⟨[], actions, by rw [reset]; rfl, unreset⟩
        · exact .inl fun member => (List.mem_cons.mp member).elim (Ne.symm reset) unreset
      · exact .inr ⟨action :: before, after, rfl, unreset⟩

/-- A push to an open queue gives up the oldest of four frames. -/
theorem push_opened (bounded : queue.frames.length ≤ 4) (opened : queue.closed = false) (frame : F) :
    (queue.push frame).frames = queue.frames.drop (queue.frames.length - 3) ++ [frame] ∧
      (queue.push frame).dropped = queue.dropped + (queue.frames.length - 3) := by
  rw [push, if_neg (Bool.eq_false_iff.mp opened), makeRoom]
  cases front : queue.frames with
  | nil => simp [front]
  | cons oldest rest =>
      rw [front] at bounded
      dsimp only
      split
      · rename_i full
        rw [full]
        exact ⟨rfl, rfl⟩
      · rename_i room
        have none : (oldest :: rest).length - 3 = 0 := by
          rw [List.length_cons] at bounded room ⊢
          omega
        rw [none, front]
        exact ⟨rfl, rfl⟩

/-- In every interleaving the queue holds at most four frames, and no read before the first reset returns
one. The frames returned since the last reset are, in order, among those pushed since then while it was
open. Without a failure or a close since the reset, the pushed frames are those that left at the front,
each returned or dropped, and then the queue; a push drops only the oldest of four. After a failure each
`read` throws the first error and after a close without one it returns no frame; else it returns the
oldest frame. -/
theorem camera_queue_fresh (actions : List (QueueAction F E)) :
    (({} : CameraQueue F E).run actions).frames.length ≤ 4 ∧
    (.reset ∉ actions → ({} : CameraQueue F E).returned actions = []) ∧
    ∀ before after, actions = before ++ .reset :: after → .reset ∉ after →
      let returned := (({} : CameraQueue F E).run (before ++ [.reset])).returned after
      let queue := ({} : CameraQueue F E).run actions
      returned.Sublist (entered after) ∧
      (Calm after →
        (∃ left, Departed (after.filterMap pushedFrame) returned queue.frames queue.dropped left) ∧
        (after.filterMap pushedFrame).length = returned.length + queue.dropped + queue.frames.length) ∧
      (.close ∉ after → ∀ frame,
        (queue.push frame).frames = queue.frames.drop (queue.frames.length - 3) ++ [frame] ∧
        (queue.push frame).dropped = queue.dropped + (queue.frames.length - 3)) ∧
      (∀ error, (after.filterMap failedError).head? = some error →
        queue.read = (.throws error, queue)) ∧
      (after.filterMap failedError = [] → .close ∈ after → queue.read = (.nothing, queue)) ∧
      (after.filterMap failedError = [] → ∀ frame rest, queue.frames = frame :: rest →
        queue.read = (.frame frame, { queue with frames := rest })) := by
  have since {before after : List (QueueAction F E)} (split : actions = before ++ .reset :: after)
      (unreset : .reset ∉ after) :
      (({} : CameraQueue F E).run actions).Sound after
        ((({} : CameraQueue F E).run (before ++ [.reset])).returned after) := by
    have joined : actions = (before ++ [.reset]) ++ after := split.trans (List.append_cons ..)
    rw [joined, run_snoc, run_append, run_snoc]
    exact Sound.run (({} : CameraQueue F E).run before) unreset
  refine ⟨?_, fun unreset => (run_unreset unreset).2, fun before after split unreset => ?_⟩
  · rcases last_reset actions with unreset | ⟨before, after, split, unreset⟩
    · rw [(run_unreset unreset).1.2]
      exact Nat.zero_le 4
    · exact (since split unreset).bounded
  · have sound := since split unreset
    have unfailed (unfailing : after.filterMap failedError = []) :
        (({} : CameraQueue F E).run actions).error = none := by
      rw [sound.error, unfailing]
      rfl
    refine ⟨(List.sublist_append_left _ _).trans sound.ordered, fun calm => ?_, fun opened => ?_,
      fun error first => ?_, fun unfailing closed => ?_, fun unfailing frame rest frames => ?_⟩
    · obtain ⟨left, departed⟩ := sound.departed calm
      rw [calm.entered] at departed
      exact ⟨⟨left, departed⟩, departed.count⟩
    · exact push_opened sound.bounded (Bool.eq_false_iff.mpr fun shut => opened (sound.closed.mp shut))
    · rw [read, sound.error.trans first]
    · rw [read, unfailed unfailing, sound.emptied (sound.closed.mpr closed)]
    · rw [read, unfailed unfailing, frames]

/-- Two resets, a full queue, two reads, and a failure before the last frame. -/
def sampleActions : List (QueueAction Nat String) :=
  [.push 9, .reset, .push 0, .reset, .push 1, .push 2, .push 3, .push 4, .push 5, .push 6, .read, .read]

/-- The frame of the first reset is not returned, the two oldest ones are dropped, and a later read
throws the first error. -/
theorem camera_queue_fresh_sample :
    (({} : CameraQueue Nat String).outcomes sampleActions = [.frame 3, .frame 4] ∧
      ∃ left, Departed [1, 2, 3, 4, 5, 6] [3, 4] [5, 6] 2 left) ∧
    ∀ queue, queue = ({} : CameraQueue Nat String).run
        (sampleActions ++ [.fail "lost", .fail "late", .push 7]) →
      queue.read = (.throws "lost", queue) := by
  refine ⟨⟨by decide, ?_⟩, ?_⟩
  · have calm : Calm ([.push 1, .push 2, .push 3, .push 4, .push 5, .push 6, .read, .read] :
        List (QueueAction Nat String)) := by decide
    exact (((camera_queue_fresh sampleActions).2.2 [.push 9, .reset, .push 0] _ rfl (by decide)).2.1
      calm).1
  · rintro queue rfl
    exact ((camera_queue_fresh (sampleActions ++ [.fail "lost", .fail "late", .push 7])).2.2
      [.push 9, .reset, .push 0] _ rfl (by decide)).2.2.2.1 "lost" rfl

end CameraQueue
end Vio
