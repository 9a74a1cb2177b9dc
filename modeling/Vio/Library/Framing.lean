/-
This file holds an abstract sender that sends one frame at a time over a byte stream,
and closes the stream rather than leave a frame unfinished.
-/

import Mathlib.Data.List.Infix
import Mathlib.Logic.Relation

namespace Framing
variable {B F : Type*}

/-- The complete frames, the frame under way with the count of its sent bytes, and the stream. -/
structure Sender (F : Type*) where
  sent : List F
  current : Option (F × Nat)
  opened : Bool

variable (bytes : F → List B)

/-- The bytes of the frame under way that the stream took. -/
def Sender.part (sender : Sender F) : List B :=
  match sender.current with
  | none => []
  | some (frame, count) => (bytes frame).take count

/-- The bytes of the frame under way that are still to send. -/
def Sender.rest (sender : Sender F) : List B :=
  match sender.current with
  | none => []
  | some (frame, count) => (bytes frame).drop count

/-- Everything that the stream took. -/
def Sender.wire (sender : Sender F) : List B :=
  (sender.sent.map bytes).flatten ++ sender.part bytes

/-- A frame is loaded, dropped while it is whole, or sent in pieces; the stream may close. -/
inductive Sender.Step (allowed : F → Prop) : Sender F → Sender F → Prop
  | load (sender : Sender F) (frame : F) (opened : sender.opened = true)
      (idle : sender.current = none) (lawful : allowed frame) (full : bytes frame ≠ []) :
      Step allowed sender { sender with current := some (frame, 0) }
  | drop (sender : Sender F) (frame : F) (whole : sender.current = some (frame, 0)) :
      Step allowed sender { sender with current := none }
  | send (sender : Sender F) (frame : F) (count more : Nat) (opened : sender.opened = true)
      (loaded : sender.current = some (frame, count)) (short : count + more < (bytes frame).length) :
      Step allowed sender { sender with current := some (frame, count + more) }
  | finish (sender : Sender F) (frame : F) (count : Nat) (opened : sender.opened = true)
      (loaded : sender.current = some (frame, count)) :
      Step allowed sender { sender with sent := sender.sent ++ [frame], current := none }
  | close (sender : Sender F) : Step allowed sender { sender with opened := false }

/-- A finite sequence of steps. -/
abbrev Sender.Run (allowed : F → Prop) : Sender F → Sender F → Prop :=
  Relation.ReflTransGen (Sender.Step bytes allowed)

/-- Every frame is allowed, and the frame under way has a rest. -/
structure Sender.Sound (allowed : F → Prop) (sender : Sender F) : Prop where
  sent : ∀ frame ∈ sender.sent, allowed frame
  current : ∀ frame count, sender.current = some (frame, count) →
    allowed frame ∧ count < (bytes frame).length

variable {bytes} {allowed : F → Prop} {sender next : Sender F}

theorem Sender.Sound.step (moved : Sender.Step bytes allowed sender next)
    (sound : sender.Sound bytes allowed) : next.Sound bytes allowed := by
  cases moved with
  | load frame opened idle lawful full =>
      refine ⟨sound.sent, fun other count loaded => ?_⟩
      cases loaded
      exact ⟨lawful, List.length_pos_iff.mpr full⟩
  | drop frame whole => exact ⟨sound.sent, fun _ _ loaded => by cases loaded⟩
  | send frame count more opened loaded short =>
      refine ⟨sound.sent, fun other total same => ?_⟩
      cases same
      exact ⟨(sound.current frame count loaded).1, short⟩
  | finish frame count opened loaded =>
      refine ⟨List.forall_mem_append.mpr ⟨sound.sent, ?_⟩, fun _ _ loaded => by cases loaded⟩
      exact List.forall_mem_singleton.mpr (sound.current frame count loaded).1
  | close => exact ⟨sound.sent, sound.current⟩

/-- The part and the rest make up the frame under way. -/
theorem Sender.Sound.split (sound : sender.Sound bytes allowed) :
    sender.part bytes = [] ∨ ∃ frame, allowed frame ∧
      bytes frame = sender.part bytes ++ sender.rest bytes ∧ sender.rest bytes ≠ [] := by
  unfold Sender.part Sender.rest
  cases loaded : sender.current with
  | none => exact .inl rfl
  | some pair =>
      obtain ⟨frame, count⟩ := pair
      obtain ⟨lawful, short⟩ := sound.current frame count loaded
      refine .inr ⟨frame, lawful, (List.take_append_drop count _).symm, ?_⟩
      simpa using short

/-- Where a frame was under way, it is still under way or it was finished first. -/
inductive Sender.Continues (bytes : F → List B) (sender : Sender F) (frame : F) (count : Nat) :
    Sender F → Prop
  | within (next : Sender F) (total : Nat) (sent : next.sent = sender.sent)
      (loaded : next.current = some (frame, total)) (order : count ≤ total) :
      Continues bytes sender frame count next
  | beyond (next : Sender F) (later : List F) (sent : next.sent = sender.sent ++ frame :: later) :
      Continues bytes sender frame count next

theorem Sender.Continues.step {start : Sender F} {frame : F} {count : Nat} (started : 0 < count)
    (moved : Sender.Step bytes allowed sender next)
    (continues : start.Continues bytes frame count sender) :
    start.Continues bytes frame count next := by
  cases continues with
  | within total sent loaded order =>
      cases moved with
      | load other opened idle lawful full => simp [loaded] at idle
      | drop other whole =>
          -- A frame with sent bytes is never dropped.
          rw [loaded] at whole
          cases whole
          omega
      | send other before more opened same short =>
          rw [loaded] at same
          cases same
          exact .within _ (total + more) sent rfl (by omega)
      | finish other before opened same =>
          rw [loaded] at same
          cases same
          exact .beyond _ [] (by rw [sent])
      | close => exact .within _ total sent loaded order
  | beyond later sent =>
      cases moved with
      | load | drop | send | close => exact .beyond _ later sent
      | finish other before opened same =>
          exact .beyond _ (later ++ [other]) (by rw [sent, List.append_assoc]; rfl)

/-- The stream never takes a byte back. -/
theorem Sender.Step.wire_prefix (moved : Sender.Step bytes allowed sender next) :
    sender.wire bytes <+: next.wire bytes := by
  unfold Sender.wire Sender.part
  cases moved with
  | load frame opened idle lawful full => simp [idle]
  | drop frame whole => simp [whole]
  | send frame count more opened loaded short =>
      rw [loaded]
      exact (List.prefix_append_right_inj _).mpr
        (List.take_prefix_take_left (Nat.le_add_right count more))
  | finish frame count opened loaded =>
      simp only [loaded, List.map_append, List.map_cons, List.map_nil, List.flatten_append,
        List.flatten_cons, List.flatten_nil, List.append_nil]
      exact (List.prefix_append_right_inj _).mpr (List.take_prefix count _)
  | close => exact List.prefix_rfl

theorem Sender.Run.wire_prefix (run : Sender.Run bytes allowed sender next) :
    sender.wire bytes <+: next.wire bytes := by
  induction run with
  | refl => exact List.prefix_rfl
  | tail _ moved ih => exact ih.trans moved.wire_prefix

/-- After a part of a frame the stream takes its rest, or a further part of it and no more. -/
theorem Sender.Run.continues (run : Sender.Run bytes allowed sender next) :
    ∃ more, next.wire bytes = sender.wire bytes ++ more ∧
      (sender.part bytes ≠ [] → more <+: sender.rest bytes ∨ sender.rest bytes <+: more) := by
  by_cases idle : sender.part bytes = []
  · obtain ⟨more, same⟩ := Sender.Run.wire_prefix run
    exact ⟨more, same.symm, fun busy => absurd idle busy⟩
  have under : ∃ frame count, sender.current = some (frame, count) ∧ 0 < count := by
    unfold Sender.part at idle
    cases loaded : sender.current with
    | none => simp [loaded] at idle
    | some pair =>
        refine ⟨pair.1, pair.2, rfl, Nat.pos_of_ne_zero fun zero => ?_⟩
        simp [loaded, zero] at idle
  obtain ⟨frame, count, loaded, started⟩ := under
  have continues : sender.Continues bytes frame count next := by
    induction run with
    | refl => exact .within _ count rfl loaded (Nat.le_refl count)
    | tail _ moved ih => exact ih.step started moved
  simp only [Sender.wire, Sender.part, Sender.rest, loaded]
  cases continues with
  | within total sent same order =>
      refine ⟨((bytes frame).take total).drop count, ?_, fun _ => .inl ?_⟩
      · simp only [same, sent, List.append_assoc]
        congr 1
        conv_lhs => rw [← List.take_append_drop count ((bytes frame).take total)]
        rw [List.take_take, Nat.min_eq_left order]
      · rw [List.drop_take]
        exact List.take_prefix _ _
  | beyond later sent =>
      refine ⟨(bytes frame).drop count ++ (later.map bytes).flatten ++ next.part bytes, ?_,
        fun _ => .inr ?_⟩
      · simp only [sent, List.map_append, List.map_cons, List.flatten_append, List.flatten_cons,
          List.append_assoc, Sender.part]
        rw [← List.append_assoc ((bytes frame).take count), List.take_append_drop]
      · rw [List.append_assoc]
        exact List.prefix_append _ _

end Framing
