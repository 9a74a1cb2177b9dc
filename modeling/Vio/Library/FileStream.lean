/-
This file holds buffered output streams over storage that can fail. A stream that reports no error
has stored what was written; after an error a prefix is left.
-/

import Mathlib.Data.List.Basic
import Mathlib.Data.List.Infix
import Mathlib.Data.List.TakeDrop

/-- A file stream: its error state, the bytes written to it, and how many of them are flushed. -/
structure FileStream where
  opened : Bool := false
  good : Bool := true
  content : List UInt8 := []
  flushed : Nat := 0
  deriving DecidableEq, Repr

namespace FileStream

/-- After an error a prefix of the bytes is left, and everything flushed is in it. -/
def lose (file : FileStream) (kept : Nat) : FileStream :=
  { file with good := false, content := file.content.take (max kept file.flushed) }

def openPath (file : FileStream) (error : Option Nat) : FileStream :=
  if file.opened ∨ error.isSome then { file with good := false }
  else { opened := true, good := true, content := [] }

/-- The stream takes the bytes, or it reports an error. -/
def put (file : FileStream) (bytes : List UInt8) (error : Option Nat) : FileStream :=
  if file.opened ∧ file.good then
    let file := { file with content := file.content ++ bytes }
    match error with
    | none => file
    | some kept => file.lose kept
  else { file with good := false }

def flush (file : FileStream) : FileStream :=
  if file.good then { file with flushed := file.content.length } else file

def close (file : FileStream) (error : Option Nat) : FileStream :=
  if file.opened then
    match error with
    | none => { file.flush with opened := false }
    | some kept => { file.lose kept with opened := false }
  else { file with good := false }

/-- The stream was given `text`, and `safe` is a part of it that no error can remove. -/
structure StoredTo (file : FileStream) (text safe : List UInt8) : Prop where
  begins : file.content <+: text
  whole : file.opened = true → file.good = true → file.content = text
  kept : safe <+: file.content
  size : safe.length ≤ file.flushed

variable {file : FileStream} {text safe : List UInt8}

theorem storedTo_new (text : List UInt8) : StoredTo {} text [] :=
  ⟨List.nil_prefix, by simp, List.nil_prefix, Nat.zero_le _⟩

theorem StoredTo.failed (stored : file.StoredTo text safe) :
    StoredTo { file with good := false } text safe :=
  ⟨stored.begins, by simp, stored.kept, stored.size⟩

theorem StoredTo.lose (stored : file.StoredTo text safe) (kept : Nat) :
    (file.lose kept).StoredTo text safe where
  begins := (List.take_prefix _ _).trans stored.begins
  whole := by simp [FileStream.lose]
  kept := by
    rw [FileStream.lose, List.prefix_take_iff]
    exact ⟨stored.kept, stored.size.trans (le_max_right _ _)⟩
  size := stored.size

theorem StoredTo.openPath (stored : file.StoredTo [] []) (error : Option Nat) :
    (file.openPath error).StoredTo [] [] := by
  unfold FileStream.openPath
  split
  · exact stored.failed
  · exact ⟨List.nil_prefix, fun _ _ => rfl, List.nil_prefix, Nat.zero_le _⟩

theorem StoredTo.put (stored : file.StoredTo text safe) (bytes : List UInt8) (error : Option Nat) :
    (file.put bytes error).StoredTo (text ++ bytes) safe := by
  have later : file.content <+: text ++ bytes := stored.begins.trans (List.prefix_append _ _)
  unfold FileStream.put
  split
  · rename_i ready
    have whole := stored.whole ready.1 ready.2
    have taken : StoredTo { file with content := file.content ++ bytes } (text ++ bytes) safe :=
      ⟨by rw [whole], fun _ _ => by rw [whole], stored.kept.trans (List.prefix_append _ _),
        stored.size⟩
    cases error with
    | none => exact taken
    | some kept => exact taken.lose kept
  · exact ⟨later, by simp, stored.kept, stored.size⟩

/-- A stream that takes the bytes without an error was open. -/
theorem put_good {bytes : List UInt8} {error : Option Nat} (good : (file.put bytes error).good = true) :
    file.opened = true ∧ file.good = true ∧ (file.put bytes error).opened = true := by
  unfold FileStream.put at good ⊢
  split at good
  · rename_i ready
    rw [if_pos ready]
    cases error with
    | none => exact ⟨ready.1, ready.2, ready.1⟩
    | some kept => simp [FileStream.lose] at good
  · simp at good

theorem flush_good : file.flush.good = file.good := by
  unfold flush
  split <;> rfl

theorem StoredTo.flush (stored : file.StoredTo text safe) : file.flush.StoredTo text safe := by
  unfold FileStream.flush
  split
  · exact ⟨stored.begins, stored.whole, stored.kept, stored.kept.length_le⟩
  · exact stored

/-- A flush without an error makes everything safe. -/
theorem StoredTo.flushed (stored : file.StoredTo text safe) (opened : file.opened = true)
    (good : file.good = true) : file.flush.StoredTo text text := by
  have whole := stored.whole opened good
  rw [FileStream.flush, if_pos good]
  refine ⟨stored.begins, stored.whole, ?_, ?_⟩
  · rw [whole]
  · rw [whole]

theorem StoredTo.close (stored : file.StoredTo text safe) (error : Option Nat) :
    (file.close error).StoredTo text safe := by
  unfold FileStream.close
  split
  · cases error with
    | none =>
        have flushed := stored.flush
        exact ⟨flushed.begins, by simp, flushed.kept, flushed.size⟩
    | some kept =>
        have lost := stored.lose kept
        exact ⟨lost.begins, by simp, lost.kept, lost.size⟩
  · exact stored.failed

/-- A stream that was closed without an error holds everything. -/
theorem StoredTo.closed (stored : file.StoredTo text safe) {error : Option Nat}
    (good : (file.close error).good = true) : (file.close error).content = text := by
  unfold FileStream.close at good ⊢
  split at good
  · rename_i opened
    rw [if_pos opened]
    cases error with
    | none =>
        have fine : file.good = true := flush_good.symm.trans good
        simp [FileStream.flush, fine, stored.whole opened fine]
    | some kept => simp [FileStream.lose] at good
  · simp at good

end FileStream
