/-
This file holds the formatted input of C++ streams in the classic locale, over bytes.
An extraction returns what it read and the text that is left; a failed one returns nothing.
-/

import Vio.Library.Decimal

namespace InputStream

def isSpace (byte : UInt8) : Bool := byte = 32 || (9 ≤ byte && byte ≤ 13)

/-- The number of values of an `unsigned int`. -/
def unsignedRange : Nat := 4294967296

/-- The number after its sign: a negative number wraps, and too large a number fails. -/
def readDigits (negative : Bool) (text : List UInt8) : Option (Nat × List UInt8) :=
  match Decimal.read text with
  | none => none
  | some (number, rest) =>
      if number ≥ unsignedRange then none
      else some (if negative then (unsignedRange - number) % unsignedRange else number, rest)

/-- The extraction of an `unsigned int`. -/
def readUnsigned (text : List UInt8) : Option (Nat × List UInt8) :=
  match text.dropWhile isSpace with
  | 43 :: rest => readDigits false rest
  | 45 :: rest => readDigits true rest
  | rest => readDigits false rest

/-- The extraction of a `string`: the next word. -/
def readWord (text : List UInt8) : Option (List UInt8 × List UInt8) :=
  match text.dropWhile isSpace with
  | [] => none
  | rest => some (rest.takeWhile fun byte => !isSpace byte, rest.dropWhile fun byte => !isSpace byte)

/-- White space around the digits of one number. -/
def IsDecimal (text : List UInt8) (number : Nat) : Prop :=
  ∃ before digits after, text = before ++ digits ++ after ∧
    (∀ byte ∈ before, isSpace byte = true) ∧ digits ≠ [] ∧
    (∀ byte ∈ digits, Decimal.isDigit byte = true) ∧ Decimal.value digits = number ∧
    ∀ byte ∈ after, isSpace byte = true

theorem not_isDigit_of_isSpace {byte : UInt8} (space : isSpace byte = true) :
    Decimal.isDigit byte = false := by
  simp only [isSpace, Bool.or_eq_true, decide_eq_true_eq, Bool.and_eq_true,
    UInt8.le_iff_toNat_le] at space
  simp only [Decimal.isDigit, Bool.and_eq_false_iff, decide_eq_false_iff_not,
    UInt8.le_iff_toNat_le]
  rcases space with rfl | ⟨_, small⟩
  · exact .inl (by decide)
  · have small : byte.toNat ≤ 13 := small
    exact .inl fun large => by
      have large : 48 ≤ byte.toNat := large
      omega

theorem not_isSpace_of_isDigit {byte : UInt8} (digit : Decimal.isDigit byte = true) :
    isSpace byte = false ∧ byte ≠ 43 ∧ byte ≠ 45 := by
  refine ⟨?_, ?_, ?_⟩
  · cases space : isSpace byte with
    | false => rfl
    | true => rw [not_isDigit_of_isSpace space] at digit; cases digit
  · rintro rfl
    cases digit
  · rintro rfl
    cases digit

theorem readWord_blank {text : List UInt8} (blank : ∀ byte ∈ text, isSpace byte = true) :
    readWord text = none := by
  have none_left : text.dropWhile isSpace = [] := List.dropWhile_eq_nil_iff.mpr blank
  rw [readWord, none_left]

/-- A decimal is read in full, and no word follows it. -/
theorem readUnsigned_decimal {text : List UInt8} {number : Nat} (decimal : IsDecimal text number)
    (small : number < unsignedRange) :
    ∃ rest, readUnsigned text = some (number, rest) ∧ readWord rest = none := by
  obtain ⟨before, digits, after, rfl, begins, some, all, same, ends⟩ := decimal
  have stops : Decimal.Stops after := by
    rintro byte rest rfl
    exact not_isDigit_of_isSpace (ends byte (List.mem_cons_self ..))
  have left : (before ++ digits ++ after).dropWhile isSpace = digits ++ after := by
    rw [List.append_assoc, List.dropWhile_append_of_pos begins]
    cases digits with
    | nil => exact absurd rfl some
    | cons digit digits =>
        have := (not_isSpace_of_isDigit (all digit (List.mem_cons_self ..))).1
        rw [List.cons_append, List.dropWhile_cons_of_neg (by simp [this])]
  have read : readDigits false (digits ++ after) = Option.some (number, after) := by
    rw [readDigits, Decimal.read, Decimal.takeWhile_digits all stops,
      Decimal.dropWhile_digits all stops, if_neg some, same]
    exact if_neg (by omega)
  refine ⟨after, ?_, readWord_blank ends⟩
  rw [readUnsigned, left]
  cases digits with
  | nil => exact absurd rfl some
  | cons digit digits =>
      obtain ⟨_, plus, minus⟩ := not_isSpace_of_isDigit (all digit (List.mem_cons_self ..))
      rw [List.cons_append] at read ⊢
      split
      · rename_i same
        exact absurd (List.cons.inj same).1 plus
      · rename_i same
        exact absurd (List.cons.inj same).1 minus
      · exact read

/-- A line that `to_string` prints is a decimal. -/
theorem isDecimal_print (number : Nat) : IsDecimal (Decimal.print number ++ [10]) number :=
  ⟨[], Decimal.print number, [10], rfl, by simp, Decimal.print_ne_nil number,
    Decimal.print_digits number, Decimal.value_print number, by simp [isSpace]⟩

end InputStream
