/-
This file holds decimal numbers as ASCII bytes: printing, reading, and that reading inverts printing.
-/

import Mathlib.Data.List.Basic
import Mathlib.Data.List.TakeWhile
import Mathlib.Tactic.Common

namespace Decimal

def isDigit (byte : UInt8) : Bool := 48 ≤ byte && byte ≤ 57

def digit (value : Nat) : UInt8 := UInt8.ofNat (48 + value)

def digitValue (byte : UInt8) : Nat := byte.toNat - 48

/-- The last `fuel` digits, without leading zeros. -/
def printWith : Nat → Nat → List UInt8
  | 0, _ => []
  | fuel + 1, value =>
      (if value < 10 then [] else printWith fuel (value / 10)) ++ [digit (value % 10)]

def print (value : Nat) : List UInt8 := printWith (value + 1) value

def value (digits : List UInt8) : Nat :=
  digits.foldl (fun total byte => 10 * total + digitValue byte) 0

theorem digit_all : ∀ value < 10, isDigit (digit value) = true ∧ digitValue (digit value) = value := by
  decide

theorem digit_nonzero : ∀ value < 10, 0 < value → digit value ≠ 48 := by
  decide

theorem value_append (digits : List UInt8) (byte : UInt8) :
    value (digits ++ [byte]) = 10 * value digits + digitValue byte := by
  simp [value, List.foldl_append]

theorem value_printWith (fuel number : Nat) (enough : number < fuel) :
    value (printWith fuel number) = number := by
  induction fuel generalizing number with
  | zero => omega
  | succ fuel inductionHypothesis =>
      have last := (digit_all (number % 10) (Nat.mod_lt _ (by omega))).2
      rw [printWith, value_append, last]
      split
      · simp only [value, List.foldl_nil]
        omega
      · rw [inductionHypothesis (number / 10) (by omega)]
        omega

theorem value_print (number : Nat) : value (print number) = number :=
  value_printWith _ _ (Nat.lt_succ_self _)

theorem printWith_digits (fuel number : Nat) :
    ∀ byte ∈ printWith fuel number, isDigit byte = true := by
  induction fuel generalizing number with
  | zero => simp [printWith]
  | succ fuel inductionHypothesis =>
      have last := (digit_all (number % 10) (Nat.mod_lt _ (by omega))).1
      intro byte member
      rw [printWith, List.mem_append, List.mem_singleton] at member
      rcases member with member | rfl
      · split at member
        · cases member
        · exact inductionHypothesis _ byte member
      · exact last

theorem print_digits (number : Nat) : ∀ byte ∈ print number, isDigit byte = true :=
  printWith_digits _ _

theorem print_ne_nil (number : Nat) : print number ≠ [] := by
  simp [print, printWith]

/-- Only zero begins with a zero. -/
theorem print_head (number : Nat) : print number = [48] ∨
    ∃ first rest, print number = first :: rest ∧ first ≠ 48 := by
  have begins (fuel number : Nat) (enough : number < fuel) (positive : 0 < number) :
      ∃ first rest, printWith fuel number = first :: rest ∧ first ≠ 48 := by
    induction fuel generalizing number with
    | zero => omega
    | succ fuel inductionHypothesis =>
        rw [printWith]
        split
        · rename_i small
          refine ⟨digit (number % 10), [], rfl, digit_nonzero _ (Nat.mod_lt _ (by omega)) ?_⟩
          omega
        · obtain ⟨first, rest, same, nonzero⟩ :=
            inductionHypothesis (number / 10) (by omega) (by omega)
          exact ⟨first, rest ++ [digit (number % 10)], by rw [same]; rfl, nonzero⟩
  rcases Nat.eq_zero_or_pos number with rfl | positive
  · exact .inl rfl
  · exact .inr (begins _ _ (Nat.lt_succ_self _) positive)

/-- The text does not continue a number. -/
def Stops (text : List UInt8) : Prop := ∀ byte rest, text = byte :: rest → isDigit byte = false

theorem stops_cons {byte : UInt8} {rest : List UInt8} (other : isDigit byte = false) :
    Stops (byte :: rest) := by
  intro first tail same
  cases same
  exact other

theorem takeWhile_digits {digits rest : List UInt8} (all : ∀ byte ∈ digits, isDigit byte = true)
    (stops : Stops rest) : (digits ++ rest).takeWhile isDigit = digits := by
  rw [List.takeWhile_append_of_pos all]
  cases rest with
  | nil => exact List.append_nil _
  | cons byte rest =>
      rw [List.takeWhile_cons_of_neg (by simp [stops byte rest rfl]), List.append_nil]

theorem dropWhile_digits {digits rest : List UInt8} (all : ∀ byte ∈ digits, isDigit byte = true)
    (stops : Stops rest) : (digits ++ rest).dropWhile isDigit = rest := by
  rw [List.dropWhile_append_of_pos all]
  cases rest with
  | nil => rfl
  | cons byte rest => rw [List.dropWhile_cons_of_neg (by simp [stops byte rest rfl])]

/-- The number at the beginning of a text, and the text after it. -/
def read (text : List UInt8) : Option (Nat × List UInt8) :=
  if text.takeWhile isDigit = [] then none
  else some (value (text.takeWhile isDigit), text.dropWhile isDigit)

theorem read_print (number : Nat) {rest : List UInt8} (stops : Stops rest) :
    read (print number ++ rest) = some (number, rest) := by
  have digits := print_digits number
  rw [read, takeWhile_digits digits stops, dropWhile_digits digits stops,
    if_neg (print_ne_nil number), value_print]

end Decimal
