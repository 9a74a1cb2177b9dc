/-
This file holds the grammar of JSON texts as far as plain strings and integers go.
-/

import Vio.Library.Decimal

namespace Json

/-- A blank between two tokens. -/
def blank (byte : UInt8) : Bool := byte = 32 || byte = 9 || byte = 10 || byte = 13

def Blanks (text : List UInt8) : Prop := ∀ byte ∈ text, blank byte = true

instance (text : List UInt8) : Decidable (Blanks text) := List.decidableBAll _ text

/-- A character that a string holds without an escape. -/
def plain (byte : UInt8) : Bool := 32 ≤ byte && byte < 128 && byte ≠ 34 && byte ≠ 92

def Plain (text : List UInt8) : Prop := ∀ byte ∈ text, plain byte = true

instance (text : List UInt8) : Decidable (Plain text) := List.decidableBAll _ text

def quoted (text : List UInt8) : List UInt8 := 34 :: text ++ [34]

mutual

/-- A value without blanks around it. -/
inductive Value : List UInt8 → Prop
  | number (digits : List UInt8) (all : ∀ byte ∈ digits, Decimal.isDigit byte = true)
      (canonical : digits = [48] ∨ ∃ first rest, digits = first :: rest ∧ first ≠ 48) : Value digits
  | string (text : List UInt8) (all : Plain text) : Value (quoted text)
  | object (members : List UInt8) (lawful : Members members) : Value (123 :: members ++ [125])
  | array (elements : List UInt8) (lawful : Elements elements) : Value (91 :: elements ++ [93])

/-- The elements of an array, with commas between them. -/
inductive Elements : List UInt8 → Prop
  | none (blanks : List UInt8) (all : Blanks blanks) : Elements blanks
  | some (elements : List UInt8) (lawful : Series elements) : Elements elements

inductive Series : List UInt8 → Prop
  | one (before value after : List UInt8) (begins : Blanks before) (lawful : Value value)
      (ends : Blanks after) : Series (before ++ value ++ after)
  | more (elements before value after : List UInt8) (earlier : Series elements)
      (begins : Blanks before) (lawful : Value value) (ends : Blanks after) :
      Series (elements ++ [44] ++ (before ++ value ++ after))

/-- The members of an object, without blanks. -/
inductive Members : List UInt8 → Prop
  | none : Members []
  | one (key value : List UInt8) (all : Plain key) (lawful : Value value) :
      Members (quoted key ++ [58] ++ value)
  | more (members key value : List UInt8) (earlier : Members members) (some : members ≠ [])
      (all : Plain key) (lawful : Value value) :
      Members (members ++ [44] ++ (quoted key ++ [58] ++ value))

end

theorem Blanks.append {first second : List UInt8} (left : Blanks first) (right : Blanks second) :
    Blanks (first ++ second) := by
  intro byte member
  rcases List.mem_append.mp member with member | member
  · exact left byte member
  · exact right byte member

/-- Blanks may follow the last element. -/
theorem Series.blanks {elements blanks : List UInt8} (series : Series elements)
    (all : Blanks blanks) : Series (elements ++ blanks) := by
  cases series with
  | one before value after begins lawful ends =>
      rw [List.append_assoc]
      exact .one before value _ begins lawful (ends.append all)
  | more elements before value after earlier begins lawful ends =>
      rw [List.append_assoc, List.append_assoc (before ++ value)]
      exact .more elements before value _ earlier begins lawful (ends.append all)

/-- A text that is one list, with blanks around it. -/
def IsList (text : List UInt8) : Prop :=
  ∃ before elements after, text = before ++ (91 :: elements ++ [93]) ++ after ∧ Blanks before ∧
    Elements elements ∧ Blanks after

theorem value_print (number : Nat) : Value (Decimal.print number) :=
  .number _ (Decimal.print_digits number) (Decimal.print_head number)

end Json
