import PolicyDesk.Text.Digits

/-!
# Reading an integer

* `readUnsigned`: digits, perhaps behind a plus sign, for a number up to a greatest one.
* `readSigned`: the same with either sign, for a number between two bounds.

The text is read from left to right, and the first character that goes wrong decides the complaint.
-/

namespace PolicyDesk.Text

/-- Why a text is no integer in range. -/
inductive IntegerFault where
  | empty
  | badDigit
  | tooLarge
  | tooSmall
  deriving DecidableEq, Repr

/-- The reason in words. -/
def IntegerFault.message : IntegerFault → String
  | empty => "cannot parse integer from empty string"
  | badDigit => "invalid digit found in string"
  | tooLarge => "number too large to fit in target type"
  | tooSmall => "number too small to fit in target type"

/-- Reads digits on from the number that the digits before denote. -/
def digitsFrom (most : Nat) (excess : IntegerFault) : Nat → List Char → Except IntegerFault Nat
  | n, [] => .ok n
  | n, c :: rest =>
    if isDigit c then
      let next := 10 * n + digitValue c
      if next ≤ most then digitsFrom most excess next rest else .error excess
    else .error .badDigit

/-- Reads a number up to `most`. A sign needs a digit behind it. -/
def readUnsigned (most : Nat) : List Char → Except IntegerFault Nat
  | [] => .error .empty
  | '+' :: [] => .error .badDigit
  | '+' :: rest => digitsFrom most .tooLarge 0 rest
  | s => digitsFrom most .tooLarge 0 s

/-- Reads a number between `-least` and `most`. A sign needs a digit behind it. -/
def readSigned (least most : Nat) : List Char → Except IntegerFault Int
  | '-' :: [] => .error .badDigit
  | '-' :: rest => (digitsFrom least .tooSmall 0 rest).map fun n => -(n : Int)
  | s => (readUnsigned most s).map fun n => (n : Int)

end PolicyDesk.Text
