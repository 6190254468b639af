/-!
# Decimal digits

* `isDigit`, `digitValue`: the ten ASCII digits and nothing else.
* `natural`: a number in decimal, without superfluous zeros.
* `value`: the number a run of digits denotes.
* `padLeft`, `padRight`: filling a column up to a width.
-/

namespace PolicyDesk.Text

/-- One of the ten ASCII digits. -/
def isDigit (c : Char) : Bool := '0' ≤ c && c ≤ '9'

/-- The value of an ASCII digit. -/
def digitValue (c : Char) : Nat := c.toNat - 48

/-- The ASCII digit of a value below ten. -/
def digitChar (n : Nat) : Char := Char.ofNat (48 + n)

/-- The number in decimal, without superfluous zeros. -/
def natural (n : Nat) : List Char :=
  if n < 10 then [digitChar n] else natural (n / 10) ++ [digitChar (n % 10)]
termination_by n
decreasing_by omega

/-- The number a run of digits denotes, read on from `start`. -/
def valueFrom (start : Nat) (ds : List Char) : Nat :=
  ds.foldl (fun n d => 10 * n + digitValue d) start

/-- The number a run of digits denotes; the empty run denotes zero. -/
def value (ds : List Char) : Nat := valueFrom 0 ds

/-- The integer in decimal, with a minus sign if it is negative. -/
def integer : Int → List Char
  | .ofNat n => natural n
  | .negSucc n => '-' :: natural (n + 1)

/-- Blanks before the text up to the width, counted in characters. -/
def padLeft (width : Nat) (s : List Char) : List Char :=
  List.replicate (width - s.length) ' ' ++ s

/-- Blanks after the text up to the width, counted in characters. -/
def padRight (width : Nat) (s : List Char) : List Char :=
  s ++ List.replicate (width - s.length) ' '

/-- The number in decimal with zeros in front up to the width. -/
def zeroPadded (width n : Nat) : List Char :=
  let ds := natural n
  List.replicate (width - ds.length) '0' ++ ds

/-- Splits off the longest run of digits at the start. -/
def spanDigits (s : List Char) : List Char × List Char :=
  (s.takeWhile isDigit, s.dropWhile isDigit)

/-- The text if it is a nonempty run of digits. -/
def digits? (s : List Char) : Option (List Char) :=
  if s.isEmpty then none else if s.all isDigit then some s else none

end PolicyDesk.Text
