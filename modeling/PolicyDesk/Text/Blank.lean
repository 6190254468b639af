/-!
# Blank characters and trimming

* `isBlank`: the characters with the Unicode property `White_Space`.
* `strip`, `trim`: a text without the blanks around it.

Everything the desk reads from people (form fields, dates, amounts, addresses) is trimmed by this
one rule, so "blank" means the same for a required field and for an error body.
-/

namespace PolicyDesk.Text

/-- The characters with the Unicode property `White_Space`. -/
def isBlank (c : Char) : Bool :=
  let n := c.toNat
  (9 ≤ n && n ≤ 13) || n == 0x20 || n == 0x85 || n == 0xA0 || n == 0x1680 ||
    (0x2000 ≤ n && n ≤ 0x200A) || n == 0x2028 || n == 0x2029 || n == 0x202F || n == 0x205F ||
    n == 0x3000

/-- Drops the blanks a text starts with. -/
def stripStart (s : List Char) : List Char := s.dropWhile isBlank

/-- Drops the blanks a text ends with. -/
def stripEnd (s : List Char) : List Char := (s.reverse.dropWhile isBlank).reverse

/-- Drops the blanks around a text. -/
def strip (s : List Char) : List Char := stripEnd (stripStart s)

/-- The text without the blanks around it. -/
def trim (s : String) : String := String.ofList (strip s.toList)

/-- A text is blank if nothing is left of it after trimming. -/
def isBlankText (s : String) : Bool := (trim s).isEmpty

theorem toList_trim (s : String) : (trim s).toList = strip s.toList := by
  simp [trim]

end PolicyDesk.Text
