import PolicyDesk.Text.Digits
import PolicyDesk.Text.Unprintable

/-!
# Quoting a text in a complaint

* `hex`: a number in hexadecimal, small letters.
* `quoted`: a text between double quotes. Quotes, backslashes and the common controls are escaped by a
  letter, all other characters that would not show by their code point.
-/

namespace PolicyDesk.Text

/-- The hexadecimal digit of a value below sixteen, as a small letter. -/
def hexDigit (n : Nat) : Char := if n < 10 then Char.ofNat (48 + n) else Char.ofNat (87 + n)

/-- The number in hexadecimal, without superfluous zeros. -/
def hex (n : Nat) : List Char :=
  if n < 16 then [hexDigit n] else hex (n / 16) ++ [hexDigit (n % 16)]
termination_by n
decreasing_by omega

/-- A character inside quotes. -/
def quotedChar (c : Char) : List Char :=
  if c = '"' then ['\\', '"']
  else if c = '\\' then ['\\', '\\']
  else if c = '\n' then ['\\', 'n']
  else if c = '\r' then ['\\', 'r']
  else if c = '\t' then ['\\', 't']
  else if c.toNat = 0 then ['\\', '0']
  else if isUnprintable c then '\\' :: 'u' :: '\x7b' :: (hex c.toNat ++ ['\x7d'])
  else [c]

/-- The text between double quotes. -/
def quoted (s : String) : String :=
  String.ofList ('"' :: (s.toList.flatMap quotedChar ++ ['"']))

end PolicyDesk.Text
