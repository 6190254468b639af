/-!
# Bytes in sixty-four characters

`base64`: three bytes become four characters, and equals signs fill up the last four.
-/

namespace PolicyDesk.Text

/-- The character for a value below sixty-four. -/
def base64Char (n : Nat) : Char :=
  if n < 26 then Char.ofNat (65 + n)
  else if n < 52 then Char.ofNat (71 + n)
  else if n < 62 then Char.ofNat (n - 4)
  else if n = 62 then '+'
  else '/'

/-- Writes bytes, three at a time. -/
def base64 : List UInt8 → List Char
  | [] => []
  | [a] =>
    let n := 65536 * a.toNat
    [base64Char (n / 262144), base64Char (n / 4096 % 64), '=', '=']
  | [a, b] =>
    let n := 65536 * a.toNat + 256 * b.toNat
    [base64Char (n / 262144), base64Char (n / 4096 % 64), base64Char (n / 64 % 64), '=']
  | a :: b :: c :: rest =>
    let n := 65536 * a.toNat + 256 * b.toNat + c.toNat
    base64Char (n / 262144) :: base64Char (n / 4096 % 64) :: base64Char (n / 64 % 64) ::
      base64Char (n % 64) :: base64 rest

end PolicyDesk.Text
