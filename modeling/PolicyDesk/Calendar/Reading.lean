import PolicyDesk.Calendar.Date
import PolicyDesk.Text.Blank

/-!
# Reading a date

Three ways of writing a date are understood, tried in this order; the whole text has to be used.

* `Date.day`: `YYYY-MM-DD`. Fewer digits and blanks before a number are accepted; a year of more than
  four digits needs its sign.
* `Date.instant`: a timestamp with an offset from Greenwich, in its strict form.
* `Date.localTime`: a date as in the first way, `T` and a time of day without offset.

A timestamp stands for the date as it is written: its offset never moves it to another day.
-/

namespace PolicyDesk

namespace Date

/-- A number of at least one and at most `width` digits. -/
def number? (width : Nat) (s : List Char) : Option (Nat × List Char) :=
  let ds := (s.take width).takeWhile Text.isDigit
  if ds.isEmpty then none else some (Text.value ds, s.drop ds.length)

/-- A number of exactly `width` digits. -/
def fixed? (width : Nat) (s : List Char) : Option (Nat × List Char) :=
  let ds := (s.take width).takeWhile Text.isDigit
  if ds.length = width then some (Text.value ds, s.drop width) else none

/-- The character `c`. -/
def mark? (c : Char) : List Char → Option (List Char)
  | d :: rest => if d = c then some rest else none
  | [] => none

/-- A number of up to two digits with blanks before it, and not above `most`. -/
def field? (most : Nat) (s : List Char) : Option (Nat × List Char) :=
  (number? 2 (Text.stripStart s)).filter fun (n, _) => n ≤ most

/-- A year: up to four digits, or a sign and any number of digits. -/
def year? (s : List Char) : Option (Int × List Char) :=
  match Text.stripStart s with
  | '-' :: rest => (number? rest.length rest).map fun (n, rest) => (-(n : Int), rest)
  | '+' :: rest => (number? rest.length rest).map fun (n, rest) => ((n : Int), rest)
  | rest => (number? 4 rest).map fun (n, rest) => ((n : Int), rest)

/-- A date at the start of a text. -/
def dayPrefix? (s : List Char) : Option (Date × List Char) := do
  let (year, s) ← year? s
  let s ← mark? '-' s
  let (month, s) ← field? 12 s
  let s ← mark? '-' s
  let (day, s) ← field? 31 s
  let date ← ofParts? year month day
  some (date, s)

/-- A text that is used up. -/
def atEnd? {α : Type} : α × List Char → Option α
  | (a, []) => some a
  | _ => none

/-- A decimal fraction, if a point announces one; it then has a digit at least. -/
def fraction? : List Char → Option (List Char)
  | '.' :: rest =>
    match Text.spanDigits rest with
    | ([], _) => none
    | (_, rest) => some rest
  | rest => some rest

/-- Reads `YYYY-MM-DD`. -/
def day? (s : List Char) : Option Date := (dayPrefix? s).bind atEnd?

/-- Reads a date, `T` and a time of day. A minute may have a 61st second. -/
def localTime? (s : List Char) : Option Date := do
  let (date, s) ← dayPrefix? s
  let s ← mark? 'T' s
  let (_, s) ← field? 23 s
  let s ← mark? ':' s
  let (_, s) ← field? 59 s
  let s ← mark? ':' s
  let (_, s) ← field? 60 s
  let s ← fraction? s
  atEnd? (date, s)

/-- The sign of an offset: plus, hyphen or the minus sign U+2212. -/
def offsetSign? : List Char → Option (List Char)
  | c :: rest => if c = '+' ∨ c = '-' ∨ c.toNat = 0x2212 then some rest else none
  | [] => none

/-- An offset from Greenwich: `Z`, or a sign, hours and minutes. -/
def offset? : List Char → Option (List Char)
  | 'Z' :: rest | 'z' :: rest => some rest
  | s => do
    let s ← offsetSign? s
    let (_, s) ← (fixed? 2 s).filter fun (n, _) => n ≤ 23
    let s ← mark? ':' s
    let (_, s) ← (fixed? 2 s).filter fun (n, _) => n ≤ 59
    some s

/-- Between date and time a timestamp has `T` or one blank. -/
def divider? : List Char → Option (List Char)
  | 'T' :: rest | 't' :: rest | ' ' :: rest => some rest
  | _ => none

/-- Reads a timestamp with an offset. -/
def instant? (s : List Char) : Option Date := do
  let (year, s) ← fixed? 4 s
  let s ← mark? '-' s
  let (month, s) ← fixed? 2 s
  let s ← mark? '-' s
  let (day, s) ← fixed? 2 s
  let s ← divider? s
  let (_, s) ← (fixed? 2 s).filter fun (n, _) => n ≤ 23
  let s ← mark? ':' s
  let (_, s) ← (fixed? 2 s).filter fun (n, _) => n ≤ 59
  let s ← mark? ':' s
  let (_, s) ← (fixed? 2 s).filter fun (n, _) => n ≤ 60
  let s ← fraction? s
  let s ← offset? s
  let date ← ofParts? year month day
  atEnd? (date, s)

/-- The date of a text without blanks around it. -/
def ofChars? (s : List Char) : Option Date :=
  (day? s).or ((instant? s).or (localTime? s))

/-- Reads a date with blanks around it, or says that it is none. -/
def read (s : String) : Except String Date :=
  let trimmed := Text.strip s.toList
  match ofChars? trimmed with
  | some date => .ok date
  | none => .error ("invalid date '" ++ String.ofList trimmed ++ "': expected YYYY-MM-DD")

end Date

end PolicyDesk
