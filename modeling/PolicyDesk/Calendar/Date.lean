import PolicyDesk.Text.Digits

/-!
# Calendar dates

Dates of the Gregorian calendar, carried back before its introduction and with a year zero, from
`-262143-01-01` to `+262142-12-31`.

* `Date`: a year, month and day that exist. `Date.ofParts?` checks three numbers.
* `Date.dayNumber`: days since 1970-01-01. `Date.ofDayNumber?` finds the date of a day number.
* `Date.ofMillis?`: the date on which an instant falls at Greenwich.
* `Date.text`: the date as `YYYY-MM-DD`; years outside `0` to `9999` carry their sign.
-/

namespace PolicyDesk

namespace Date

/-- The first year. -/
abbrev firstYear : Int := -262143

/-- The last year. -/
abbrev lastYear : Int := 262142

/-- Whether the year has a 29th of February. -/
def isLeap (year : Int) : Bool := year % 4 == 0 && (year % 100 != 0 || year % 400 == 0)

/-- How many days a month has. -/
def monthLength (leap : Bool) : Nat → Nat
  | 2 => if leap then 29 else 28
  | 4 | 6 | 9 | 11 => 30
  | _ => 31

/-- Whether the three numbers name a day of the calendar. -/
def exists? (year : Int) (month day : Nat) : Bool :=
  firstYear ≤ year && year ≤ lastYear && 1 ≤ month && month ≤ 12 && 1 ≤ day &&
    day ≤ monthLength (isLeap year) month

end Date

/-- A day of the calendar. -/
structure Date where
  year : Int
  month : Nat
  day : Nat
  /-- There is such a day. -/
  real : Date.exists? year month day = true
  deriving DecidableEq, Repr

namespace Date

/-- The date of a year, month and day, if there is one. -/
def ofParts? (year : Int) (month day : Nat) : Option Date :=
  if h : exists? year month day = true then some ⟨year, month, day, h⟩ else none

/-- The first of January 1970. -/
def epoch : Date := ⟨1970, 1, 1, by decide⟩

instance : Inhabited Date := ⟨epoch⟩

/-- Days from 1970-01-01 to the first of January of the year. -/
def yearStart (year : Int) : Int :=
  let past := year - 1
  365 * past + past / 4 - past / 100 + past / 400 - 719162

/-- Days of the year before the first of the month. -/
def monthStart (leap : Bool) (month : Nat) : Nat :=
  (List.range (month - 1)).foldl (fun n m => n + monthLength leap (m + 1)) 0

/-- Days from 1970-01-01 to the date. -/
def dayNumber (d : Date) : Int :=
  yearStart d.year + monthStart (isLeap d.year) d.month + (d.day - 1 : Nat)

/-- The year a day number falls in. The quotient is at most one year off. -/
def yearOf (n : Int) : Int :=
  let guess := (n + 719162) * 400 / 146097 + 1
  if n < yearStart guess then guess - 1
  else if yearStart (guess + 1) ≤ n then guess + 1
  else guess

/-- The month that a day of the year falls in; the days are counted from zero. -/
def monthOf (leap : Bool) (dayOfYear : Nat) : Nat :=
  1 + ((List.range 11).filter fun m => decide (monthStart leap (m + 2) ≤ dayOfYear)).length

/-- The date of a day number, if the calendar reaches so far. -/
def ofDayNumber? (n : Int) : Option Date :=
  let year := yearOf n
  let dayOfYear := (n - yearStart year).toNat
  let month := monthOf (isLeap year) dayOfYear
  ofParts? year month (dayOfYear - monthStart (isLeap year) month + 1)

/-- How many milliseconds a day has. -/
abbrev dayMillis : Int := 86400000

/-- The date at Greenwich so many milliseconds after the start of 1970. -/
def ofMillis? (ms : Int) : Option Date := ofDayNumber? (ms / dayMillis)

/-- The year with four digits at least, and with its sign outside `0` to `9999`. -/
def yearText : Int → List Char
  | .ofNat y => if y ≤ 9999 then Text.zeroPadded 4 y else '+' :: Text.zeroPadded 4 y
  | .negSucc y => '-' :: Text.zeroPadded 4 (y + 1)

/-- The date as `YYYY-MM-DD`. -/
def text (d : Date) : List Char :=
  yearText d.year ++ '-' :: Text.zeroPadded 2 d.month ++ '-' :: Text.zeroPadded 2 d.day

/-- The date as `YYYY-MM-DD`. -/
def toText (d : Date) : String := String.ofList d.text

end Date

end PolicyDesk
