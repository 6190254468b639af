/-!
# Binary floating-point amounts

A premium is a finite binary64 number. It is kept as a sign and a *rank*: rank `0` is zero, rank `1`
the least positive number, and so on without gaps, so that the word of the number is its rank with
the sign in front. Every magnitude is a whole number of units of `2 ^ -1074`.

* `units`: the exact magnitude of a rank, in units of `2 ^ -1074`.
* `roundHalfEven`: the whole number nearest to a fraction, of two the even one.
* `nearestRank`: the rank nearest to a nonnegative fraction, of two the even one.
* `Binary64.ofRatio?`: the number nearest to a fraction, if that is finite.
-/

namespace PolicyDesk

namespace Binary64

/-- How many magnitudes share one exponent. -/
abbrev binade : Nat := 0x10000000000000

/-- The first rank that is no finite number. -/
abbrev rankLimit : Nat := 2047 * binade

/-- The unit in which every magnitude is whole is one over this. -/
abbrev unitsPerOne : Nat := Nat.pow 2 1074

/-- The leading digits of a magnitude, as a whole number below `2 ^ 53`. -/
def significand (rank : Nat) : Nat :=
  if rank < binade then rank else binade + rank % binade

/-- The power of two, counted from `-1074`, that the significand is multiplied by. -/
def shift (rank : Nat) : Nat := rank / binade - 1

/-- The magnitude of a rank in units of `2 ^ -1074`. -/
def units (rank : Nat) : Nat := significand rank * Nat.pow 2 (shift rank)

/-- The whole number nearest to `num / den`; of two equally near ones the even one. -/
def roundHalfEven (num den : Nat) : Nat :=
  let low := num / den
  let twice := 2 * (num % den)
  if twice < den then low
  else if den < twice then low + 1
  else if low % 2 = 0 then low else low + 1

/-- The rank whose magnitude is nearest to `num / den`; of two equally near ones the even one. Ranks
from `rankLimit` on stand for fractions too large for a finite number. -/
def nearestRank (num den : Nat) : Nat :=
  let scaled := num * unitsPerOne
  let excess := (scaled / den).log2 + 1 - 53
  excess * binade + roundHalfEven scaled (den * Nat.pow 2 excess)

end Binary64

/-- A finite binary64 number. -/
structure Binary64 where
  /-- Whether the number carries a minus sign; zero may. -/
  negative : Bool
  /-- The place of the magnitude among all magnitudes, counted from zero. -/
  rank : Nat
  /-- Infinities and the values that are no numbers are left out. -/
  finite : rank < Binary64.rankLimit
  deriving DecidableEq, Repr

namespace Binary64

/-- The number of a sign and a rank, if the rank is that of a finite number. -/
def ofRank? (negative : Bool) (rank : Nat) : Option Binary64 :=
  if h : rank < rankLimit then some ⟨negative, rank, h⟩ else none

/-- Zero without a sign. -/
def zero : Binary64 := ⟨false, 0, by decide⟩

instance : Inhabited Binary64 := ⟨zero⟩

/-- The 64-bit word of the number. -/
def bits (x : Binary64) : Nat := (if x.negative then 0x8000000000000000 else 0) + x.rank

/-- The number nearest to `num / den` with the given sign, if that is finite. -/
def ofRatio? (negative : Bool) (num den : Nat) : Option Binary64 :=
  ofRank? negative (nearestRank num den)

/-- The product of two magnitudes, rounded to a rank. -/
def mulRank (a b : Nat) : Nat := nearestRank (units a * units b) (unitsPerOne * unitsPerOne)

/-- The quotient of two magnitudes, rounded to a rank. -/
def divRank (a b : Nat) : Nat := nearestRank (units a) (units b)

end Binary64

end PolicyDesk
