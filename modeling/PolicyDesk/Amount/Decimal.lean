import PolicyDesk.Amount.Binary64
import PolicyDesk.Text.Digits

/-!
# The shortest decimal of an amount

* `Decimal`: digits times a power of ten.
* `Decimal.rank`: the rank a decimal is read as.
* `exact`: the decimal that a magnitude is, digit for digit.
* `shortest`: the decimal with the fewest digits that is read as the given rank; of those with as few
  digits the one nearest to the magnitude. Both neighbours of the magnitude on a grid of powers of
  ten may do and be equally near; then the `Tie` decides.
-/

namespace PolicyDesk

/-- The nonnegative number `digits * 10 ^ power`. -/
structure Decimal where
  digits : Nat
  power : Int
  deriving DecidableEq, Repr

/-- Which of two equally near decimals is taken. -/
inductive Tie where
  /-- The larger one. -/
  | up
  /-- The one whose last digit is even. -/
  | even
  deriving DecidableEq, Repr

namespace Decimal

/-- The rank nearest to the decimal. -/
def rank (d : Decimal) : Nat :=
  match d.power with
  | .ofNat p => Binary64.nearestRank (d.digits * Nat.pow 10 p) 1
  | .negSucc p => Binary64.nearestRank d.digits (Nat.pow 10 (p + 1))

/-- The same number without zeros at the end of the digits. -/
def dropZeros (d : Decimal) : Decimal :=
  if d.digits ≠ 0 ∧ d.digits % 10 = 0 then dropZeros ⟨d.digits / 10, d.power + 1⟩ else d
termination_by d.digits
decreasing_by omega

/-- The decimal that the magnitude of a rank is. -/
def exact (rank : Nat) : Decimal := ⟨Binary64.units rank * Nat.pow 5 1074, -1074⟩

/-- Of the two neighbours of `whole / cut` those that are read as `rank`, and of these the nearer.
`power` is the power of ten that goes with the neighbours. -/
def neighbour? (tie : Tie) (rank whole cut : Nat) (power : Int) : Option Decimal :=
  let below : Decimal := ⟨whole / cut, power⟩
  let above : Decimal := ⟨whole / cut + 1, power⟩
  let twice := 2 * (whole % cut)
  match decide (below.rank = rank), decide (above.rank = rank) with
  | false, false => none
  | true, false => some below
  | false, true => some above
  | true, true =>
    if twice < cut then some below
    else if cut < twice then some above
    else match tie with
      | .up => some above
      | .even => if below.digits % 2 = 0 then some below else some above

/-- The decimal of `count` digits that is read as `rank`, if there is one. -/
def ofCount? (tie : Tie) (rank count : Nat) : Option Decimal :=
  let whole := (exact rank).digits
  let length := (Text.natural whole).length
  let dropped := length - count
  neighbour? tie rank whole (Nat.pow 10 dropped) (dropped - 1074)

/-- The decimal with the fewest digits that is read as `rank`. Seventeen digits are always enough, and
the exact decimal would do if they were not. -/
def shortest (tie : Tie) (rank : Nat) : Decimal :=
  if rank = 0 then ⟨0, 0⟩
  else (((List.range 17).findSome? fun n => ofCount? tie rank (n + 1)).getD (exact rank)).dropZeros

end Decimal

end PolicyDesk
