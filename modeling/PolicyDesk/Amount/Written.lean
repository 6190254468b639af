import PolicyDesk.Amount.Decimal

/-!
# Amounts in writing

* `positional`: digits with a point and zeros where the power of ten asks for them.
* `Binary64.plain`: the shortest decimal, always positional. It stands in the edit form.
* `Binary64.wire`: the shortest decimal with at least one decimal place; from `1e+16` on and below
  `0.00001` with an exponent. It stands in documents sent to the backend.
* `Binary64.cents`, `Binary64.twoPlaces`: the exact magnitude rounded to hundredths, a half going to
  the even neighbour. It stands in tables.
-/

namespace PolicyDesk

namespace Decimal

/-- Digits with a point before the last `places` of them, and zeros in front where they are too few. -/
def pointed (ds : List Char) (places : Nat) : List Char :=
  if places < ds.length then
    ds.take (ds.length - places) ++ '.' :: ds.drop (ds.length - places)
  else '0' :: '.' :: (List.replicate (places - ds.length) '0' ++ ds)

/-- Digits times a power of ten, without an exponent. -/
def positional (ds : List Char) (power : Int) : List Char :=
  match power with
  | .ofNat p => ds ++ List.replicate p '0'
  | .negSucc p => pointed ds (p + 1)

/-- Digits times a power of ten with one digit before the point and an exponent with its sign. -/
def scientific (ds : List Char) (exponent : Int) : List Char :=
  let mantissa := match ds with
    | [] => []
    | [d] => [d]
    | d :: more => d :: '.' :: more
  let mark := match exponent with
    | .ofNat e => '+' :: Text.natural e
    | .negSucc e => '-' :: Text.natural (e + 1)
  mantissa ++ 'e' :: mark

/-- The plain text of a decimal. -/
def plain (d : Decimal) : List Char := positional (Text.natural d.digits) d.power

/-- The text of a decimal in a document: positional from `0.00001` to below `1e+16`. -/
def wire (d : Decimal) : List Char :=
  let ds := Text.natural d.digits
  let exponent := d.power + ds.length - 1
  if -5 ≤ exponent ∧ exponent ≤ 15 then
    if 0 ≤ d.power then positional ds d.power ++ ['.', '0'] else positional ds d.power
  else scientific ds exponent

end Decimal

namespace Binary64

/-- A minus sign in front of a negative number. -/
def signed (x : Binary64) (magnitude : List Char) : List Char :=
  if x.negative then '-' :: magnitude else magnitude

/-- The shortest decimal in positional notation. Of two equally near decimals it is the larger. -/
def plain (x : Binary64) : String :=
  String.ofList (x.signed (Decimal.shortest .up x.rank).plain)

/-- The shortest decimal as documents have it. Of two equally near decimals it is the even one. -/
def wire (x : Binary64) : List Char :=
  x.signed (if x.rank = 0 then ['0', '.', '0'] else (Decimal.shortest .even x.rank).wire)

/-- The magnitude in hundredths, rounded. -/
def cents (x : Binary64) : Nat := roundHalfEven (units x.rank * 100) unitsPerOne

/-- The amount with two decimal places. -/
def twoPlaces (x : Binary64) : List Char :=
  x.signed (Text.natural (x.cents / 100) ++ '.' :: Text.zeroPadded 2 (x.cents % 100))

end Binary64

end PolicyDesk
