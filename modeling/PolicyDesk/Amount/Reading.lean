import PolicyDesk.Amount.Decimal
import PolicyDesk.Text.Blank

/-!
# Reading an amount

An amount is an optional sign, digits with an optional point among or beside them, and an optional
exponent. It is read as the nearest binary64 number. Amounts too large for a finite number and the
words for infinity and for no number are understood, and refused.

* `Numeral`: the parts of an amount in writing.
* `Numeral.ofChars?`: splits a text into these parts.
* `Amount.read`: the amount of a text, or why there is none.
-/

namespace PolicyDesk

/-- Why a text is no amount. -/
inductive AmountFault where
  | empty
  | malformed
  | notFinite
  deriving DecidableEq, Repr

/-- The reason in words. -/
def AmountFault.message : AmountFault → String
  | empty => "cannot parse float from empty string"
  | malformed => "invalid float literal"
  | notFinite => "must be a finite number"

namespace Amount

/-- Splits off a sign; without one the text is positive. -/
def splitSign : List Char → Bool × List Char
  | '-' :: rest => (true, rest)
  | '+' :: rest => (false, rest)
  | rest => (false, rest)

/-- From here on no further digit of an exponent counts. -/
def exponentLimit : Nat := 0x10000

/-- The number in the digits of an exponent. -/
def exponentOf (ds : List Char) : Nat :=
  ds.foldl (fun n d => if n < exponentLimit then 10 * n + Text.digitValue d else n) 0

/-- The exponent at the end of an amount: nothing, or a mark, an optional sign and digits. -/
def exponent? : List Char → Option Int
  | [] => some 0
  | mark :: rest =>
    if mark = 'e' ∨ mark = 'E' then
      let (negative, ds) := splitSign rest
      (Text.digits? ds).map fun ds =>
        if negative then -(exponentOf ds : Int) else (exponentOf ds : Int)
    else none

/-- The digits after a point, and what follows them. -/
def fraction : List Char → List Char × List Char
  | '.' :: rest => Text.spanDigits rest
  | rest => ([], rest)

/-- The number that an amount without sign denotes, as digits times a power of ten. -/
def decimal? (s : List Char) : Option Decimal :=
  let (whole, rest) := Text.spanDigits s
  let (places, rest) := fraction rest
  if whole.isEmpty && places.isEmpty then none
  else (exponent? rest).map fun e => ⟨Text.value (whole ++ places), e - places.length⟩

/-- The words for amounts that are not finite, in small letters. -/
def unboundedWords : List (List Char) := ["inf", "infinity", "nan"].map String.toList

/-- A decimal whose digits start above the place `10 ^ 310` is too large, and one that ends below
`10 ^ -330` is nearest to zero. Deciding these first keeps the powers of ten small. -/
def rankOf (d : Decimal) : Nat :=
  if d.digits = 0 then 0
  else
    let top := d.power + (Text.natural d.digits).length
    if 310 < top then Binary64.rankLimit
    else if top < -330 then 0
    else d.rank

/-- The number that a text denotes. -/
def ofChars (s : List Char) : Except AmountFault Binary64 :=
  if s.isEmpty then .error .empty
  else
    let (negative, body) := splitSign s
    match decimal? body with
    | some d =>
      match Binary64.ofRank? negative (rankOf d) with
      | some x => .ok x
      | none => .error .notFinite
    | none =>
      if (body.map Char.toLower) ∈ unboundedWords then .error .notFinite else .error .malformed

/-- Reads an amount with blanks around it, or says what is wrong with it. -/
def read (s : String) : Except String Binary64 :=
  let trimmed := Text.strip s.toList
  match ofChars trimmed with
  | .ok x => .ok x
  | .error fault =>
    .error ("invalid amount '" ++ String.ofList trimmed ++ "': " ++ fault.message)

end Amount

end PolicyDesk
