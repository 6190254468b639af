import PolicyDesk.Json.Writing
import PolicyDesk.Proofs.Json.Numeral

/-!
# The grammar of JSON texts

A value together with everything that may differ between two texts of it: the spaces between its tokens,
the spelling of its strings and numbers, and the order of its members.

* `Gap`: what may stand between two tokens.
* `Letter`, `meaning`: the spelling of a string, and the characters it stands for. Half a surrogate pair
  stands for none, and then the string stands for none.
* `Figure`: the spelling of a number.
* `Value`, `Value.text`: a value and its text.
* `ObjectText`: a text that is one object, with spaces around it.
-/

namespace PolicyDesk.Json

/-- What may stand between two tokens. -/
structure Gap where
  chars : List Char
  blank : ∀ c ∈ chars, c = ' ' ∨ c = '\n' ∨ c = '\t' ∨ c = '\r'

/-- Nothing between two tokens. -/
def Gap.none : Gap := ⟨[], by simp⟩

/-! ## Strings -/

/-- A character that has a letter of its own behind a backslash. -/
inductive Escape where
  | quote
  | backslash
  | slash
  | backspace
  | formFeed
  | lineFeed
  | carriageReturn
  | tab
  deriving DecidableEq

/-- The letter behind the backslash. -/
def Escape.letter : Escape → Char
  | quote => '"'
  | backslash => '\\'
  | slash => '/'
  | backspace => 'b'
  | formFeed => 'f'
  | lineFeed => 'n'
  | carriageReturn => 'r'
  | tab => 't'

/-- The character that is meant. -/
def Escape.char : Escape → Char
  | quote => '"'
  | backslash => '\\'
  | slash => '/'
  | backspace => Char.ofNat 0x08
  | formFeed => Char.ofNat 0x0C
  | lineFeed => '\n'
  | carriageReturn => '\r'
  | tab => '\t'

/-- A hexadecimal digit, small or capital. -/
structure HexDigit where
  value : Fin 16
  capital : Bool
  deriving DecidableEq

/-- The digit in writing. -/
def HexDigit.char (d : HexDigit) : Char :=
  if d.value.val < 10 then Char.ofNat (48 + d.value)
  else if d.capital then Char.ofNat (55 + d.value) else Char.ofNat (87 + d.value)

/-- Four hexadecimal digits. -/
structure Code where
  first : HexDigit
  second : HexDigit
  third : HexDigit
  fourth : HexDigit

namespace Code

/-- The number that the digits denote. -/
def value (n : Code) : Nat :=
  ((n.first.value * 16 + n.second.value) * 16 + n.third.value) * 16 + n.fourth.value

/-- The digits in writing. -/
def text (n : Code) : List Char := [n.first.char, n.second.char, n.third.char, n.fourth.char]

/-- The first half of a pair. -/
def IsHigh (n : Code) : Prop := 0xD800 ≤ n.value ∧ n.value ≤ 0xDBFF

/-- The second half of a pair. -/
def IsLow (n : Code) : Prop := 0xDC00 ≤ n.value ∧ n.value ≤ 0xDFFF

instance (n : Code) : Decidable n.IsHigh := inferInstanceAs (Decidable (_ ∧ _))

instance (n : Code) : Decidable n.IsLow := inferInstanceAs (Decidable (_ ∧ _))

/-- The character that two halves make. -/
def pair (high low : Code) : Char :=
  Char.ofNat (0x10000 + (high.value - 0xD800) * 0x400 + (low.value - 0xDC00))

end Code

/-- A character that may stand in a string as it is. -/
def IsPlain (c : Char) : Prop := c ≠ '"' ∧ c ≠ '\\' ∧ 0x20 ≤ c.toNat

/-- A letter of a string as it is spelled. -/
inductive Letter where
  /-- A character as it is. -/
  | plain (c : Char) (h : IsPlain c)
  /-- A backslash and a letter. -/
  | escaped (e : Escape)
  /-- A backslash, the letter `u` and four digits. -/
  | coded (n : Code)

/-- The letter in writing. -/
def Letter.text : Letter → List Char
  | plain c _ => [c]
  | escaped e => ['\\', e.letter]
  | coded n => '\\' :: 'u' :: n.text

/-- The letters in writing, without the quotes. -/
def spelling (ls : List Letter) : List Char := ls.flatMap Letter.text

/-- The characters that the letters stand for, unless half a pair is among them. -/
def meaning : List Letter → Option (List Char)
  | [] => some []
  | .plain c _ :: ls => (meaning ls).map (c :: ·)
  | .escaped e :: ls => (meaning ls).map (e.char :: ·)
  | .coded n :: ls =>
    if n.IsHigh then
      match ls with
      | .coded m :: ls => if m.IsLow then (meaning ls).map (n.pair m :: ·) else none
      | _ => none
    else if n.IsLow then none
    else (meaning ls).map (Char.ofNat n.value :: ·)

/-! ## Numbers -/

/-- A number as it is spelled: its digits, whether the mark of its exponent is a capital, and whether an
    exponent that is not negative has a plus sign. -/
structure Figure where
  numeral : Numeral
  proper : numeral.WellFormed
  capital : Bool
  plus : Bool

/-- The number in writing. -/
def Figure.text (n : Figure) : List Char := n.numeral.spelled n.capital n.plus

/-! ## Values -/

/-- An element of a list, with the spaces around it. -/
structure Item (α : Type) where
  before : Gap
  value : α
  after : Gap

/-- A member of an object, with the spaces around its name and its value. -/
structure Entry (α : Type) where
  before : Gap
  name : List Letter
  beforeColon : Gap
  afterColon : Gap
  value : α
  after : Gap

/-- A value as it is written. The space behind an opening bracket is the only one if the bracket is closed
    at once. -/
inductive Value where
  | null
  | boolean (b : Bool)
  | number (n : Figure)
  | string (ls : List Letter)
  | list (gap : Gap) (items : List (Item Value))
  | object (gap : Gap) (entries : List (Entry Value))

mutual

/-- The value in writing. -/
def Value.text : Value → List Char
  | .null => ['n', 'u', 'l', 'l']
  | .boolean true => ['t', 'r', 'u', 'e']
  | .boolean false => ['f', 'a', 'l', 's', 'e']
  | .number n => n.text
  | .string ls => '"' :: (spelling ls ++ ['"'])
  | .list gap items => '[' :: (gap.chars ++ (itemsText items ++ [']']))
  | .object gap entries => '\x7b' :: (gap.chars ++ (entriesText entries ++ ['\x7d']))

/-- The elements of a list in writing. -/
def itemsText : List (Item Value) → List Char
  | [] => []
  | ⟨before, value, after⟩ :: items =>
    before.chars ++ (value.text ++ (after.chars ++ moreItems items))

/-- The elements behind the first one, each with a comma in front. -/
def moreItems : List (Item Value) → List Char
  | [] => []
  | ⟨before, value, after⟩ :: items =>
    ',' :: (before.chars ++ (value.text ++ (after.chars ++ moreItems items)))

/-- The members of an object in writing. -/
def entriesText : List (Entry Value) → List Char
  | [] => []
  | ⟨before, name, beforeColon, afterColon, value, after⟩ :: entries =>
    before.chars ++ ('"' :: (spelling name ++ ('"' :: (beforeColon.chars ++ (':' ::
      (afterColon.chars ++ (value.text ++ (after.chars ++ moreEntries entries))))))))

/-- The members behind the first one, each with a comma in front. -/
def moreEntries : List (Entry Value) → List Char
  | [] => []
  | ⟨before, name, beforeColon, afterColon, value, after⟩ :: entries =>
    ',' :: (before.chars ++ ('"' :: (spelling name ++ ('"' :: (beforeColon.chars ++ (':' ::
      (afterColon.chars ++ (value.text ++ (after.chars ++ moreEntries entries)))))))))

end

/-- A text that is one object, with spaces around it. -/
structure ObjectText where
  before : Gap
  gap : Gap
  entries : List (Entry Value)
  after : Gap

/-- The text itself. -/
def ObjectText.text (o : ObjectText) : List Char :=
  o.before.chars ++ ((Value.object o.gap o.entries).text ++ o.after.chars)

end PolicyDesk.Json
