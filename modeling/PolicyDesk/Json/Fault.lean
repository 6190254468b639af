import PolicyDesk.Amount.Written
import PolicyDesk.Text.Glyph
import PolicyDesk.Text.Quoted

/-!
# Faults in a JSON text

* `Found`: what stands where something else was expected.
* `Cause`: what is wrong; `Cause.message` says it in words.
* `Fault`: a cause together with its place, given by what was still unread.
* `Fault.describe`: the cause with line and column in the whole text. Lines are counted from one;
  the column is the number of bytes of the line before the place.

A fault keeps the unread rest of the text and not a position, so that a reader behaves the same inside
a longer text as at its start.
-/

namespace PolicyDesk.Json

/-- What stands where something else was expected. -/
inductive Found where
  | null
  | boolean (b : Bool)
  | integer (n : Int)
  | real (x : Binary64)
  | string (s : String)
  | list
  | object
  deriving DecidableEq, Repr

/-- What was found, in words. -/
def Found.message : Found → String
  | null => "null"
  | boolean true => "boolean `true`"
  | boolean false => "boolean `false`"
  | integer n => "integer `" ++ String.ofList (Text.integer n) ++ "`"
  | real x => "floating point `" ++ String.ofList x.wire ++ "`"
  | string s => "string " ++ Text.quoted s
  | list => "sequence"
  | object => "map"

/-- What is wrong with a JSON text. -/
inductive Cause where
  | endInValue
  | endInString
  | endInList
  | endInObject
  | valueExpected
  | wordExpected
  | colonExpected
  | listCommaExpected
  | objectCommaExpected
  | trailingComma
  | trailingText
  | keyNotString
  | badEscape
  | badNumber
  | outOfRange
  | badCharacter
  | controlCharacter
  | lowSurrogate
  | halfSurrogate
  | tooDeep
  /-- A value of another type than expected. -/
  | wrongType (found : Found) (expected : String)
  /-- A value of the right type that is out of range. -/
  | wrongValue (found : Found) (expected : String)
  /-- A list with too few elements. -/
  | tooShort (length : Nat) (expected : String)
  | missingMember (name : String)
  | repeatedMember (name : String)
  /-- A value that its own reader refused for the given reason. -/
  | refused (reason : String)
  deriving DecidableEq, Repr

/-- The cause in words. -/
def Cause.message : Cause → String
  | endInValue => "EOF while parsing a value"
  | endInString => "EOF while parsing a string"
  | endInList => "EOF while parsing a list"
  | endInObject => "EOF while parsing an object"
  | valueExpected => "expected value"
  | wordExpected => "expected ident"
  | colonExpected => "expected `:`"
  | listCommaExpected => "expected `,` or `]`"
  | objectCommaExpected => "expected `,` or `\x7d`"
  | trailingComma => "trailing comma"
  | trailingText => "trailing characters"
  | keyNotString => "key must be a string"
  | badEscape => "invalid escape"
  | badNumber => "invalid number"
  | outOfRange => "number out of range"
  | badCharacter => "invalid unicode code point"
  | controlCharacter => "control character (\\u0000-\\u001F) found while parsing a string"
  | lowSurrogate => "lone leading surrogate in hex escape"
  | halfSurrogate => "unexpected end of hex escape"
  | tooDeep => "recursion limit exceeded"
  | wrongType found expected => "invalid type: " ++ found.message ++ ", expected " ++ expected
  | wrongValue found expected => "invalid value: " ++ found.message ++ ", expected " ++ expected
  | tooShort length expected =>
    "invalid length " ++ String.ofList (Text.natural length) ++ ", expected " ++ expected
  | missingMember name => "missing field `" ++ name ++ "`"
  | repeatedMember name => "duplicate field `" ++ name ++ "`"
  | refused reason => reason

/-- A cause and its place. -/
structure Fault where
  cause : Cause
  /-- What was unread when the cause showed. -/
  rest : List Glyph
  /-- How many bytes of the rest the place lies behind, as far as there are so many. -/
  ahead : Nat
  /-- Whether this is the place to report. Otherwise the cause belongs to the list or object around
  it, which reports it where it ends. -/
  placed : Bool
  deriving DecidableEq, Repr

namespace Fault

/-- A fault just before the unread rest. -/
def before (cause : Cause) (rest : List Glyph) : Fault := ⟨cause, rest, 0, true⟩

/-- A fault just behind the next byte. -/
def behind (cause : Cause) (rest : List Glyph) : Fault := ⟨cause, rest, 1, true⟩

/-- A fault that the list or object around it is to place. -/
def unplaced (cause : Cause) (rest : List Glyph) : Fault := ⟨cause, rest, 0, false⟩

/-- How many bytes of the whole text come before the place. -/
def offset (whole : List Glyph) (f : Fault) : Nat :=
  let total := Glyph.totalSize whole
  min total (total - Glyph.totalSize f.rest + f.ahead)

/-- Walks over the first bytes of a text, counting lines and the bytes of the last line. -/
def lineColumn : Nat → List Glyph → Nat → Nat → Nat × Nat
  | _, [], line, column => (line, column)
  | bytes, g :: rest, line, column =>
    if bytes = 0 then (line, column)
    else if g.size ≤ bytes then
      if g = .char '\n' then lineColumn (bytes - g.size) rest (line + 1) 0
      else lineColumn (bytes - g.size) rest line (column + g.size)
    else (line, column + bytes)

/-- The fault in words, with its place in the whole text. -/
def describe (whole : List Glyph) (f : Fault) : String :=
  let (line, column) := lineColumn (f.offset whole) whole 1 0
  f.cause.message ++ " at line " ++ String.ofList (Text.natural line) ++ " column " ++
    String.ofList (Text.natural column)

end Fault

end PolicyDesk.Json
