import PolicyDesk.Text.Glyph

/-!
# Bytes and percent signs

* `utf8`: the bytes of a text.
* `percentDecode`: bytes in which a percent sign with two hexadecimal digits stands for a byte.
* `resolved?`: the text that such bytes spell.
* `percentEncode`: the same the other way round, for the characters that a place does not allow.
-/

namespace PolicyDesk.Text

/-- The bytes of a text. -/
def utf8 (s : List Char) : List UInt8 := s.flatMap String.utf8EncodeChar

/-- The value of a hexadecimal digit, in small or capital letters. -/
def hexByte? (b : UInt8) : Option Nat :=
  let n := b.toNat
  if 48 ≤ n ∧ n ≤ 57 then some (n - 48)
  else if 97 ≤ n ∧ n ≤ 102 then some (n - 87)
  else if 65 ≤ n ∧ n ≤ 70 then some (n - 55)
  else none

/-- The byte that two hexadecimal digits denote. -/
def bytePair? (high low : UInt8) : Option UInt8 :=
  match hexByte? high, hexByte? low with
  | some h, some l => some (UInt8.ofNat (16 * h + l))
  | _, _ => none

/-- Reads bytes on, with those read so far in reverse. A percent sign without two digits stands for
itself. -/
def percentDecodeOnto (read : List UInt8) : List UInt8 → List UInt8
  | [] => read.reverse
  | 37 :: high :: low :: rest =>
    match bytePair? high low with
    | some b => percentDecodeOnto (b :: read) rest
    | none => percentDecodeOnto (37 :: read) (high :: low :: rest)
  | b :: rest => percentDecodeOnto (b :: read) rest

/-- Puts bytes in the place of percent signs with two hexadecimal digits. -/
def percentDecode (bytes : List UInt8) : List UInt8 := percentDecodeOnto [] bytes

/-- A text with its percent signs resolved, if the bytes spell a text. -/
def resolved? (s : List Char) : Option String := Glyph.text? (Glyph.ofBytes (percentDecode (utf8 s)))

/-- The capital hexadecimal digit of a value below sixteen. -/
def capitalDigit (n : Nat) : Char := if n < 10 then Char.ofNat (48 + n) else Char.ofNat (55 + n)

/-- A byte behind a percent sign. -/
def percentByte (b : UInt8) : List Char :=
  ['%', capitalDigit (b.toNat / 16), capitalDigit (b.toNat % 16)]

/-- Writes the characters for which `reserved` holds, and all that are not ASCII, as bytes behind percent
signs. -/
def percentEncode (reserved : Char → Bool) (s : List Char) : List Char :=
  s.flatMap fun c =>
    if 0x7F ≤ c.toNat || reserved c then (String.utf8EncodeChar c).flatMap percentByte else [c]

end PolicyDesk.Text
