/-!
# Text that arrives as bytes

A reply of the backend and the body of a form are bytes. They are read as a list of *glyphs*: a
glyph is a character, or a run of bytes that spells none.

* `Glyph.ofBytes`: reads bytes as UTF-8. A run that breaks off is one broken glyph up to the first
  byte that cannot continue it, and that byte is looked at afresh.
* `Glyph.lossy`: the text with U+FFFD in place of each broken glyph.
* `Glyph.text?`: the text, if no glyph is broken.
* `Glyph.ofString`: a text is a list of glyphs without broken ones.
-/

namespace PolicyDesk

/-- One unit of a text that arrived as bytes. -/
inductive Glyph where
  /-- A character. -/
  | char (c : Char)
  /-- So many bytes that spell no character. -/
  | broken (size : Nat)
  deriving DecidableEq, Repr

namespace Glyph

/-- How many bytes a glyph took. -/
def size : Glyph → Nat
  | char c => c.utf8Size
  | broken n => n

/-- How many bytes a run of glyphs took. -/
def totalSize (gs : List Glyph) : Nat := gs.foldl (fun n g => n + g.size) 0

/-- A text is a list of glyphs without broken ones. -/
def ofString (s : String) : List Glyph := s.toList.map char

/-- The character a glyph stands for; U+FFFD for a broken one. -/
def shown : Glyph → Char
  | char c => c
  | broken _ => Char.ofNat 0xFFFD

/-- The text with U+FFFD in place of each broken glyph. -/
def lossy (gs : List Glyph) : String := String.ofList (gs.map shown)

/-- Whether the glyph is a character. -/
def isChar : Glyph → Bool
  | char _ => true
  | broken _ => false

/-- The text, if no glyph is broken. -/
def text? (gs : List Glyph) : Option String := if gs.all isChar then some (lossy gs) else none

/-- A character of several bytes, of which only the first ones have been seen. -/
structure Pending where
  /-- The bits seen so far. -/
  value : Nat
  /-- The bytes seen so far. -/
  size : Nat
  /-- The bytes still to come. -/
  missing : Nat
  /-- The least value that the next byte may have. -/
  low : Nat
  /-- The greatest value that the next byte may have. -/
  high : Nat

/-- What the first byte of a character of several bytes announces. The bounds on the second byte
keep out spellings that are longer than needed, surrogates, and numbers above U+10FFFF. -/
def Pending.ofLead? (b : Nat) : Option Pending :=
  if 0xC2 ≤ b ∧ b ≤ 0xDF then some ⟨b - 0xC0, 1, 1, 0x80, 0xBF⟩
  else if b = 0xE0 then some ⟨0, 1, 2, 0xA0, 0xBF⟩
  else if b = 0xED then some ⟨0xD, 1, 2, 0x80, 0x9F⟩
  else if 0xE1 ≤ b ∧ b ≤ 0xEF then some ⟨b - 0xE0, 1, 2, 0x80, 0xBF⟩
  else if b = 0xF0 then some ⟨0, 1, 3, 0x90, 0xBF⟩
  else if 0xF1 ≤ b ∧ b ≤ 0xF3 then some ⟨b - 0xF0, 1, 3, 0x80, 0xBF⟩
  else if b = 0xF4 then some ⟨4, 1, 3, 0x80, 0x8F⟩
  else none

/-- Reads on in the middle of a character (`pending`) or at its start (`none`), with the glyphs read
so far in reverse. -/
def scan (read : List Glyph) : Option Pending → List UInt8 → List Glyph
  | none, [] => read.reverse
  | some p, [] => (broken p.size :: read).reverse
  | none, b :: rest =>
    if b.toNat < 0x80 then scan (char (Char.ofNat b.toNat) :: read) none rest
    else match Pending.ofLead? b.toNat with
      | some p => scan read (some p) rest
      | none => scan (broken 1 :: read) none rest
  | some p, b :: rest =>
    if p.low ≤ b.toNat ∧ b.toNat ≤ p.high then
      let value := 64 * p.value + (b.toNat - 0x80)
      if p.missing ≤ 1 then scan (char (Char.ofNat value) :: read) none rest
      else scan read (some ⟨value, p.size + 1, p.missing - 1, 0x80, 0xBF⟩) rest
    else if b.toNat < 0x80 then
      scan (char (Char.ofNat b.toNat) :: broken p.size :: read) none rest
    else match Pending.ofLead? b.toNat with
      | some q => scan (broken p.size :: read) (some q) rest
      | none => scan (broken 1 :: broken p.size :: read) none rest

/-- Reads bytes as UTF-8. -/
def ofBytes (bytes : List UInt8) : List Glyph := scan [] none bytes

theorem lossy_ofString (s : String) : lossy (ofString s) = s := by
  have h : (shown ∘ char) = id := by funext c; rfl
  simp [lossy, ofString, h]

theorem text?_ofString (s : String) : text? (ofString s) = some s := by
  have h : (ofString s).all isChar = true := by simp [ofString, isChar]
  simp only [text?, h, if_true, lossy_ofString]

end Glyph

end PolicyDesk
