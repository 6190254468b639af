import PolicyDesk.Json.Fault

/-!
# Strings, numbers and words of a JSON text

Each reader takes the unread text and gives what it read with the rest, or a fault.

* `stringBody`: the characters of a string behind its opening quote; `string` also checks that they
  are characters all through.
* `skipString`: walks over a string without looking at surrogates or broken characters.
* `numeral`: the digits of a number; `number`: a number as it is kept. A fraction or an exponent makes
  it a binary64 number, and so does a value that no 64-bit integer holds.
* `word`: the rest of `null`, `true` or `false`.
-/

namespace PolicyDesk.Json

/-- The four characters that may stand between tokens. -/
def isSpace (g : Glyph) : Bool :=
  g == .char ' ' || g == .char '\n' || g == .char '\t' || g == .char '\r'

/-- The text behind the spaces it starts with. -/
def skipSpace (s : List Glyph) : List Glyph := s.dropWhile isSpace

/-! ## Strings -/

/-- A character that may not stand in a string as it is. -/
def isControl (c : Char) : Bool := c.toNat < 0x20

/-- The value of a hexadecimal digit, in small or capital letters. -/
def hexValue? (c : Char) : Option Nat :=
  if '0' ≤ c ∧ c ≤ '9' then some (c.toNat - 48)
  else if 'a' ≤ c ∧ c ≤ 'f' then some (c.toNat - 87)
  else if 'A' ≤ c ∧ c ≤ 'F' then some (c.toNat - 55)
  else none

/-- The value of a hexadecimal digit, if the glyph is one. -/
def glyphHex? : Glyph → Option Nat
  | .char c => hexValue? c
  | .broken _ => none

/-- The number that four hexadecimal digits denote. -/
def fourHex? (a b c d : Glyph) : Option Nat := do
  let a ← glyphHex? a
  let b ← glyphHex? b
  let c ← glyphHex? c
  let d ← glyphHex? d
  some (((a * 16 + b) * 16 + c) * 16 + d)

/-- Reads the four hexadecimal digits of an escape. Four bytes are taken whatever they are; a text
with fewer has ended inside the string. -/
def hexEscape (s : List Glyph) : Except Fault (Nat × List Glyph) :=
  if Glyph.totalSize s < 4 then .error (.before .endInString [])
  else match s with
    | a :: b :: c :: d :: rest =>
      match fourHex? a b c d with
      | some n => .ok (n, rest)
      | none => .error ⟨.badEscape, s, 4, true⟩
    | _ => .error ⟨.badEscape, s, 4, true⟩

/-- The character that a letter behind a backslash stands for. -/
def simpleEscape? (c : Char) : Option Char :=
  if c = '"' then some '"'
  else if c = '\\' then some '\\'
  else if c = '/' then some '/'
  else if c = 'b' then some (Char.ofNat 8)
  else if c = 'f' then some (Char.ofNat 12)
  else if c = 'n' then some '\n'
  else if c = 'r' then some '\r'
  else if c = 't' then some '\t'
  else none

/-- The second half of a pair of escapes: a backslash, `u` and four digits. -/
def lowEscape (s : List Glyph) : Except Fault (Nat × List Glyph) :=
  match s with
  | [] => .error (.before .endInString [])
  | g :: rest =>
    if g = .char '\\' then
      match rest with
      | [] => .error (.before .endInString [])
      | u :: more =>
        if u = .char 'u' then hexEscape more else .error (.behind .halfSurrogate rest)
    else .error (.behind .halfSurrogate s)

/-- Reads what follows `\u`: a character, or two halves that make one. -/
def unicodeEscape (s : List Glyph) : Except Fault (Char × List Glyph) := do
  let (high, rest) ← hexEscape s
  if 0xDC00 ≤ high ∧ high ≤ 0xDFFF then .error (.before .lowSurrogate rest)
  else if high < 0xD800 ∨ 0xDBFF < high then .ok (Char.ofNat high, rest)
  else
    let (low, rest) ← lowEscape rest
    if low < 0xDC00 ∨ 0xDFFF < low then .error (.before .lowSurrogate rest)
    else .ok (Char.ofNat (0x10000 + (high - 0xD800) * 0x400 + (low - 0xDC00)), rest)

/-- Reads what follows a backslash. -/
def escape (s : List Glyph) : Except Fault (Char × List Glyph) :=
  match s with
  | [] => .error (.before .endInString [])
  | .broken _ :: _ => .error (.behind .badEscape s)
  | .char c :: rest =>
    if c = 'u' then unicodeEscape rest
    else match simpleEscape? c with
      | some e => .ok (e, rest)
      | none => .error (.behind .badEscape s)

theorem hexEscape_length {s r : List Glyph} {n : Nat} (h : hexEscape s = .ok (n, r)) :
    r.length < s.length := by
  unfold hexEscape at h
  split at h
  · cases h
  · split at h
    · split at h
      · cases h; simp only [List.length_cons]; omega
      · cases h
    · cases h

theorem lowEscape_length {s r : List Glyph} {n : Nat} (h : lowEscape s = .ok (n, r)) :
    r.length < s.length := by
  unfold lowEscape at h
  split at h
  · cases h
  · split at h
    · split at h
      · cases h
      · split at h
        · have := hexEscape_length h; simp only [List.length_cons]; omega
        · cases h
    · cases h

theorem unicodeEscape_length {s r : List Glyph} {c : Char} (h : unicodeEscape s = .ok (c, r)) :
    r.length < s.length := by
  unfold unicodeEscape at h
  cases hs : hexEscape s with
  | error e => rw [hs] at h; cases h
  | ok p =>
    obtain ⟨n, q⟩ := p
    have hq := hexEscape_length hs
    rw [hs] at h
    simp only [bind, Except.bind] at h
    split at h
    · cases h
    · split at h
      · cases h; exact hq
      · cases hl : lowEscape q with
        | error e => rw [hl] at h; cases h
        | ok p =>
          obtain ⟨m, t⟩ := p
          have ht := lowEscape_length hl
          rw [hl] at h
          simp only at h
          split at h
          · cases h
          · simp only [Except.ok.injEq, Prod.mk.injEq] at h
            rw [← h.2]
            omega

theorem escape_length {s r : List Glyph} {c : Char} (h : escape s = .ok (c, r)) :
    r.length < s.length := by
  unfold escape at h
  split at h
  · cases h
  · cases h
  · split at h
    · have := unicodeEscape_length h; simp only [List.length_cons]; omega
    · split at h
      · cases h; simp
      · cases h

/-- Reads the glyphs of a string up to its closing quote. -/
def stringBody (s : List Glyph) : Except Fault (List Glyph × List Glyph) :=
  match s with
  | [] => .error (.before .endInString [])
  | .broken n :: rest =>
    match stringBody rest with
    | .ok (gs, r) => .ok (.broken n :: gs, r)
    | .error f => .error f
  | .char c :: rest =>
    if c = '"' then .ok ([], rest)
    else if c = '\\' then
      match h : escape rest with
      | .ok (e, r) =>
        have := escape_length h
        match stringBody r with
        | .ok (gs, q) => .ok (.char e :: gs, q)
        | .error f => .error f
      | .error f => .error f
    else if isControl c then .error (.behind .controlCharacter s)
    else
      match stringBody rest with
      | .ok (gs, r) => .ok (.char c :: gs, r)
      | .error f => .error f
termination_by s.length
decreasing_by all_goals simp only [List.length_cons]; omega

/-- Reads a string behind its opening quote. -/
def string (s : List Glyph) : Except Fault (String × List Glyph) := do
  let (gs, rest) ← stringBody s
  match Glyph.text? gs with
  | some text => .ok (text, rest)
  | none => .error (.before .badCharacter rest)

/-- Walks over what follows a backslash, whatever character it denotes. -/
def skipEscape (s : List Glyph) : Except Fault (List Glyph) :=
  match s with
  | [] => .error (.before .endInString [])
  | .broken _ :: _ => .error (.behind .badEscape s)
  | .char c :: rest =>
    if c = 'u' then (hexEscape rest).map Prod.snd
    else match simpleEscape? c with
      | some _ => .ok rest
      | none => .error (.behind .badEscape s)

theorem skipEscape_length {s r : List Glyph} (h : skipEscape s = .ok r) : r.length < s.length := by
  unfold skipEscape at h
  split at h
  · cases h
  · cases h
  · split at h
    · rename_i rest _
      cases hs : hexEscape rest with
      | error e => rw [hs] at h; cases h
      | ok p =>
        have := hexEscape_length (n := p.1) (r := p.2) hs
        rw [hs] at h; cases h
        simp only [List.length_cons]; omega
    · split at h
      · cases h; simp
      · cases h

/-- Walks over a string behind its opening quote. -/
def skipString (s : List Glyph) : Except Fault (List Glyph) :=
  match s with
  | [] => .error (.before .endInString [])
  | .broken _ :: rest => skipString rest
  | .char c :: rest =>
    if c = '"' then .ok rest
    else if c = '\\' then
      match h : skipEscape rest with
      | .ok r =>
        have := skipEscape_length h
        skipString r
      | .error f => .error f
    else if isControl c then .error (.before .controlCharacter s)
    else skipString rest
termination_by s.length
decreasing_by all_goals simp only [List.length_cons]; omega

/-! ## Words -/

/-- Reads the letters that a word goes on with. -/
def word : List Char → List Glyph → Except Fault (List Glyph)
  | [], s => .ok s
  | _ :: _, [] => .error (.before .endInValue [])
  | c :: cs, g :: rest =>
    if g = .char c then word cs rest else .error (.behind .wordExpected (g :: rest))

/-! ## Numbers -/

/-- A number as it is written. -/
structure Numeral where
  negative : Bool
  /-- The digits before the point. -/
  whole : List Char
  /-- The digits behind the point; none if there is no point. -/
  places : List Char
  /-- The exponent, if there is one: whether it is negative, and its digits. -/
  exponent : Option (Bool × List Char)
  deriving DecidableEq, Repr

/-- Splits off the digits at the start. -/
def digits : List Glyph → List Char × List Glyph
  | .char c :: rest =>
    if Text.isDigit c then
      let (ds, r) := digits rest
      (c :: ds, r)
    else ([], .char c :: rest)
  | s => ([], s)

/-- The fault of a number that stops too early: another cause is reported where the text ends. -/
def numberFault (atEnd : Cause) : List Glyph → Fault
  | [] => .before atEnd []
  | s => .behind .badNumber s

/-- Splits off a minus sign. -/
def signPart : List Glyph → Bool × List Glyph
  | .char '-' :: rest => (true, rest)
  | rest => (false, rest)

/-- The digits before the point: a zero alone, or digits that start with no zero. -/
def wholePart (atEnd : Cause) (s : List Glyph) : Except Fault (List Char × List Glyph) :=
  match digits s with
  | ([], _) => .error (numberFault atEnd s)
  | (['0'], rest) => .ok (['0'], rest)
  | ('0' :: _, _) => .error (.behind .badNumber s.tail)
  | (ds, rest) => .ok (ds, rest)

/-- Digits, of which there is at least one. -/
def someDigits (atEnd : Cause) (s : List Glyph) : Except Fault (List Char × List Glyph) :=
  match digits s with
  | ([], rest) => .error (numberFault atEnd rest)
  | (ds, rest) => .ok (ds, rest)

/-- The digits behind a point, if there is one. -/
def pointPart (atEnd : Cause) : List Glyph → Except Fault (List Char × List Glyph)
  | .char '.' :: rest => someDigits atEnd rest
  | rest => .ok ([], rest)

/-- The sign of an exponent; without one the exponent is positive. -/
def exponentSign : List Glyph → Bool × List Glyph
  | .char '-' :: rest => (true, rest)
  | .char '+' :: rest => (false, rest)
  | rest => (false, rest)

/-- The exponent behind its mark, if there is one. -/
def exponentPart (atEnd : Cause) :
    List Glyph → Except Fault (Option (Bool × List Char) × List Glyph)
  | .char 'e' :: rest | .char 'E' :: rest => do
    let (ds, r) ← someDigits atEnd (exponentSign rest).2
    .ok (some ((exponentSign rest).1, ds), r)
  | rest => .ok (none, rest)

/-- Reads a number; `atEnd` is the cause reported where the text ends inside it. -/
def numeral (atEnd : Cause) (s : List Glyph) : Except Fault (Numeral × List Glyph) := do
  let (whole, t) ← wholePart atEnd (signPart s).2
  let (places, u) ← pointPart atEnd t
  let (exponent, v) ← exponentPart atEnd u
  .ok (⟨(signPart s).1, whole, places, exponent⟩, v)

theorem digits_length (s : List Glyph) : (digits s).1.length + (digits s).2.length = s.length := by
  induction s with
  | nil => rfl
  | cons g rest ih =>
    cases g with
    | broken n => simp [digits]
    | char c =>
      unfold digits
      split
      · simp only [List.length_cons]; omega
      · simp

theorem signPart_length (s : List Glyph) : (signPart s).2.length ≤ s.length := by
  unfold signPart; split <;> simp

theorem wholePart_length {atEnd : Cause} {s r : List Glyph} {d : List Char}
    (h : wholePart atEnd s = .ok (d, r)) : r.length < s.length := by
  have hd := digits_length s
  unfold wholePart at h
  split at h
  · cases h
  · rename_i heq; cases h; rw [heq] at hd; simp only [List.length_cons] at hd; omega
  · cases h
  · rename_i hne _ _ heq
    cases h
    rw [heq] at hd
    cases d with
    | nil => exact absurd rfl hne
    | cons c cs => simp only [List.length_cons] at hd; omega

theorem someDigits_length {atEnd : Cause} {s r : List Glyph} {d : List Char}
    (h : someDigits atEnd s = .ok (d, r)) : r.length ≤ s.length := by
  have hd := digits_length s
  unfold someDigits at h
  split at h
  · cases h
  · rename_i heq; cases h; rw [heq] at hd; simp only at hd; omega

theorem pointPart_length {atEnd : Cause} {s r : List Glyph} {d : List Char}
    (h : pointPart atEnd s = .ok (d, r)) : r.length ≤ s.length := by
  unfold pointPart at h
  split at h
  · have := someDigits_length h; simp only [List.length_cons]; omega
  · cases h; exact Nat.le_refl _

theorem exponentSign_length (s : List Glyph) : (exponentSign s).2.length ≤ s.length := by
  unfold exponentSign; split <;> simp

theorem exponentPart_length {atEnd : Cause} {s r : List Glyph} {e : Option (Bool × List Char)}
    (h : exponentPart atEnd s = .ok (e, r)) : r.length ≤ s.length := by
  have key : ∀ (rest : List Glyph) (g : Glyph),
      (do let (ds, r) ← someDigits atEnd (exponentSign rest).2
          Except.ok (some ((exponentSign rest).1, ds), r) :
        Except Fault (Option (Bool × List Char) × List Glyph)) = .ok (e, r) →
      r.length ≤ (g :: rest).length := by
    intro rest g h
    have hs := exponentSign_length rest
    cases hd : someDigits atEnd (exponentSign rest).2 with
    | error f => rw [hd] at h; cases h
    | ok p =>
      have := someDigits_length (d := p.1) (r := p.2) hd
      rw [hd] at h; cases h
      simp only [List.length_cons]; omega
  unfold exponentPart at h
  split at h
  · exact key _ _ h
  · exact key _ _ h
  · cases h; exact Nat.le_refl _

theorem numeral_length {atEnd : Cause} {s r : List Glyph} {n : Numeral}
    (h : numeral atEnd s = .ok (n, r)) : r.length < s.length := by
  have hs := signPart_length s
  unfold numeral at h
  cases hw : wholePart atEnd (signPart s).2 with
  | error f => rw [hw] at h; cases h
  | ok p =>
    have h1 := wholePart_length (d := p.1) (r := p.2) hw
    rw [hw] at h
    simp only [bind, Except.bind] at h
    cases hp : pointPart atEnd p.2 with
    | error f => rw [hp] at h; cases h
    | ok q =>
      have h2 := pointPart_length (d := q.1) (r := q.2) hp
      rw [hp] at h
      simp only at h
      cases he : exponentPart atEnd q.2 with
      | error f => rw [he] at h; cases h
      | ok t =>
        have h3 := exponentPart_length (e := t.1) (r := t.2) he
        rw [he] at h
        simp only [Except.ok.injEq, Prod.mk.injEq] at h
        rw [← h.2]
        omega

/-- A number as it is kept. -/
inductive Number where
  /-- A nonnegative integer below `2 ^ 64`. -/
  | natural (n : Nat)
  /-- The negative of a positive integer up to `2 ^ 63`. -/
  | negative (n : Nat)
  | real (x : Binary64)
  deriving DecidableEq, Repr

/-- The greatest significand. -/
abbrev wordMax : Nat := UInt64.size - 1

/-- The greatest exponent that is read to its end. -/
abbrev exponentMax : Nat := 0x7FFFFFFF

/-- Appends digits to a significand as long as it stays a 64-bit word; also gives the digits that were
left over. -/
def absorb : Nat → List Char → Nat × List Char
  | n, [] => (n, [])
  | n, d :: ds =>
    if 10 * n + Text.digitValue d ≤ wordMax then absorb (10 * n + Text.digitValue d) ds
    else (n, d :: ds)

/-- The greatest power of ten that is a finite number. -/
abbrev powerMax : Nat := 308

/-- The rank of a power of ten. -/
def powerRank (p : Nat) : Nat := Binary64.nearestRank (Nat.pow 10 p) 1

/-- Divides a magnitude by a power of ten, by `10 ^ 308` as often as that goes. -/
def divPower (rank power : Nat) : Nat :=
  if rank = 0 then 0
  else if power ≤ powerMax then Binary64.divRank rank (powerRank power)
  else divPower (Binary64.divRank rank (powerRank powerMax)) (power - powerMax)
termination_by power
decreasing_by simp only [powerMax] at *; omega

/-- The rank of a significand times a power of ten: the significand is rounded, and then one product or
quotient with a power of ten is. -/
def scaledRank (significand : Nat) (power : Int) : Nat :=
  let rank := Binary64.nearestRank significand 1
  match power with
  | .ofNat p =>
    if rank = 0 then 0
    else if p ≤ powerMax then Binary64.mulRank rank (powerRank p)
    else Binary64.rankLimit
  | .negSucc p => divPower rank (p + 1)

/-- How many digits of an exponent are unread when it gets too large. -/
def unreadExponent : Nat → List Char → Option Nat
  | _, [] => none
  | n, d :: ds =>
    if 10 * n + Text.digitValue d ≤ exponentMax then unreadExponent (10 * n + Text.digitValue d) ds
    else some ds.length

namespace Numeral

/-- A number without point and exponent. -/
def isInteger (n : Numeral) : Bool := n.places.isEmpty && n.exponent.isNone

/-- The significand and the power of ten that go with the digits. Digits that do not fit into the
significand are dropped; those before the point count in the power. -/
def scaled (n : Numeral) : Nat × Int :=
  let (high, dropped) := absorb 0 n.whole
  let (all, left) := absorb high n.places
  (all, dropped.length - (n.places.length - left.length : Nat))

/-- The binary64 number of a numeral. On overflow the number of unread digits of the exponent. -/
def real (n : Numeral) : Except Nat Binary64 :=
  let (significand, power) := n.scaled
  let (down, ds) := n.exponent.getD (false, [])
  match unreadExponent 0 ds with
  | some unread =>
    if significand ≠ 0 ∧ down = false then .error unread else .ok { Binary64.zero with negative := n.negative }
  | none =>
    let exponent : Int := if down then -(Text.value ds : Int) else (Text.value ds : Int)
    match Binary64.ofRank? n.negative (scaledRank significand (power + exponent)) with
    | some x => .ok x
    | none => .error 0

/-- The number of a numeral. An integer that is too large for its word, and minus zero, are binary64
numbers. -/
def number (n : Numeral) : Except Nat Number :=
  let whole := Text.value n.whole
  if n.isInteger ∧ n.negative = false ∧ whole ≤ wordMax then .ok (.natural whole)
  else if n.isInteger ∧ n.negative ∧ 0 < whole ∧ whole ≤ 0x8000000000000000 then .ok (.negative whole)
  else n.real.map .real

end Numeral

/-- Reads a number. -/
def number (s : List Glyph) : Except Fault (Number × List Glyph) := do
  let (n, rest) ← numeral .endInValue s
  match n.number with
  | .ok v => .ok (v, rest)
  | .error unread => .error (.before .outOfRange (s.drop (s.length - (rest.length + unread))))

/-- Walks over a number without looking at its size. -/
def skipNumber (s : List Glyph) : Except Fault (List Glyph) :=
  (numeral .badNumber s).map Prod.snd

end PolicyDesk.Json
