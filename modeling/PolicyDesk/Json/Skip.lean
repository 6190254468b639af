import PolicyDesk.Json.Scalar

/-!
# Walking over a value

A value that is not kept is walked over in one of two ways (`Care`). `outline` looks only at the
outline of an unknown member: numbers may be too large, surrogates may stand alone, and brackets may
be nested as deep as the text likes. `strict` is for a value that is kept for a moment, although only
a string or a number among them is of use.

* `walk`: one step per token, with the open brackets in a list.
* `skipValue`: walks over one value.
-/

namespace PolicyDesk.Json

/-- How a value that is not kept is walked over. -/
inductive Care where
  /-- Only the outline is looked at. -/
  | outline
  /-- Strings and numbers have to be readable, and so many brackets may be open at once. -/
  | strict (room : Nat)
  deriving DecidableEq, Repr

/-- An open bracket. -/
inductive Bracket where
  | list
  | object
  deriving DecidableEq, Repr

/-- Where in a value the walk is. -/
inductive Stage where
  /-- Before a value. -/
  | value
  /-- Behind an opening bracket. -/
  | opened
  /-- Behind a value. -/
  | closed
  deriving DecidableEq, Repr

/-- The order in which stages follow each other without reading anything. -/
def Stage.order : Stage → Nat
  | value => 0
  | opened => 1
  | closed => 1

/-- Walks over a string behind its opening quote. -/
def Care.string : Care → List Glyph → Except Fault (List Glyph)
  | outline, s => skipString s
  | strict _, s => (Json.string s).map Prod.snd

/-- Walks over a number. -/
def Care.number : Care → List Glyph → Except Fault (List Glyph)
  | outline, s => skipNumber s
  | strict _, s => (Json.number s).map Prod.snd

/-- Whether one more bracket would be too many. -/
def Care.isFull : Care → List Bracket → Bool
  | outline, _ => false
  | strict room, up => room ≤ up.length

/-- What is wrong behind a comma, as far as the strict walk sees it before it goes on. -/
def Care.commaFault? : Care → Bracket → List Glyph → Option Fault
  | outline, _, _ => none
  | strict _, _, [] => some (.before .endInValue [])
  | strict _, b, g :: rest =>
    let closing := match b with
      | .list => Glyph.char ']'
      | .object => Glyph.char '\x7d'
    if g = closing then some (.behind .trailingComma (g :: rest)) else none

/-- Walks over a string, a number or a word. -/
def skipScalar (care : Care) : List Glyph → Except Fault (List Glyph)
  | [] => .error (.before .endInValue [])
  | .broken n :: rest => .error (.behind .valueExpected (.broken n :: rest))
  | .char c :: rest =>
    if c = '"' then care.string rest
    else if c = '-' ∨ Text.isDigit c then care.number (.char c :: rest)
    else if c = 'n' then word ['u', 'l', 'l'] rest
    else if c = 't' then word ['r', 'u', 'e'] rest
    else if c = 'f' then word ['a', 'l', 's', 'e'] rest
    else .error (.behind .valueExpected (.char c :: rest))

/-- Walks over the name of a member and the colon. -/
def skipName (care : Care) (s : List Glyph) : Except Fault (List Glyph) :=
  match s with
  | [] => .error (.before .endInObject [])
  | .char '"' :: rest => do
    let r ← care.string rest
    match skipSpace r with
    | [] => .error (.before .endInObject [])
    | .char ':' :: q => .ok q
    | q => .error (.behind .colonExpected q)
  | s => .error (.behind .keyNotString s)

theorem skipSpace_length (s : List Glyph) : (skipSpace s).length ≤ s.length :=
  (List.dropWhile_suffix isSpace).length_le

theorem stringBody_length {s r g : List Glyph} (h : stringBody s = .ok (g, r)) :
    r.length < s.length := by
  fun_induction stringBody s generalizing g r <;> simp_all <;> omega

theorem string_length {s r : List Glyph} {t : String} (h : string s = .ok (t, r)) :
    r.length < s.length := by
  unfold string at h
  cases hb : stringBody s with
  | error f => rw [hb] at h; cases h
  | ok p =>
    have := stringBody_length (g := p.1) (r := p.2) hb
    rw [hb] at h
    simp only [bind, Except.bind] at h
    split at h
    · cases h; exact this
    · cases h

theorem skipString_length {s r : List Glyph} (h : skipString s = .ok r) : r.length < s.length := by
  fun_induction skipString s <;> simp_all <;> omega

theorem Care.string_length {care : Care} {s r : List Glyph} (h : care.string s = .ok r) :
    r.length < s.length := by
  cases care with
  | outline => exact skipString_length h
  | strict room =>
    simp only [Care.string] at h
    cases hs : Json.string s with
    | error f => rw [hs] at h; cases h
    | ok p => rw [hs] at h; cases h; exact Json.string_length hs

theorem number_length {s r : List Glyph} {v : Number} (h : number s = .ok (v, r)) :
    r.length < s.length := by
  unfold number at h
  cases hn : numeral .endInValue s with
  | error f => rw [hn] at h; cases h
  | ok p =>
    have := numeral_length (n := p.1) (r := p.2) hn
    rw [hn] at h
    simp only [bind, Except.bind] at h
    split at h
    · cases h; exact this
    · cases h

theorem Care.number_length {care : Care} {s r : List Glyph} (h : care.number s = .ok r) :
    r.length < s.length := by
  cases care with
  | outline =>
    simp only [Care.number, skipNumber] at h
    cases hs : numeral .badNumber s with
    | error f => rw [hs] at h; cases h
    | ok p => rw [hs] at h; cases h; exact numeral_length hs
  | strict room =>
    simp only [Care.number] at h
    cases hs : Json.number s with
    | error f => rw [hs] at h; cases h
    | ok p => rw [hs] at h; cases h; exact Json.number_length hs

theorem word_length {cs : List Char} {s r : List Glyph} (h : word cs s = .ok r) :
    r.length ≤ s.length := by
  fun_induction word cs s <;> simp_all
  omega

theorem skipScalar_length {care : Care} {s r : List Glyph} (h : skipScalar care s = .ok r) :
    r.length < s.length := by
  unfold skipScalar at h
  split at h
  · cases h
  · cases h
  · split at h
    · have := Care.string_length h; simp only [List.length_cons]; omega
    · split at h
      · exact Care.number_length h
      · simp only [List.length_cons]
        split at h
        · have := word_length h; omega
        · split at h
          · have := word_length h; omega
          · split at h
            · have := word_length h; omega
            · cases h

theorem skipName_length {care : Care} {s r : List Glyph} (h : skipName care s = .ok r) :
    r.length < s.length := by
  unfold skipName at h
  split at h
  · cases h
  · rename_i rest
    cases hs : care.string rest with
    | error f => rw [hs] at h; cases h
    | ok q =>
      have h1 := Care.string_length hs
      have h2 := skipSpace_length q
      rw [hs] at h
      simp only [bind, Except.bind] at h
      split at h
      · cases h
      · rename_i heq
        cases h
        rw [heq] at h2
        simp only [List.length_cons] at *
        omega
      · cases h
  · cases h

/-- Walks on from a stage with the given brackets open, until they are all closed. -/
def walk (care : Care) (stage : Stage) (up : List Bracket) (s : List Glyph) :
    Except Fault (List Glyph) :=
  match stage, up with
  | .value, up =>
    match h : skipSpace s with
    | .char '[' :: rest =>
      have : rest.length < s.length := by
        have := skipSpace_length s; rw [h] at this; simpa [Nat.succ_le_iff] using this
      if care.isFull up then .error (.behind .tooDeep (.char '[' :: rest))
      else walk care .opened (.list :: up) rest
    | .char '\x7b' :: rest =>
      have : rest.length < s.length := by
        have := skipSpace_length s; rw [h] at this; simpa [Nat.succ_le_iff] using this
      if care.isFull up then .error (.behind .tooDeep (.char '\x7b' :: rest))
      else walk care .opened (.object :: up) rest
    | t =>
      match h' : skipScalar care t with
      | .ok r =>
        have : r.length < s.length := by
          have := skipSpace_length s; have := skipScalar_length h'; rw [h] at *; omega
        walk care .closed up r
      | .error f => .error f
  | .opened, [] => .ok s
  | .opened, .list :: up =>
    match h : skipSpace s with
    | [] => .error (.before .endInList [])
    | .char ']' :: rest =>
      have : rest.length < s.length := by
        have := skipSpace_length s; rw [h] at this; simpa [Nat.succ_le_iff] using this
      walk care .closed up rest
    | _ => walk care .value (.list :: up) s
  | .opened, .object :: up =>
    match h : skipSpace s with
    | .char '\x7d' :: rest =>
      have : rest.length < s.length := by
        have := skipSpace_length s; rw [h] at this; simpa [Nat.succ_le_iff] using this
      walk care .closed up rest
    | t =>
      match h' : skipName care t with
      | .ok r =>
        have : r.length < s.length := by
          have := skipSpace_length s; have := skipName_length h'; rw [h] at *; omega
        walk care .value (.object :: up) r
      | .error f => .error f
  | .closed, [] => .ok s
  | .closed, .list :: up =>
    match h : skipSpace s with
    | [] => .error (.before .endInList [])
    | .char ']' :: rest =>
      have : rest.length < s.length := by
        have := skipSpace_length s; rw [h] at this; simpa [Nat.succ_le_iff] using this
      walk care .closed up rest
    | .char ',' :: rest =>
      have : rest.length < s.length := by
        have := skipSpace_length s; rw [h] at this; simpa [Nat.succ_le_iff] using this
      match care.commaFault? .list (skipSpace rest) with
      | some f => .error f
      | none => walk care .value (.list :: up) rest
    | t => .error (.behind .listCommaExpected t)
  | .closed, .object :: up =>
    match h : skipSpace s with
    | [] => .error (.before .endInObject [])
    | .char '\x7d' :: rest =>
      have : rest.length < s.length := by
        have := skipSpace_length s; rw [h] at this; simpa [Nat.succ_le_iff] using this
      walk care .closed up rest
    | .char ',' :: rest =>
      have : rest.length < s.length := by
        have := skipSpace_length s; rw [h] at this; simpa [Nat.succ_le_iff] using this
      match care.commaFault? .object (skipSpace rest) with
      | some f => .error f
      | none =>
        match h' : skipName care (skipSpace rest) with
        | .ok r =>
          have : r.length < s.length := by
            have := skipSpace_length rest; have := skipName_length h'; omega
          walk care .value (.object :: up) r
        | .error f => .error f
    | t => .error (.behind .objectCommaExpected t)
termination_by (s.length, stage.order)
decreasing_by
  all_goals first
    | exact Prod.Lex.left _ _ (by assumption)
    | exact Prod.Lex.right _ (by simp [Stage.order])

/-- Walks over one value. -/
def skipValue (care : Care) (s : List Glyph) : Except Fault (List Glyph) := walk care .value [] s

end PolicyDesk.Json
