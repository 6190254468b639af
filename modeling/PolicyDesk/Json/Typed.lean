import PolicyDesk.Json.Skip

/-!
# Values of a known type

* `found`: what a value is, for the complaint that it is of another type; `mismatch` is the complaint.
* `unsigned`, `real`, `boolean`, `text`: a value of the type.
* `optional`: a value or `null`.
* `list`: a list of values of one kind.
-/

namespace PolicyDesk.Json

/-- What a number is, as something found. -/
def Number.found : Number → Found
  | natural n => .integer n
  | negative n => .integer (-(n : Int))
  | real x => .real x

/-- What the next value is. A list or an object is not read, all other values are. -/
def found (s : List Glyph) : Except Fault (Found × List Glyph) :=
  match s with
  | .char c :: rest =>
    if c = 'n' then (word ['u', 'l', 'l'] rest).map fun r => (.null, r)
    else if c = 't' then (word ['r', 'u', 'e'] rest).map fun r => (.boolean true, r)
    else if c = 'f' then (word ['a', 'l', 's', 'e'] rest).map fun r => (.boolean false, r)
    else if c = '-' ∨ Text.isDigit c then (number s).map fun (v, r) => (v.found, r)
    else if c = '"' then (string rest).map fun (t, r) => (.string t, r)
    else if c = '[' then .ok (.list, s)
    else if c = '\x7b' then .ok (.object, s)
    else .error (.behind .valueExpected s)
  | s => .error (.behind .valueExpected s)

/-- The complaint that the next value is not of the expected type. -/
def mismatch (expected : String) (s : List Glyph) : Fault :=
  match found s with
  | .ok (f, rest) => .before (.wrongType f expected) rest
  | .error fault => fault

/-- Whether a number starts here. -/
def startsNumber : List Glyph → Bool
  | .char c :: _ => c == '-' || Text.isDigit c
  | _ => false

/-- Reads a number and makes something of it; `expected` names what. -/
def numeric {α : Type} (expected : String) (make : Number → List Glyph → Except Fault α)
    (s : List Glyph) : Except Fault (α × List Glyph) :=
  match skipSpace s with
  | [] => .error (.before .endInValue [])
  | t =>
    if startsNumber t then do
      let (v, rest) ← number t
      let a ← make v rest
      .ok (a, rest)
    else .error (mismatch expected t)

/-- A nonnegative integer up to `most`. -/
def makeUnsigned (expected : String) (most : Nat) (v : Number) (rest : List Glyph) :
    Except Fault Nat :=
  match v with
  | .natural n =>
    if n ≤ most then .ok n else .error (.before (.wrongValue v.found expected) rest)
  | .negative _ => .error (.before (.wrongValue v.found expected) rest)
  | .real _ => .error (.before (.wrongType v.found expected) rest)

/-- Reads a nonnegative integer up to `most`. -/
def unsigned (expected : String) (most : Nat) (s : List Glyph) : Except Fault (Nat × List Glyph) :=
  numeric expected (makeUnsigned expected most) s

/-- The binary64 number of a number. An integer is rounded; all of them are small enough. -/
def Number.toReal : Number → Option Binary64
  | natural n => Binary64.ofRatio? false n 1
  | negative n => Binary64.ofRatio? true n 1
  | real x => some x

/-- Reads a binary64 number. -/
def real (s : List Glyph) : Except Fault (Binary64 × List Glyph) :=
  numeric "f64" (fun v rest =>
    match v.toReal with
    | some x => .ok x
    | none => .error (.before .outOfRange rest)) s

/-- Reads `true` or `false`. -/
def boolean (s : List Glyph) : Except Fault (Bool × List Glyph) :=
  match skipSpace s with
  | [] => .error (.before .endInValue [])
  | .char 't' :: rest => (word ['r', 'u', 'e'] rest).map fun r => (true, r)
  | .char 'f' :: rest => (word ['a', 'l', 's', 'e'] rest).map fun r => (false, r)
  | t => .error (mismatch "a boolean" t)

/-- Reads a string. -/
def text (s : List Glyph) : Except Fault (String × List Glyph) :=
  match skipSpace s with
  | [] => .error (.before .endInValue [])
  | .char '"' :: rest => string rest
  | t => .error (mismatch "a string" t)

/-- Reads `null` or a value. -/
def optional {α : Type} (value : List Glyph → Except Fault (α × List Glyph)) (s : List Glyph) :
    Except Fault (Option α × List Glyph) :=
  match skipSpace s with
  | .char 'n' :: rest => (word ['u', 'l', 'l'] rest).map fun r => (none, r)
  | t => (value t).map fun (a, r) => (some a, r)

theorem numeric_length {α : Type} {expected : String}
    {make : Number → List Glyph → Except Fault α} {s r : List Glyph} {a : α}
    (h : numeric expected make s = .ok (a, r)) : r.length < s.length := by
  have hs := skipSpace_length s
  unfold numeric at h
  split at h
  · cases h
  · split at h
    · cases hn : number (skipSpace s) with
      | error f => rw [hn] at h; cases h
      | ok p =>
        have h1 := number_length (v := p.1) (r := p.2) hn
        rw [hn] at h
        simp only [bind, Except.bind] at h
        split at h
        · cases h
        · cases h; omega
    · cases h

theorem optional_length {α : Type} {value : List Glyph → Except Fault (α × List Glyph)}
    (hv : ∀ s r a, value s = .ok (a, r) → r.length < s.length) {s r : List Glyph}
    {a : Option α} (h : optional value s = .ok (a, r)) : r.length < s.length := by
  have hs := skipSpace_length s
  unfold optional at h
  split at h
  · rename_i rest heq
    rw [heq] at hs
    simp only [List.length_cons] at hs
    cases hw : word ['u', 'l', 'l'] rest with
    | error f => rw [hw] at h; cases h
    | ok q =>
      have := word_length hw
      rw [hw] at h; cases h; omega
  · cases ht : value (skipSpace s) with
    | error f => rw [ht] at h; cases h
    | ok p =>
      have := hv _ p.2 p.1 ht
      rw [ht] at h; cases h; omega

theorem text_length {s r : List Glyph} {t : String} (h : text s = .ok (t, r)) :
    r.length < s.length := by
  have hs := skipSpace_length s
  unfold text at h
  split at h
  · cases h
  · rename_i heq
    rw [heq] at hs
    simp only [List.length_cons] at hs
    have := string_length h
    omega
  · cases h

theorem boolean_length {s r : List Glyph} {b : Bool} (h : boolean s = .ok (b, r)) :
    r.length < s.length := by
  have hs := skipSpace_length s
  have key : ∀ (cs : List Char) (c : Bool) (g : Glyph) (rest : List Glyph),
      skipSpace s = g :: rest →
      (word cs rest).map (fun r => (c, r)) = .ok (b, r) → r.length < s.length := by
    intro cs c g rest heq h
    rw [heq] at hs
    simp only [List.length_cons] at hs
    cases hw : word cs rest with
    | error f => rw [hw] at h; cases h
    | ok q =>
      have := word_length hw
      rw [hw] at h; cases h; omega
  unfold boolean at h
  split at h
  · cases h
  · rename_i heq; exact key _ _ _ _ heq h
  · rename_i heq; exact key _ _ _ _ heq h
  · cases h

/-! ## Lists -/

/-- Where a fault that the list is to place shows: behind its closing bracket, or where the list goes
on. -/
def listEnd (s : List Glyph) : List Glyph :=
  match skipSpace s with
  | .char ']' :: rest => rest
  | .char ',' :: rest => skipSpace rest
  | t => t

/-- Where a fault that the object is to place shows: behind its closing brace, or where the object goes
on. -/
def objectEnd (s : List Glyph) : List Glyph :=
  match skipSpace s with
  | .char '\x7d' :: rest => rest
  | t => t

/-- Gives a fault its place unless it has one. -/
def Fault.place (f : Fault) (place : List Glyph → List Glyph) : Fault :=
  if f.placed then f else .before f.cause (place f.rest)

/-- The start of the next element of a list; `none` before the closing bracket. -/
def nextElement (first : Bool) (s : List Glyph) : Except Fault (Option (List Glyph)) :=
  match skipSpace s with
  | [] => .error (.before .endInList [])
  | .char ']' :: _ => .ok none
  | t =>
    if first then .ok (some t)
    else match t with
      | .char ',' :: rest =>
        match skipSpace rest with
        | [] => .error (.before .endInValue [])
        | .char ']' :: q => .error (.behind .trailingComma (.char ']' :: q))
        | q => .ok (some q)
      | t => .error (.behind .listCommaExpected t)

/-- The closing bracket of a list of which everything wanted has been read. -/
def closeList (s : List Glyph) : Except Fault (List Glyph) :=
  match skipSpace s with
  | [] => .error (.before .endInList [])
  | .char ']' :: rest => .ok rest
  | .char ',' :: rest =>
    match skipSpace rest with
    | .char ']' :: q => .error (.behind .trailingComma (.char ']' :: q))
    | q => .error (.behind .trailingText q)
  | t => .error (.behind .trailingText t)

theorem nextElement_length {first : Bool} {s t : List Glyph}
    (h : nextElement first s = .ok (some t)) : t.length ≤ s.length := by
  have hs := skipSpace_length s
  unfold nextElement at h
  split at h
  · cases h
  · cases h
  · split at h
    · cases h; exact hs
    · split at h
      · rename_i rest heq
        have hr := skipSpace_length rest
        rw [heq] at hs
        simp only [List.length_cons] at hs
        split at h
        · cases h
        · cases h
        · cases h; omega
      · cases h

/-- A reader of one value: what it reads, and that it reads something. -/
structure Reader (α : Type) where
  read : List Glyph → Except Fault (α × List Glyph)
  shrinks : ∀ {s r a}, read s = .ok (a, r) → r.length < s.length

/-- Reads the elements of a list and its closing bracket. -/
def elements {α : Type} (item : Reader α) (first : Bool) (s : List Glyph) :
    Except Fault (List α × List Glyph) :=
  match h : nextElement first s with
  | .error f => .error f
  | .ok none => (closeList s).map fun rest => ([], rest)
  | .ok (some t) =>
    match h' : item.read t with
    | .error f => .error f
    | .ok (a, r) =>
      have : r.length < s.length := Nat.lt_of_lt_of_le (item.shrinks h') (nextElement_length h)
      (elements item false r).map fun (as, rest) => (a :: as, rest)
termination_by s.length

/-- Reads a list of values of one kind. -/
def list {α : Type} (item : Reader α) (s : List Glyph) : Except Fault (List α × List Glyph) :=
  match skipSpace s with
  | [] => .error (.before .endInValue [])
  | .char '[' :: rest => (elements item true rest).mapError fun f => f.place listEnd
  | t => .error (mismatch "a sequence" t)

/-- Behind a value only spaces may follow. -/
def finish {α : Type} (p : α × List Glyph) : Except Fault α :=
  match skipSpace p.2 with
  | [] => .ok p.1
  | t => .error (.behind .trailingText t)

end PolicyDesk.Json
