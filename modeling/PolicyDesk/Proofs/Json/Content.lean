import PolicyDesk.Json.Typed
import PolicyDesk.Proofs.Json.Walking

/-!
# What a value says to a reader of a type

* `Content`: what is left of a value without its spelling; lists and objects are all alike.
* `Entry.title?`, `Entry.said`: the name of a member, and what it says with its value.
* `Numeral.integer?`: the integer of a number that is written as one.
* `Content.unsigned?`, `Content.real?`, `Content.boolean?`, `Content.text?`: what a reader of the type makes
  of it, and `Content.optional` for one that also takes `null`.
* `unsigned_value`, `real_value`, `boolean_value`, `text_value`, `optional_value`: the readers do so.
* `finish_eq_ok_iff`: nothing but spaces may be left at the end of a text.
-/

namespace PolicyDesk.Json

open Text (isDigit)

/-- What is left of a value without its spelling. -/
inductive Content where
  | null
  | boolean (b : Bool)
  | number (n : Numeral)
  /-- A string, unless half of a pair is in it. -/
  | text (t : Option String)
  /-- A list or an object. -/
  | nested

/-- The string that letters spell, unless half of a pair is among them. -/
def spelled? (ls : List Letter) : Option String := (meaning ls).map String.ofList

/-- What the value says. -/
def Value.content : Value → Content
  | null => .null
  | boolean b => .boolean b
  | number n => .number n.numeral
  | string ls => .text (spelled? ls)
  | list _ _ => .nested
  | object _ _ => .nested

/-- The name of a member, unless it is no string. -/
def Entry.title? (e : Entry Value) : Option String := spelled? e.name

/-- What a member says: its name and what its value says. -/
def Entry.said (e : Entry Value) : Option String × Content := (e.title?, e.value.content)

/-- The integer of a number without point and exponent. Minus zero is no integer. -/
def Numeral.integer? (n : Numeral) : Option Int :=
  if n.isInteger then
    if n.negative then
      if Text.value n.whole = 0 then none else some (-(Text.value n.whole : Int))
    else some (Text.value n.whole)
  else none

namespace Content

variable {α : Type}

/-- An integer from zero up to `most`. -/
def unsigned? (most : Nat) : Content → Option Nat
  | number n => n.integer?.bind fun i => if 0 ≤ i ∧ i ≤ most then some i.toNat else none
  | _ => none

/-- A number, as the binary64 number it is converted into unless it is too large. -/
def real? : Content → Option Binary64
  | number n => n.number.toOption.bind Number.toReal
  | _ => none

/-- A truth value. -/
def boolean? : Content → Option Bool
  | boolean b => some b
  | _ => none

/-- A string. -/
def text? : Content → Option String
  | text t => t
  | _ => none

/-- A value of the type, or `null` in its place. -/
def optional (value : Content → Option α) : Content → Option (Option α)
  | null => some none
  | c => (value c).map some

end Content

/-! ## The readers -/

section

variable {α : Type} {s : List Glyph}

/-- The first glyph of a value behind spaces. -/
theorem skipSpace_starts (v : Value) (gap : Gap) (s : List Glyph) :
    ∃ c t, v.Starts c ∧ v.text.map .char ++ s = .char c :: t ∧
      skipSpace (gap.chars.map .char ++ (v.text.map .char ++ s)) = .char c :: t := by
  obtain ⟨c, t, text, starts⟩ := v.text_starts
  have front : v.text.map .char ++ s = .char c :: (t.map .char ++ s) := by
    rw [text, List.map_cons, List.cons_append]
  exact ⟨c, _, starts, front, (skipSpace_value gap v s).trans front⟩

/-- A number starts where the value is one. -/
theorem startsNumber_value {v : Value} {c : Char} (starts : v.Starts c) (t : List Glyph) :
    startsNumber (.char c :: t) = true ↔ ∃ n, v = .number n := by
  cases v with
  | null =>
    cases starts
    simp [startsNumber]
    decide
  | boolean b =>
    cases b <;> cases starts
    all_goals
      simp [startsNumber]
      decide
  | number n => simpa [startsNumber, Value.Starts] using starts
  | string ls =>
    cases starts
    simp [startsNumber]
    decide
  | list gap items =>
    cases starts
    simp [startsNumber]
    decide
  | object gap entries =>
    cases starts
    simp [startsNumber]
    decide

/-- A number is read where the value is one, and nothing else is. -/
theorem numeric_value (expected : String) (make : Number → List Glyph → Except Fault α) (v : Value)
    (gap : Gap) (hs : EndsNumber s) :
    (numeric expected make (gap.chars.map .char ++ (v.text.map .char ++ s))).toOption =
      match v with
      | .number n => n.numeral.number.toOption.bind fun x => (make x s).toOption.map fun a => (a, s)
      | _ => none := by
  obtain ⟨c, t, starts, front, behind⟩ := skipSpace_starts v gap s
  have number := startsNumber_value starts t
  unfold numeric
  rw [behind]
  simp only
  split
  · rename_i h
    obtain ⟨n, rfl⟩ := number.mp h
    have read := number_figure n hs
    rw [Value.text] at front
    rw [front] at read
    change ((Json.number (.char c :: t)).bind fun p => (make p.1 p.2).bind fun a => .ok (a, p.2)).toOption = _
    rw [toOption_bind, read]
    cases hn : n.numeral.number with
    | error e => simp [hn]
    | ok x =>
      simp only [hn, toOption_ok, Option.map_some, Option.bind_some, toOption_bind]
      cases make x s <;> rfl
  · rename_i h
    cases v with
    | number n => exact absurd (number.mpr ⟨n, rfl⟩) h
    | _ => rfl

/-- Which numbers are kept as integers. -/
theorem number_cases (n : Numeral) :
    (∃ k : Nat, n.integer? = some (k : Int) ∧ k ≤ wordMax ∧ n.number = .ok (.natural k)) ∨
      (∃ k : Nat, n.integer? = some (-(k : Int)) ∧ 0 < k ∧ k ≤ 0x8000000000000000 ∧
        n.number = .ok (.negative k)) ∨
      (∀ i, n.integer? = some i → i < -0x8000000000000000 ∨ (wordMax : Int) < i) ∧
        n.number = n.real.map .real := by
  unfold Numeral.number Numeral.integer?
  simp only
  by_cases integer : n.isInteger = true
  · simp only [integer, if_true, true_and]
    by_cases negative : n.negative = true
    · simp only [negative, if_true, Bool.true_eq_false, false_and, if_false, true_and]
      by_cases fits : 0 < Text.value n.whole ∧ Text.value n.whole ≤ 0x8000000000000000
      · refine .inr (.inl ⟨Text.value n.whole, ?_, fits.1, fits.2, if_pos fits⟩)
        rw [if_neg (by omega)]
      · refine .inr (.inr ⟨?_, if_neg fits⟩)
        intro i hi
        split at hi
        · cases hi
        · cases hi
          omega
    · have positive : n.negative = false := by simpa using negative
      simp only [positive, Bool.false_eq_true, if_false, true_and, false_and]
      by_cases fits : Text.value n.whole ≤ wordMax
      · exact .inl ⟨Text.value n.whole, rfl, fits, if_pos fits⟩
      · refine .inr (.inr ⟨?_, if_neg fits⟩)
        intro i hi
        cases hi
        exact .inr (by exact_mod_cast Nat.lt_of_not_le fits)
  · have other : n.isInteger = false := by simpa using integer
    refine .inr (.inr ⟨?_, ?_⟩)
    · intro i hi
      rw [other] at hi
      cases hi
    · simp [other]

/-- An integer from zero up to `most` is read. -/
theorem unsigned_value (expected : String) {most : Nat} (word : most ≤ wordMax) (v : Value) (gap : Gap)
    (hs : EndsNumber s) :
    (unsigned expected most (gap.chars.map .char ++ (v.text.map .char ++ s))).toOption =
      (v.content.unsigned? most).map fun n => (n, s) := by
  rw [unsigned, numeric_value expected _ v gap hs]
  cases v with
  | number n =>
    have large : wordMax = 0xFFFFFFFFFFFFFFFF := rfl
    simp only [Value.content, Content.unsigned?]
    obtain ⟨k, integer, -, kept⟩ | ⟨k, integer, pos, -, kept⟩ | ⟨out, kept⟩ := number_cases n.numeral
    · rw [integer, kept]
      simp only [toOption_ok, Option.bind_some, makeUnsigned]
      by_cases fits : k ≤ most
      · simp [fits]
      · simp [fits]
    · have below : ¬ (0 ≤ -(k : Int) ∧ -(k : Int) ≤ most) := by omega
      rw [integer, kept]
      simp only [toOption_ok, Option.bind_some, makeUnsigned, if_neg below]
      rfl
    · have nothing : (n.numeral.integer?.bind fun i =>
          if 0 ≤ i ∧ i ≤ (most : Int) then some i.toNat else none) = none := by
        cases hi : n.numeral.integer? with
        | none => rfl
        | some i =>
          have := out i hi
          exact if_neg (by omega)
      rw [nothing, kept]
      cases n.numeral.real <;> rfl
  | _ => rfl

/-- A number is read as it is converted. -/
theorem real_value (v : Value) (gap : Gap) (hs : EndsNumber s) :
    (real (gap.chars.map .char ++ (v.text.map .char ++ s))).toOption = v.content.real?.map fun x => (x, s) := by
  rw [real, numeric_value _ _ v gap hs]
  cases v with
  | number n =>
    simp only [Value.content, Content.real?]
    cases n.numeral.number with
    | error e => rfl
    | ok x =>
      simp only [toOption_ok, Option.bind_some]
      cases x.toReal <;> rfl
  | _ => rfl

/-- A truth value is read. -/
theorem boolean_value (v : Value) (gap : Gap) (s : List Glyph) :
    (boolean (gap.chars.map .char ++ (v.text.map .char ++ s))).toOption =
      v.content.boolean?.map fun b => (b, s) := by
  obtain ⟨c, t, starts, front, behind⟩ := skipSpace_starts v gap s
  unfold boolean
  rw [behind]
  cases v with
  | null =>
    cases starts
    rfl
  | boolean b =>
    cases b with
    | true =>
      have word := word_append ['r', 'u', 'e'] s
      cases front
      simpa [Value.content, Content.boolean?] using congrArg Except.toOption word
    | false =>
      have word := word_append ['a', 'l', 's', 'e'] s
      cases front
      simpa [Value.content, Content.boolean?] using congrArg Except.toOption word
  | number n =>
    split
    · rfl
    · rename_i heq
      cases heq
      obtain h | h := starts <;> cases h
    · rename_i heq
      cases heq
      obtain h | h := starts <;> cases h
    · rfl
  | string ls =>
    cases starts
    rfl
  | list gap items =>
    cases starts
    rfl
  | object gap entries =>
    cases starts
    rfl

/-- A string is read. -/
theorem text_value (v : Value) (gap : Gap) (s : List Glyph) :
    (text (gap.chars.map .char ++ (v.text.map .char ++ s))).toOption =
      v.content.text?.map fun t => (t, s) := by
  obtain ⟨c, t, starts, front, behind⟩ := skipSpace_starts v gap s
  unfold text
  rw [behind]
  cases v with
  | string ls =>
    have read := string_spelling ls s
    cases starts
    simp only [Value.text, List.map_cons, List.map_append, List.map_nil, List.cons_append,
      List.append_assoc, List.nil_append, List.cons.injEq, true_and] at front
    rw [← front]
    simp only [Value.content, Content.text?, spelled?, Option.map_map]
    exact read
  | number n =>
    split
    · rfl
    · rename_i heq
      cases heq
      obtain h | h := starts <;> cases h
    · rfl
  | null =>
    cases starts
    rfl
  | boolean b => cases b <;> cases starts <;> rfl
  | list gap items =>
    cases starts
    rfl
  | object gap entries =>
    cases starts
    rfl

/-- A reader of a type that also takes `null`. -/
theorem optional_value {value : List Glyph → Except Fault (α × List Glyph)} {read : Content → Option α}
    {v : Value} (h : (value (v.text.map .char ++ s)).toOption = (read v.content).map fun a => (a, s))
    (gap : Gap) :
    (optional value (gap.chars.map .char ++ (v.text.map .char ++ s))).toOption =
      (v.content.optional read).map fun a => (a, s) := by
  obtain ⟨c, t, starts, front, behind⟩ := skipSpace_starts v gap s
  have other : c ≠ 'n' → (optional value (gap.chars.map .char ++ (v.text.map .char ++ s))).toOption =
      ((read v.content).map some).map fun a => (a, s) := by
    intro notNull
    unfold optional
    rw [behind]
    split
    · rename_i heq
      cases heq
      exact absurd rfl notNull
    · rw [toOption_map, ← front, h]
      cases read v.content <;> rfl
  cases v with
  | null =>
    have word := word_append ['u', 'l', 'l'] s
    unfold optional
    rw [behind]
    cases front
    simpa [Value.content, Content.optional] using congrArg Except.toOption word
  | boolean b => exact other (by cases b <;> cases starts <;> decide)
  | number n =>
    apply other
    rintro rfl
    obtain h | h := starts <;> cases h
  | string ls => exact other (by cases starts; decide)
  | list gap items => exact other (by cases starts; decide)
  | object gap entries => exact other (by cases starts; decide)

end

/-! ## The end of a text -/

/-- Nothing but spaces may be left at the end. -/
theorem finish_eq_ok_iff {a b : α} : finish (a, s) = .ok b ↔ a = b ∧ skipSpace s = [] := by
  rw [finish]
  split
  · rename_i spaces
    simp [spaces]
  · rename_i more
    constructor
    · intro h
      cases h
    · rintro ⟨-, spaces⟩
      exact absurd spaces more

theorem finish_gap (a : α) (gap : Gap) : finish (a, gap.chars.map .char) = .ok a := by
  have spaces := skipSpace_gap gap []
  rw [List.append_nil] at spaces
  exact finish_eq_ok_iff.mpr ⟨rfl, spaces⟩

end PolicyDesk.Json
