import PolicyDesk.Json.Scalar

/-!
# Writing a number and reading it

* `Numeral.text`: a number in writing; `Numeral.WellFormed`: the conditions under which that is a number.
* `EndsNumber`: what may follow a number without being taken for a part of it.
* `Numeral.spelled`: a number in writing with its exponent spelled in any way.
* `digits_append`, `wholePart_append`, `pointPart_append`, `exponentPart_spelled`: each part is read back and
  the rest is left.
* `numeral_spelled`: so the whole number is, whatever follows it.
-/

namespace PolicyDesk.Json

open Text (isDigit)

namespace Numeral

/-- The digits behind a point, with the point. -/
def pointText : List Char → List Char
  | [] => []
  | ds => '.' :: ds

/-- An exponent with its mark and its sign. -/
def exponentText : Option (Bool × List Char) → List Char
  | none => []
  | some (true, ds) => 'e' :: '-' :: ds
  | some (false, ds) => 'e' :: '+' :: ds

/-- An exponent with its mark, small or capital, and its sign; a plus sign may be left out. -/
def exponentSpelled (capital plus : Bool) : Option (Bool × List Char) → List Char
  | none => []
  | some (down, ds) =>
    (if capital then 'E' else 'e') :: ((if down then ['-'] else if plus then ['+'] else []) ++ ds)

theorem exponentSpelled_plain (e : Option (Bool × List Char)) :
    exponentSpelled false true e = exponentText e := by
  rcases e with _ | ⟨_ | _, ds⟩ <;> rfl

theorem pointText_of_ne_nil {ds : List Char} (h : ds ≠ []) : pointText ds = '.' :: ds := by
  cases ds with
  | nil => exact absurd rfl h
  | cons c ds => rfl

/-- The number in writing. -/
def text (n : Numeral) : List Char :=
  (if n.negative then ['-'] else []) ++ (n.whole ++ (pointText n.places ++ exponentText n.exponent))

/-- The number in writing, with its exponent spelled in any way. -/
def spelled (capital plus : Bool) (n : Numeral) : List Char :=
  (if n.negative then ['-'] else []) ++
    (n.whole ++ (pointText n.places ++ exponentSpelled capital plus n.exponent))

theorem spelled_plain (n : Numeral) : n.spelled false true = n.text := by
  rw [spelled, text, exponentSpelled_plain]

/-- The conditions under which a number in writing is one: digits everywhere, at least one before the point
    and behind the mark, and no superfluous zero at the start. -/
structure WellFormed (n : Numeral) : Prop where
  whole : ∀ c ∈ n.whole, isDigit c = true
  some_whole : n.whole ≠ []
  lead : n.whole.head? = some '0' → n.whole = ['0']
  places : ∀ c ∈ n.places, isDigit c = true
  exponent : ∀ e ∈ n.exponent, e.2 ≠ [] ∧ ∀ c ∈ e.2, isDigit c = true

end Numeral

/-- Glyphs that do not start with a digit. -/
def EndsDigits (s : List Glyph) : Prop := ∀ c rest, s = .char c :: rest → isDigit c = false

/-- Glyphs that do not start with anything that a number can go on with. -/
structure EndsNumber (s : List Glyph) : Prop where
  digit : EndsDigits s
  point : ∀ rest, s ≠ .char '.' :: rest
  mark : ∀ rest, s ≠ .char 'e' :: rest ∧ s ≠ .char 'E' :: rest

theorem endsNumber_nil : EndsNumber [] where
  digit _ _ h := by cases h
  point _ h := by cases h
  mark _ := ⟨fun h => (by cases h), fun h => (by cases h)⟩

theorem endsDigits_cons {c : Char} (h : isDigit c = false) (s : List Glyph) :
    EndsDigits (.char c :: s) := by
  intro c' rest h'
  cases h'
  exact h

variable {atEnd : Cause} {ds : List Char} {s : List Glyph}

/-! ## The parts -/

theorem digits_append (hd : ∀ c ∈ ds, isDigit c = true) (hs : EndsDigits s) :
    digits (ds.map .char ++ s) = (ds, s) := by
  induction ds with
  | nil =>
    cases s with
    | nil => rfl
    | cons g rest =>
      cases g with
      | broken n => rfl
      | char c => simp [digits, hs c rest rfl]
  | cons c ds ih =>
    have hc := hd c List.mem_cons_self
    have hrest := ih fun x hx => hd x (List.mem_cons_of_mem c hx)
    simp [digits, hc, hrest]

theorem someDigits_append (hd : ∀ c ∈ ds, isDigit c = true) (some : ds ≠ []) (hs : EndsDigits s) :
    someDigits atEnd (ds.map .char ++ s) = .ok (ds, s) := by
  unfold someDigits
  rw [digits_append hd hs]
  cases ds with
  | nil => exact absurd rfl some
  | cons c ds => rfl

theorem wholePart_append (hd : ∀ c ∈ ds, isDigit c = true) (some : ds ≠ [])
    (lead : ds.head? = .some '0' → ds = ['0']) (hs : EndsDigits s) :
    wholePart atEnd (ds.map .char ++ s) = .ok (ds, s) := by
  unfold wholePart
  rw [digits_append hd hs]
  cases ds with
  | nil => exact absurd rfl some
  | cons c ds =>
    by_cases hc : c = '0'
    · subst hc
      cases lead rfl
      rfl
    · split
      · rename_i h
        cases h
      · rename_i h
        cases h
        exact absurd rfl hc
      · rename_i h
        cases h
        exact absurd rfl hc
      · rename_i h
        cases h
        rfl

theorem pointPart_append (hd : ∀ c ∈ ds, isDigit c = true) (hs : EndsDigits s)
    (point : ∀ rest, s ≠ .char '.' :: rest) :
    pointPart atEnd ((Numeral.pointText ds).map .char ++ s) = .ok (ds, s) := by
  cases ds with
  | nil =>
    simp only [Numeral.pointText, List.map_nil, List.nil_append]
    unfold pointPart
    split
    · rename_i rest
      exact absurd rfl (point rest)
    · rfl
  | cons c ds => exact someDigits_append hd (List.cons_ne_nil c ds) hs

/-- A sign, or none, in front of a digit. -/
theorem exponentSign_spelled (down plus : Bool) (hd : ∀ c ∈ ds, isDigit c = true) (some : ds ≠ []) :
    exponentSign (((if down then ['-'] else if plus then ['+'] else []) ++ ds).map .char ++ s) =
      (down, ds.map .char ++ s) := by
  cases down with
  | true => rfl
  | false =>
    cases plus with
    | true => rfl
    | false =>
      cases ds with
      | nil => exact absurd rfl some
      | cons c ds =>
        -- a digit is no sign
        have digit := hd c List.mem_cons_self
        simp only [Bool.false_eq_true, if_false, List.nil_append, List.map_cons, List.cons_append]
        unfold exponentSign
        split
        · rename_i heq
          cases heq
          cases digit
        · rename_i heq
          cases heq
          cases digit
        · rfl

theorem exponentPart_spelled {capital plus : Bool} {e : Option (Bool × List Char)}
    (he : ∀ p ∈ e, p.2 ≠ [] ∧ ∀ c ∈ p.2, isDigit c = true) (hs : EndsNumber s) :
    exponentPart atEnd ((Numeral.exponentSpelled capital plus e).map .char ++ s) = .ok (e, s) := by
  cases e with
  | none =>
    simp only [Numeral.exponentSpelled, List.map_nil, List.nil_append]
    unfold exponentPart
    split
    · rename_i rest
      exact absurd rfl (hs.mark rest).1
    · rename_i rest
      exact absurd rfl (hs.mark rest).2
    · rfl
  | some p =>
    obtain ⟨down, ds⟩ := p
    obtain ⟨some, hd⟩ := he (down, ds) rfl
    have hsign := exponentSign_spelled down plus (s := s) hd some
    have hread : someDigits atEnd (ds.map .char ++ s) = .ok (ds, s) := someDigits_append hd some hs.digit
    rw [Numeral.exponentSpelled, List.map_cons, List.cons_append]
    generalize ((if down then ['-'] else if plus then ['+'] else []) ++ ds).map Glyph.char ++ s = t at *
    cases capital <;> simp [exponentPart, hsign, hread, bind, Except.bind]

/-! ## The number -/

theorem signPart_spelled {n : Numeral} (h : n.WellFormed) (capital plus : Bool) (s : List Glyph) :
    signPart ((n.spelled capital plus).map .char ++ s) =
      (n.negative, (n.whole ++ (Numeral.pointText n.places ++
        Numeral.exponentSpelled capital plus n.exponent)).map .char ++ s) := by
  obtain ⟨negative, whole, places, exponent⟩ := n
  cases negative with
  | true => rfl
  | false =>
    cases whole with
    | nil => exact absurd rfl h.some_whole
    | cons c whole =>
      -- a digit is no minus sign
      have hc : c ≠ '-' := by
        rintro rfl
        cases h.whole '-' List.mem_cons_self
      simp only [Numeral.spelled, Bool.false_eq_true, if_false, List.nil_append, List.cons_append,
        List.map_cons]
      unfold signPart
      split
      · rename_i heq
        cases heq
        exact absurd rfl hc
      · rfl

theorem exponentSpelled_endsDigits (capital plus : Bool) (e : Option (Bool × List Char))
    (hs : EndsDigits s) : EndsDigits ((Numeral.exponentSpelled capital plus e).map .char ++ s) := by
  cases e with
  | none => exact hs
  | some p => cases capital <;> exact endsDigits_cons rfl _

theorem exponentSpelled_noPoint (capital plus : Bool) (e : Option (Bool × List Char))
    (hs : ∀ rest, s ≠ .char '.' :: rest) :
    ∀ rest, (Numeral.exponentSpelled capital plus e).map .char ++ s ≠ .char '.' :: rest := by
  cases e with
  | none => exact hs
  | some p =>
    intro rest h
    cases capital <;> cases h

theorem pointText_endsDigits (places : List Char) (hs : EndsDigits s) :
    EndsDigits ((Numeral.pointText places).map .char ++ s) := by
  cases places with
  | nil => exact hs
  | cons c ds => exact endsDigits_cons rfl _

/-- **A number is read back however it is spelled**, and what follows it is left. -/
theorem numeral_spelled {n : Numeral} (h : n.WellFormed) (capital plus : Bool) (hs : EndsNumber s) :
    numeral atEnd ((n.spelled capital plus).map .char ++ s) = .ok (n, s) := by
  have hexp := exponentSpelled_endsDigits capital plus n.exponent hs.digit
  have hnoPoint := exponentSpelled_noPoint capital plus n.exponent hs.point
  have hpoint := pointText_endsDigits n.places hexp
  unfold numeral
  rw [signPart_spelled h]
  simp only [List.map_append, List.append_assoc]
  rw [wholePart_append h.whole h.some_whole h.lead hpoint]
  simp only [bind, Except.bind]
  rw [pointPart_append h.places hexp hnoPoint]
  simp only
  rw [exponentPart_spelled h.exponent hs]

theorem numeral_text {n : Numeral} (h : n.WellFormed) (hs : EndsNumber s) :
    numeral atEnd (n.text.map .char ++ s) = .ok (n, s) := by
  rw [← n.spelled_plain]
  exact numeral_spelled h false true hs

end PolicyDesk.Json
