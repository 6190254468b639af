import PolicyDesk.Json.Skip
import PolicyDesk.Proofs.Json.Grammar

/-!
# Spaces, strings and numbers are read back

The lemmas leave open what follows, which is given back unread. Where a reader may refuse what the grammar
allows, `Except.toOption` forgets why.

* `skipSpace_gap`: spaces are passed over.
* `string_spelling`: a string is read as what its letters stand for, and refused if they stand for nothing;
  `skipString_spelling`: it can be walked over all the same.
* `number_figure`, `skipNumber_figure`: the same for a number, which is refused if it is too large.
-/

namespace PolicyDesk.Json

variable {s : List Glyph}

/-! ## Results without complaints -/

section

variable {ε α β : Type}

@[simp]
theorem toOption_ok (a : α) : (.ok a : Except ε α).toOption = some a := rfl

@[simp]
theorem toOption_error (e : ε) : (.error e : Except ε α).toOption = none := rfl

@[simp]
theorem toOption_map (f : α → β) (x : Except ε α) : (x.map f).toOption = x.toOption.map f := by
  cases x <;> rfl

@[simp]
theorem toOption_bind (x : Except ε α) (f : α → Except ε β) :
    (x.bind f).toOption = x.toOption.bind fun a => (f a).toOption := by
  cases x <;> rfl

theorem toOption_eq_some_iff {x : Except ε α} {a : α} : x.toOption = some a ↔ x = .ok a := by
  cases x <;> simp

end

/-! ## Spaces -/

theorem isSpace_of_blank {c : Char} (h : c = ' ' ∨ c = '\n' ∨ c = '\t' ∨ c = '\r') :
    isSpace (.char c) = true := by
  obtain rfl | rfl | rfl | rfl := h <;> rfl

/-- **Spaces are passed over.** -/
theorem skipSpace_gap (gap : Gap) (s : List Glyph) :
    skipSpace (gap.chars.map .char ++ s) = skipSpace s := by
  obtain ⟨chars, blank⟩ := gap
  induction chars with
  | nil => rfl
  | cons c chars ih =>
    have space := isSpace_of_blank (blank c List.mem_cons_self)
    have rest := ih fun x hx => blank x (List.mem_cons_of_mem c hx)
    rw [List.map_cons, List.cons_append, skipSpace, List.dropWhile_cons_of_pos space]
    exact rest

theorem skipSpace_of_not {g : Glyph} (h : isSpace g = false) (s : List Glyph) :
    skipSpace (g :: s) = g :: s :=
  List.dropWhile_cons_of_neg (by simp [h])

/-- A token behind spaces. -/
theorem skipSpace_token (gap : Gap) {c : Char} (h : isSpace (.char c) = false) (s : List Glyph) :
    skipSpace (gap.chars.map .char ++ .char c :: s) = .char c :: s := by
  rw [skipSpace_gap]
  exact skipSpace_of_not h s

/-! ## Escapes -/

theorem hexValue?_char (d : HexDigit) : hexValue? d.char = some d.value.val := by
  obtain ⟨value, capital⟩ := d
  revert value capital
  decide

theorem totalSize_cons (g : Glyph) (s : List Glyph) :
    Glyph.totalSize (g :: s) = g.size + Glyph.totalSize s := by
  have shift : ∀ (s : List Glyph) (n : Nat),
      s.foldl (fun n g => n + g.size) n = n + Glyph.totalSize s := by
    intro s
    induction s with
    | nil => intro n; rfl
    | cons g s ih =>
      intro n
      rw [Glyph.totalSize, List.foldl_cons, List.foldl_cons, ih, ih (0 + g.size)]
      omega
  rw [Glyph.totalSize, List.foldl_cons, shift]
  omega

/-- The digits of an escape are read. -/
theorem hexEscape_code (n : Code) (s : List Glyph) :
    hexEscape (n.text.map .char ++ s) = .ok (n.value, s) := by
  have long : ∀ c : Char, 1 ≤ (Glyph.char c).size := fun c => c.utf8Size_pos
  have size : ¬ Glyph.totalSize (n.text.map .char ++ s) < 4 := by
    have h₁ := long n.first.char
    have h₂ := long n.second.char
    have h₃ := long n.third.char
    have h₄ := long n.fourth.char
    simp only [Code.text, List.map_cons, List.map_nil, List.cons_append, List.nil_append, totalSize_cons]
    omega
  have digits : fourHex? (.char n.first.char) (.char n.second.char) (.char n.third.char)
      (.char n.fourth.char) = some n.value := by
    simp [fourHex?, glyphHex?, hexValue?_char, Code.value]
  unfold hexEscape
  rw [if_neg size]
  simp only [Code.text, List.map_cons, List.map_nil, List.cons_append, List.nil_append]
  rw [digits]

theorem simpleEscape?_letter (e : Escape) : simpleEscape? e.letter = some e.char := by
  cases e <;> decide

theorem escape_letter (e : Escape) (s : List Glyph) :
    escape (.char e.letter :: s) = .ok (e.char, s) := by
  have other : e.letter ≠ 'u' := by cases e <;> decide
  simp [escape, other, simpleEscape?_letter]

theorem escape_code (n : Code) (s : List Glyph) :
    escape (.char 'u' :: (n.text.map .char ++ s)) = unicodeEscape (n.text.map .char ++ s) := by
  simp [escape]

/-- Four digits that are no half of a pair stand for a character. -/
theorem unicodeEscape_single {n : Code} (high : ¬ n.IsHigh) (low : ¬ n.IsLow) (s : List Glyph) :
    unicodeEscape (n.text.map .char ++ s) = .ok (Char.ofNat n.value, s) := by
  unfold Code.IsHigh at high
  unfold Code.IsLow at low
  rw [unicodeEscape, hexEscape_code]
  simp only [bind, Except.bind]
  rw [if_neg low, if_pos (by omega)]

theorem unicodeEscape_low {n : Code} (low : n.IsLow) (s : List Glyph) :
    (unicodeEscape (n.text.map .char ++ s)).toOption = none := by
  unfold Code.IsLow at low
  rw [unicodeEscape, hexEscape_code]
  simp only [bind, Except.bind]
  rw [if_pos low]
  rfl

/-- Behind the first half of a pair the second one has to come. -/
theorem unicodeEscape_high {n : Code} (high : n.IsHigh) (s : List Glyph) :
    unicodeEscape (n.text.map .char ++ s) = (lowEscape s).bind fun p =>
      if p.1 < 0xDC00 ∨ 0xDFFF < p.1 then .error (.before .lowSurrogate p.2)
      else .ok (Char.ofNat (0x10000 + (n.value - 0xD800) * 0x400 + (p.1 - 0xDC00)), p.2) := by
  unfold Code.IsHigh at high
  rw [unicodeEscape, hexEscape_code]
  simp only [bind, Except.bind]
  rw [if_neg (by omega), if_neg (by omega)]

theorem lowEscape_code (m : Code) (s : List Glyph) :
    lowEscape (.char '\\' :: .char 'u' :: (m.text.map .char ++ s)) = .ok (m.value, s) := by
  simp [lowEscape, hexEscape_code]

theorem unicodeEscape_pair {n m : Code} (high : n.IsHigh) (low : m.IsLow) (s : List Glyph) :
    unicodeEscape (n.text.map .char ++ (.char '\\' :: .char 'u' :: (m.text.map .char ++ s))) =
      .ok (n.pair m, s) := by
  unfold Code.IsLow at low
  rw [unicodeEscape_high high, lowEscape_code]
  simp only [Except.bind]
  rw [if_neg (by omega)]
  rfl

/-- The letters of a string that do not start with the second half of a pair. -/
theorem unicodeEscape_half {n : Code} (high : n.IsHigh) {ls : List Letter}
    (alone : ∀ m ls', ls = .coded m :: ls' → ¬ m.IsLow) (s : List Glyph) :
    (unicodeEscape (n.text.map .char ++ ((spelling ls).map .char ++ .char '"' :: s))).toOption = none := by
  rw [unicodeEscape_high high]
  cases ls with
  | nil => simp [spelling, lowEscape]
  | cons l ls =>
    cases l with
    | plain c h => simp [spelling, Letter.text, lowEscape, h.2.1]
    | escaped e =>
      have other : e.letter ≠ 'u' := by cases e <;> decide
      simp [spelling, Letter.text, lowEscape, other]
    | coded m =>
      have out : m.value < 0xDC00 ∨ 0xDFFF < m.value := by
        have := alone m ls rfl
        unfold Code.IsLow at this
        omega
      have read := lowEscape_code m ((spelling ls).map .char ++ .char '"' :: s)
      simp only [spelling, List.flatMap_cons, Letter.text, List.cons_append, List.map_cons, List.map_append,
        List.append_assoc] at read ⊢
      rw [read]
      simp [Except.bind, out]

/-! ## Strings -/

theorem stringBody_quote (s : List Glyph) : stringBody (.char '"' :: s) = .ok ([], s) := by
  rw [stringBody]
  simp

theorem stringBody_plain {c : Char} (h : IsPlain c) (s : List Glyph) :
    (stringBody (.char c :: s)).toOption =
      (stringBody s).toOption.map fun p => (.char c :: p.1, p.2) := by
  have notControl : isControl c = false := by
    simpa [isControl] using h.2.2
  rw [stringBody.eq_def]
  simp only [h.1, h.2.1, notControl, if_false, Bool.false_eq_true]
  cases stringBody s <;> rfl

theorem stringBody_escape (s : List Glyph) :
    (stringBody (.char '\\' :: s)).toOption =
      (escape s).toOption.bind fun p =>
        (stringBody p.2).toOption.map fun q => (.char p.1 :: q.1, q.2) := by
  rw [stringBody.eq_def]
  have other : '\\' ≠ '"' := by decide
  simp only [other, if_false, if_true]
  split
  · rename_i e r he
    rw [he]
    simp only [toOption_ok, Option.bind_some]
    cases stringBody r <;> rfl
  · rename_i f hf
    rw [hf]
    rfl

/-- The glyphs of a string are what its letters stand for. -/
theorem stringBody_spelling (ls : List Letter) (s : List Glyph) :
    (stringBody ((spelling ls).map .char ++ .char '"' :: s)).toOption =
      (meaning ls).map fun t => (t.map .char, s) := by
  fun_induction meaning ls with
  | case1 => simp [spelling, stringBody_quote]
  | case2 c h ls ih =>
    have step := stringBody_plain h ((spelling ls).map .char ++ .char '"' :: s)
    rw [ih] at step
    simpa [spelling, Letter.text, Function.comp_def] using step
  | case3 e ls ih =>
    have step := stringBody_escape (.char e.letter :: ((spelling ls).map .char ++ .char '"' :: s))
    rw [escape_letter, toOption_ok, Option.bind_some, ih] at step
    simpa [spelling, Letter.text, Function.comp_def] using step
  | case4 n high m ls low ih =>
    have step := stringBody_escape (.char 'u' :: (n.text.map .char ++
      (.char '\\' :: .char 'u' :: (m.text.map .char ++ ((spelling ls).map .char ++ .char '"' :: s)))))
    rw [escape_code, unicodeEscape_pair high low, toOption_ok, Option.bind_some, ih] at step
    simpa [spelling, Letter.text, Function.comp_def] using step
  | case5 n high m ls low =>
    have step := stringBody_escape (.char 'u' :: (n.text.map .char ++
      ((spelling (.coded m :: ls)).map .char ++ .char '"' :: s)))
    rw [escape_code, unicodeEscape_half high, Option.bind_none] at step
    · simpa [spelling, Letter.text] using step
    · intro m' ls' same
      cases same
      exact low
  | case6 n ls high alone =>
    have step := stringBody_escape (.char 'u' :: (n.text.map .char ++
      ((spelling ls).map .char ++ .char '"' :: s)))
    rw [escape_code, unicodeEscape_half high, Option.bind_none] at step
    · simpa [spelling, Letter.text] using step
    · intro m ls' same
      exact absurd same (alone m ls')
  | case7 n ls high low =>
    have step := stringBody_escape (.char 'u' :: (n.text.map .char ++
      ((spelling ls).map .char ++ .char '"' :: s)))
    rw [escape_code, unicodeEscape_low low, Option.bind_none] at step
    simpa [spelling, Letter.text] using step
  | case8 n ls high low ih =>
    have step := stringBody_escape (.char 'u' :: (n.text.map .char ++
      ((spelling ls).map .char ++ .char '"' :: s)))
    rw [escape_code, unicodeEscape_single high low, toOption_ok, Option.bind_some, ih] at step
    simpa [spelling, Letter.text, Function.comp_def] using step

/-- **A string is read as what its letters stand for.** It is refused if they stand for nothing. -/
theorem string_spelling (ls : List Letter) (s : List Glyph) :
    (string ((spelling ls).map .char ++ .char '"' :: s)).toOption =
      (meaning ls).map fun t => (String.ofList t, s) := by
  have text : ∀ t : List Char, Glyph.text? (t.map .char) = some (String.ofList t) := by
    intro t
    have h := Glyph.text?_ofString (String.ofList t)
    rwa [Glyph.ofString, String.toList_ofList] at h
  have body := stringBody_spelling ls s
  change ((stringBody _).bind _).toOption = _
  rw [toOption_bind, body]
  cases meaning ls with
  | none => rfl
  | some t => simp [text]

theorem skipEscape_letter (e : Escape) (s : List Glyph) :
    skipEscape (.char e.letter :: s) = .ok s := by
  have other : e.letter ≠ 'u' := by cases e <;> decide
  simp [skipEscape, other, simpleEscape?_letter]

theorem skipEscape_code (n : Code) (s : List Glyph) :
    skipEscape (.char 'u' :: (n.text.map .char ++ s)) = .ok s := by
  simp [skipEscape, hexEscape_code, Except.map]

theorem skipString_escape {s r : List Glyph} (h : skipEscape s = .ok r) :
    skipString (.char '\\' :: s) = skipString r := by
  have other : '\\' ≠ '"' := by decide
  rw [skipString.eq_def]
  simp only [other, if_false, if_true]
  split
  · rename_i r' hr
    rw [h] at hr
    cases hr
    rfl
  · rename_i f hf
    rw [h] at hf
    cases hf

theorem skipString_plain {c : Char} (h : IsPlain c) (s : List Glyph) :
    skipString (.char c :: s) = skipString s := by
  have notControl : isControl c = false := by
    simpa [isControl] using h.2.2
  rw [skipString.eq_def]
  simp [h.1, h.2.1, notControl]

/-- **A string can be walked over** whatever its letters stand for. -/
theorem skipString_spelling (ls : List Letter) (s : List Glyph) :
    skipString ((spelling ls).map .char ++ .char '"' :: s) = .ok s := by
  induction ls with
  | nil =>
    rw [spelling, List.flatMap_nil, List.map_nil, List.nil_append, skipString]
    simp
  | cons l ls ih =>
    cases l with
    | plain c h =>
      have step := skipString_plain h ((spelling ls).map .char ++ .char '"' :: s)
      rw [ih] at step
      simpa [spelling, Letter.text] using step
    | escaped e =>
      have step := skipString_escape (skipEscape_letter e ((spelling ls).map .char ++ .char '"' :: s))
      rw [ih] at step
      simpa [spelling, Letter.text] using step
    | coded n =>
      have step := skipString_escape (skipEscape_code n ((spelling ls).map .char ++ .char '"' :: s))
      rw [ih] at step
      simpa [spelling, Letter.text] using step

/-! ## Numbers -/

theorem numeral_figure (n : Figure) (atEnd : Cause) (hs : EndsNumber s) :
    numeral atEnd (n.text.map .char ++ s) = .ok (n.numeral, s) :=
  numeral_spelled n.proper n.capital n.plus hs

/-- **A number is read as what its digits denote**, unless it is too large. -/
theorem number_figure (n : Figure) (hs : EndsNumber s) :
    (number (n.text.map .char ++ s)).toOption = n.numeral.number.toOption.map fun v => (v, s) := by
  unfold number
  rw [numeral_figure n .endInValue hs]
  simp only [bind, Except.bind]
  cases n.numeral.number <;> rfl

/-- **A number can be walked over** however large it is. -/
theorem skipNumber_figure (n : Figure) (hs : EndsNumber s) :
    skipNumber (n.text.map .char ++ s) = .ok s := by
  rw [skipNumber, numeral_figure n .badNumber hs]
  rfl

/-! ## Words -/

theorem word_append (cs : List Char) (s : List Glyph) : word cs (cs.map .char ++ s) = .ok s := by
  induction cs with
  | nil => rfl
  | cons c cs ih =>
    rw [List.map_cons, List.cons_append, word, if_pos rfl]
    exact ih

end PolicyDesk.Json
