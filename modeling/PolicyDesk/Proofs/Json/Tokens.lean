import Mathlib.Tactic.SplitIfs
import PolicyDesk.Proofs.Json.Content
import PolicyDesk.Proofs.Results

/-!
# Tokens that are read are spelled as the grammar says

The way back from the readers to the grammar: where a reader of spaces, a string, a number or a word succeeds, what
it has read is a spelling of one. Runs of bytes that are no characters have to be kept out, since a string may be
walked over with them in it.

* `Unbroken`: text that consists of characters only.
* `exists_gap`: what is passed over as spaces is spaces.
* `exists_letters`, `exists_spelling`: a string that is walked over, or read, has letters.
* `exists_figure`: a number that is read has digits where they should be.
* `exists_scalar`: so a value without brackets is one.
-/

namespace PolicyDesk.Json

open Text (isDigit)

variable {s r : List Glyph}

/-- All glyphs are characters. -/
def Unbroken (s : List Glyph) : Prop := ∀ n, .broken n ∉ s

theorem Unbroken.right {front : List Glyph} (h : Unbroken (front ++ s)) : Unbroken s :=
  fun n mem => h n (List.mem_append_right front mem)

theorem Unbroken.tail {g : Glyph} (h : Unbroken (g :: s)) : Unbroken s := fun n mem => h n (List.mem_cons_of_mem g mem)

theorem unbroken_ofString (text : String) : Unbroken (Glyph.ofString text) := by
  intro n mem
  obtain ⟨c, -, same⟩ := List.mem_map.mp mem
  cases same

/-! ## Spaces -/

theorem blank_of_isSpace {g : Glyph} (h : isSpace g = true) :
    ∃ c, g = .char c ∧ (c = ' ' ∨ c = '\n' ∨ c = '\t' ∨ c = '\r') := by
  simp only [isSpace, Bool.or_eq_true, beq_iff_eq] at h
  obtain ((rfl | rfl) | rfl) | rfl := h
  · exact ⟨' ', rfl, .inl rfl⟩
  · exact ⟨'\n', rfl, .inr (.inl rfl)⟩
  · exact ⟨'\t', rfl, .inr (.inr (.inl rfl))⟩
  · exact ⟨'\r', rfl, .inr (.inr (.inr rfl))⟩

/-- **What is passed over as spaces** is spaces. -/
theorem exists_gap (s : List Glyph) : ∃ gap : Gap, s = gap.chars.map .char ++ skipSpace s := by
  induction s with
  | nil => exact ⟨.none, rfl⟩
  | cons g s ih =>
    cases space : isSpace g with
    | false => exact ⟨.none, (skipSpace_of_not space s).symm⟩
    | true =>
      obtain ⟨gap, split⟩ := ih
      obtain ⟨c, rfl, blank⟩ := blank_of_isSpace space
      refine ⟨⟨c :: gap.chars, List.forall_mem_cons.mpr ⟨blank, gap.blank⟩⟩, ?_⟩
      rw [skipSpace, List.dropWhile_cons_of_pos space]
      exact congrArg (Glyph.char c :: ·) split

/-- What stands in front of the next token is spaces. -/
theorem exists_gap_of_skipSpace {t : List Glyph} (h : skipSpace s = t) : ∃ gap : Gap, s = gap.chars.map .char ++ t :=
  h ▸ exists_gap s

theorem Unbroken.behind {t : List Glyph} {g : Glyph} (h : Unbroken s) (next : skipSpace s = g :: t) : Unbroken t := by
  obtain ⟨gap, split⟩ := exists_gap_of_skipSpace next
  rw [split] at h
  exact h.right.tail

/-! ## Escapes -/

theorem exists_hexDigit {c : Char} {n : Nat} (h : hexValue? c = some n) : ∃ d : HexDigit, d.char = c := by
  have back : ∀ k, k ≤ c.toNat → Char.ofNat (k + (c.toNat - k)) = c := by
    intro k le
    rw [Nat.add_sub_cancel' le, Char.ofNat_toNat]
  unfold hexValue? at h
  split_ifs at h with digit small capital
  · have low : 48 ≤ c.toNat := digit.1
    have high : c.toNat ≤ 57 := digit.2
    refine ⟨⟨⟨c.toNat - 48, by omega⟩, false⟩, ?_⟩
    rw [HexDigit.char, if_pos (by simp only; omega)]
    exact back 48 low
  · have low : 97 ≤ c.toNat := small.1
    have high : c.toNat ≤ 102 := small.2
    refine ⟨⟨⟨c.toNat - 87, by omega⟩, false⟩, ?_⟩
    rw [HexDigit.char, if_neg (by simp only; omega), if_neg Bool.false_ne_true]
    exact back 87 (by omega)
  · have low : 65 ≤ c.toNat := capital.1
    have high : c.toNat ≤ 70 := capital.2
    refine ⟨⟨⟨c.toNat - 55, by omega⟩, true⟩, ?_⟩
    rw [HexDigit.char, if_neg (by simp only; omega), if_pos rfl]
    exact back 55 (by omega)

theorem exists_glyphHex {g : Glyph} {n : Nat} (h : glyphHex? g = some n) : ∃ d : HexDigit, g = .char d.char := by
  cases g with
  | broken k => cases h
  | char c =>
    obtain ⟨d, rfl⟩ := exists_hexDigit h
    exact ⟨d, rfl⟩

theorem exists_code {n : Nat} (h : hexEscape s = .ok (n, r)) : ∃ code : Code, s = code.text.map .char ++ r := by
  unfold hexEscape at h
  split at h
  · cases h
  · split at h
    · rename_i a b c d rest
      split at h
      · rename_i value four
        cases h
        simp only [fourHex?, bind, Option.bind_eq_some_iff] at four
        obtain ⟨_, ha, _, hb, _, hc, _, hd, -⟩ := four
        obtain ⟨first, rfl⟩ := exists_glyphHex ha
        obtain ⟨second, rfl⟩ := exists_glyphHex hb
        obtain ⟨third, rfl⟩ := exists_glyphHex hc
        obtain ⟨fourth, rfl⟩ := exists_glyphHex hd
        exact ⟨⟨first, second, third, fourth⟩, rfl⟩
      · cases h
    · cases h

theorem exists_escape {c e : Char} (h : simpleEscape? c = some e) : ∃ esc : Escape, esc.letter = c := by
  unfold simpleEscape? at h
  split_ifs at h with h₁ h₂ h₃ h₄ h₅ h₆ h₇ h₈
  · exact ⟨.quote, h₁.symm⟩
  · exact ⟨.backslash, h₂.symm⟩
  · exact ⟨.slash, h₃.symm⟩
  · exact ⟨.backspace, h₄.symm⟩
  · exact ⟨.formFeed, h₅.symm⟩
  · exact ⟨.lineFeed, h₆.symm⟩
  · exact ⟨.carriageReturn, h₇.symm⟩
  · exact ⟨.tab, h₈.symm⟩

/-- An escape that is walked over is a letter, with its backslash. -/
theorem exists_letter (h : skipEscape s = .ok r) : ∃ l : Letter, .char '\\' :: s = l.text.map .char ++ r := by
  unfold skipEscape at h
  split at h
  · cases h
  · cases h
  · rename_i c rest
    split_ifs at h with unicode
    · obtain ⟨⟨n, t⟩, read, rfl⟩ := map_eq_ok h
      obtain ⟨code, rfl⟩ := exists_code read
      exact ⟨.coded code, by rw [unicode]; rfl⟩
    · split at h
      · rename_i e simple
        cases h
        obtain ⟨esc, rfl⟩ := exists_escape simple
        exact ⟨.escaped esc, rfl⟩
      · cases h

/-! ## Strings -/

/-- **A string that is walked over has letters.** The induction is on the walk. -/
theorem exists_letters (whole : Unbroken s) (h : skipString s = .ok r) :
    ∃ ls : List Letter, s = (spelling ls).map .char ++ .char '"' :: r := by
  have more : ∀ {l : Letter} {ls : List Letter}, (spelling (l :: ls)).map Glyph.char ++ .char '"' :: r =
      l.text.map .char ++ ((spelling ls).map .char ++ .char '"' :: r) := by
    intro l ls
    rw [spelling, List.flatMap_cons, List.map_append, List.append_assoc]
    rfl
  fun_induction skipString s with
  | case1 => cases h
  | case2 n rest ih => exact absurd List.mem_cons_self (whole n)
  | case3 rest =>
    cases h
    exact ⟨[], rfl⟩
  | case4 rest t skipped shorter quote ih =>
    obtain ⟨l, split⟩ := exists_letter skipped
    rw [split] at whole
    obtain ⟨ls, rfl⟩ := ih whole.right h
    exact ⟨l :: ls, by rw [split, more]⟩
  | case5 rest quote f skipped => cases h
  | case6 c rest quote backslash control => cases h
  | case7 c rest quote backslash control ih =>
    obtain ⟨ls, rfl⟩ := ih whole.tail h
    have plain : IsPlain c := ⟨quote, backslash, by simpa [isControl] using control⟩
    exact ⟨.plain c plain :: ls, by rw [more]; rfl⟩

/-! Reading is stricter than walking: two halves of a pair are one step of it, and half of one is none. -/

theorem skipEscape_of_hexEscape {n : Nat} (h : hexEscape s = .ok (n, r)) : skipEscape (.char 'u' :: s) = .ok r := by
  simp [skipEscape, h, Except.map]

theorem skipString_of_lowEscape {n : Nat} (h : lowEscape s = .ok (n, r)) : skipString s = skipString r := by
  unfold lowEscape at h
  split at h
  · cases h
  · split_ifs at h with backslash
    subst backslash
    split at h
    · cases h
    · split_ifs at h with unicode
      subst unicode
      exact skipString_escape (skipEscape_of_hexEscape h)

theorem skipString_of_unicodeEscape {c : Char} (h : unicodeEscape s = .ok (c, r)) :
    skipString (.char '\\' :: .char 'u' :: s) = skipString r := by
  unfold unicodeEscape at h
  obtain ⟨⟨n, q⟩, read, h⟩ := bind_eq_ok h
  rw [skipString_escape (skipEscape_of_hexEscape read)]
  simp only at h
  split_ifs at h
  · obtain ⟨-, rfl⟩ := Prod.mk.inj (Except.ok.inj h)
    rfl
  · obtain ⟨⟨m, t⟩, low, h⟩ := bind_eq_ok h
    simp only at h
    split_ifs at h
    obtain ⟨-, rfl⟩ := Prod.mk.inj (Except.ok.inj h)
    exact skipString_of_lowEscape low

theorem skipString_of_escape {c : Char} (h : escape s = .ok (c, r)) : skipString (.char '\\' :: s) = skipString r := by
  unfold escape at h
  split at h
  · cases h
  · cases h
  · rename_i d rest
    split_ifs at h with unicode
    · subst unicode
      exact skipString_of_unicodeEscape h
    · split at h
      · rename_i e simple
        cases h
        refine skipString_escape ?_
        simp [skipEscape, unicode, simple]
      · cases h

/-- A string that is read can be walked over. The induction is on the reading. -/
theorem skipString_of_stringBody {gs : List Glyph} (h : stringBody s = .ok (gs, r)) : skipString s = .ok r := by
  fun_induction stringBody s generalizing gs r with
  | case1 => cases h
  | case2 n rest gs' t body ih =>
    cases h
    rw [skipString]
    exact ih body
  | case3 => cases h
  | case4 rest =>
    cases h
    rw [skipString]
    simp
  | case5 rest e t read shorter gs' q body quote ih =>
    cases h
    rw [skipString_of_escape read]
    exact ih body
  | case6 => cases h
  | case7 => cases h
  | case8 => cases h
  | case9 c rest quote backslash control gs' t body ih =>
    cases h
    rw [skipString_plain ⟨quote, backslash, by simpa [isControl] using control⟩]
    exact ih body
  | case10 => cases h

/-- **A string that is read** has letters, and is what they stand for. -/
theorem exists_spelling (whole : Unbroken s) {text : String} (h : string s = .ok (text, r)) :
    ∃ ls : List Letter, s = (spelling ls).map .char ++ .char '"' :: r ∧ spelled? ls = some text := by
  have walked : skipString s = .ok r := by
    obtain ⟨⟨gs, t⟩, body, h⟩ := bind_eq_ok h
    simp only at h
    split at h
    · cases h
      exact skipString_of_stringBody body
    · cases h
  obtain ⟨ls, rfl⟩ := exists_letters whole walked
  have read := string_spelling ls r
  rw [h, toOption_ok, eq_comm, Option.map_eq_some_iff] at read
  obtain ⟨t, meant, same⟩ := read
  obtain ⟨rfl, -⟩ := Prod.mk.inj same
  exact ⟨ls, rfl, congrArg (Option.map String.ofList) meant⟩

/-! ## Words and numbers -/

theorem eq_of_word {cs : List Char} (h : word cs s = .ok r) : s = cs.map .char ++ r := by
  induction cs generalizing s with
  | nil =>
    cases h
    rfl
  | cons c cs ih =>
    cases s with
    | nil => cases h
    | cons g rest =>
      rw [word] at h
      split_ifs at h with same
      rw [same, ih h]
      rfl

theorem eq_of_digits (s : List Glyph) :
    s = (digits s).1.map .char ++ (digits s).2 ∧ ∀ c ∈ (digits s).1, isDigit c = true := by
  induction s with
  | nil => exact ⟨rfl, fun _ mem => (List.not_mem_nil mem).elim⟩
  | cons g rest ih =>
    cases g with
    | broken n => exact ⟨rfl, fun _ mem => (List.not_mem_nil mem).elim⟩
    | char c =>
      unfold digits
      split
      · rename_i digit
        exact ⟨congrArg (Glyph.char c :: ·) ih.1, List.forall_mem_cons.mpr ⟨digit, ih.2⟩⟩
      · exact ⟨rfl, fun _ mem => (List.not_mem_nil mem).elim⟩

section

variable {atEnd : Cause} {ds : List Char}

theorem eq_of_signPart (s : List Glyph) :
    s = (if (signPart s).1 then ['-'] else []).map .char ++ (signPart s).2 := by
  unfold signPart
  split <;> rfl

theorem eq_of_wholePart (h : wholePart atEnd s = .ok (ds, r)) :
    s = ds.map .char ++ r ∧ ds ≠ [] ∧ (∀ c ∈ ds, isDigit c = true) ∧ (ds.head? = some '0' → ds = ['0']) := by
  obtain ⟨front, all⟩ := eq_of_digits s
  unfold wholePart at h
  generalize digits s = parts at h front all
  obtain ⟨ds', r'⟩ := parts
  split at h
  · cases h
  · rename_i heq
    cases heq
    cases h
    exact ⟨front, by decide, all, fun _ => rfl⟩
  · cases h
  · rename_i nonempty _ noZero heq
    cases heq
    cases h
    refine ⟨front, fun none => nonempty (by rw [none]), all, fun lead => ?_⟩
    cases ds with
    | nil => cases lead
    | cons c ds =>
      cases lead
      exact (noZero ds rfl).elim

theorem eq_of_someDigits (h : someDigits atEnd s = .ok (ds, r)) :
    s = ds.map .char ++ r ∧ ds ≠ [] ∧ ∀ c ∈ ds, isDigit c = true := by
  obtain ⟨front, all⟩ := eq_of_digits s
  unfold someDigits at h
  generalize digits s = parts at h front all
  obtain ⟨ds', r'⟩ := parts
  split at h
  · cases h
  · rename_i nonempty heq
    cases heq
    cases h
    exact ⟨front, fun none => nonempty (by rw [none]), all⟩

theorem eq_of_pointPart (h : pointPart atEnd s = .ok (ds, r)) :
    s = (Numeral.pointText ds).map .char ++ r ∧ ∀ c ∈ ds, isDigit c = true := by
  unfold pointPart at h
  split at h
  · obtain ⟨rfl, some, all⟩ := eq_of_someDigits h
    rw [Numeral.pointText_of_ne_nil some]
    exact ⟨rfl, all⟩
  · cases h
    exact ⟨rfl, fun _ mem => (List.not_mem_nil mem).elim⟩

theorem eq_of_exponentSign (s : List Glyph) :
    ∃ plus : Bool, s = (if (exponentSign s).1 then ['-'] else if plus then ['+'] else []).map .char ++
      (exponentSign s).2 := by
  unfold exponentSign
  split
  · exact ⟨false, rfl⟩
  · exact ⟨true, rfl⟩
  · exact ⟨false, rfl⟩

theorem eq_of_exponentPart {e : Option (Bool × List Char)} (h : exponentPart atEnd s = .ok (e, r)) :
    ∃ capital plus, s = (Numeral.exponentSpelled capital plus e).map .char ++ r ∧
      ∀ p ∈ e, p.2 ≠ [] ∧ ∀ c ∈ p.2, isDigit c = true := by
  have marked : ∀ (capital : Bool) (rest : List Glyph),
      ((someDigits atEnd (exponentSign rest).2).bind fun p =>
        (.ok (some ((exponentSign rest).1, p.1), p.2) : Except Fault _)) = .ok (e, r) →
      ∃ plus, .char (if capital then 'E' else 'e') :: rest =
          (Numeral.exponentSpelled capital plus e).map .char ++ r ∧
        ∀ p ∈ e, p.2 ≠ [] ∧ ∀ c ∈ p.2, isDigit c = true := by
    intro capital rest h
    obtain ⟨plus, sign⟩ := eq_of_exponentSign rest
    obtain ⟨⟨ds, t⟩, read, h⟩ := bind_eq_ok h
    cases h
    obtain ⟨digits, some, all⟩ := eq_of_someDigits read
    refine ⟨plus, ?_, ?_⟩
    · rw [Numeral.exponentSpelled, List.map_cons, List.map_append, List.cons_append, List.append_assoc, ← digits,
        ← sign]
    · rintro _ ⟨⟩
      exact ⟨some, all⟩
  unfold exponentPart at h
  split at h
  · exact ⟨false, marked false _ h⟩
  · exact ⟨true, marked true _ h⟩
  · cases h
    exact ⟨false, false, rfl, fun _ mem => by cases mem⟩

/-- **A number that is read** has digits where they should be. -/
theorem exists_figure {n : Numeral} (h : numeral atEnd s = .ok (n, r)) :
    ∃ figure : Figure, s = figure.text.map .char ++ r ∧ figure.numeral = n := by
  have sign := eq_of_signPart s
  unfold numeral at h
  obtain ⟨⟨ds, t⟩, whole, h⟩ := bind_eq_ok h
  obtain ⟨⟨places, u⟩, point, h⟩ := bind_eq_ok h
  obtain ⟨⟨e, v⟩, mark, h⟩ := bind_eq_ok h
  cases h
  obtain ⟨front, some, all, lead⟩ := eq_of_wholePart whole
  obtain ⟨pointed, digits⟩ := eq_of_pointPart point
  obtain ⟨capital, plus, exponent, proper⟩ := eq_of_exponentPart mark
  refine ⟨⟨⟨(signPart s).1, ds, places, e⟩, ⟨all, some, lead, digits, proper⟩, capital, plus⟩, ?_, rfl⟩
  rw [Figure.text, Numeral.spelled, List.map_append, List.map_append, List.map_append, List.append_assoc,
    List.append_assoc, List.append_assoc, ← exponent, ← pointed, ← front]
  exact sign

end

/-! ## Values without brackets -/

/-- **A value without brackets that is walked over** is one. -/
theorem exists_scalar (whole : Unbroken s) (h : skipScalar .outline s = .ok r) :
    ∃ v : Value, s = v.text.map .char ++ r := by
  unfold skipScalar at h
  split at h
  · cases h
  · cases h
  · rename_i c rest
    split_ifs at h with quote number null true_ false_
    · subst quote
      obtain ⟨ls, rfl⟩ := exists_letters whole.tail h
      refine ⟨.string ls, ?_⟩
      simp [Value.text]
    · simp only [Care.number, skipNumber] at h
      obtain ⟨⟨n, t⟩, read, rfl⟩ := map_eq_ok h
      obtain ⟨figure, split, -⟩ := exists_figure read
      exact ⟨.number figure, split⟩
    · subst null
      rw [eq_of_word h]
      exact ⟨.null, rfl⟩
    · subst true_
      rw [eq_of_word h]
      exact ⟨.boolean true, rfl⟩
    · subst false_
      rw [eq_of_word h]
      exact ⟨.boolean false, rfl⟩

/-- A string that is read behind spaces is a value. -/
theorem exists_text (whole : Unbroken s) {m : String} (h : text s = .ok (m, r)) :
    ∃ (gap : Gap) (v : Value), s = gap.chars.map .char ++ (v.text.map .char ++ r) := by
  obtain ⟨gap, split⟩ := exists_gap s
  rw [split] at whole
  unfold text at h
  split at h
  · cases h
  · rename_i rest next
    rw [next] at split whole
    obtain ⟨ls, rfl, -⟩ := exists_spelling whole.right.tail h
    refine ⟨gap, .string ls, ?_⟩
    rw [split]
    simp [Value.text]
  · cases h

/-- A value that is read, or `null` in its place, is a value. -/
theorem exists_optional {α : Type} {value : List Glyph → Except Fault (α × List Glyph)}
    (recognises : ∀ {s r : List Glyph} {a : α}, Unbroken s → value s = .ok (a, r) →
      ∃ (gap : Gap) (v : Value), s = gap.chars.map .char ++ (v.text.map .char ++ r))
    (whole : Unbroken s) {a : Option α} (h : optional value s = .ok (a, r)) :
    ∃ (gap : Gap) (v : Value), s = gap.chars.map .char ++ (v.text.map .char ++ r) := by
  obtain ⟨gap, split⟩ := exists_gap s
  rw [split] at whole
  unfold optional at h
  split at h
  · rename_i rest next
    rw [next] at split
    obtain ⟨t, read, same⟩ := map_eq_ok h
    cases same
    rw [eq_of_word read] at split
    exact ⟨gap, .null, split⟩
  · obtain ⟨⟨b, t⟩, read, same⟩ := map_eq_ok h
    cases same
    obtain ⟨within, v, behind⟩ := recognises whole.right read
    refine ⟨gap.append within, v, ?_⟩
    rw [split, behind]
    simp [Gap.append]

end PolicyDesk.Json
