import PolicyDesk.Proofs.Json.Reading

/-!
# Unknown values are passed over

* `Value.text_starts`: the first character of a value. It tells what kind of value it is, and that no value
  is taken for a closing bracket.
* `walk_…`: what one step of the walk does in front of a bracket, a comma or a value.
* `walk_value`: so the walk comes to the end of every value, however deep, and leaves the brackets around it
  open.
* `skipValue_text`: every value is passed over, whatever its strings and numbers stand for.
-/

namespace PolicyDesk.Json

open Text (isDigit)

variable {s : List Glyph}

/-- One gap behind another. -/
def Gap.append (g h : Gap) : Gap where
  chars := g.chars ++ h.chars
  blank c hc := by
    obtain hc | hc := List.mem_append.mp hc
    · exact g.blank c hc
    · exact h.blank c hc

/-! ## What follows a value -/

theorem endsNumber_cons {c : Char} (digit : isDigit c = false) (point : c ≠ '.')
    (mark : c ≠ 'e' ∧ c ≠ 'E') (s : List Glyph) : EndsNumber (.char c :: s) where
  digit := endsDigits_cons digit s
  point rest h := by
    cases h
    exact point rfl
  mark rest := by
    constructor
    · intro h
      cases h
      exact mark.1 rfl
    · intro h
      cases h
      exact mark.2 rfl

theorem endsNumber_gap (gap : Gap) (hs : EndsNumber s) : EndsNumber (gap.chars.map .char ++ s) := by
  obtain ⟨chars, blank⟩ := gap
  cases chars with
  | nil => exact hs
  | cons c chars =>
    obtain rfl | rfl | rfl | rfl := blank c List.mem_cons_self
    all_goals exact endsNumber_cons (by decide) (by decide) (by decide) _

theorem endsNumber_moreItems (items : List (Item Value)) (s : List Glyph) :
    EndsNumber ((moreItems items).map .char ++ .char ']' :: s) := by
  cases items with
  | nil => exact endsNumber_cons (by decide) (by decide) (by decide) _
  | cons item items => exact endsNumber_cons (by decide) (by decide) (by decide) _

theorem endsNumber_moreEntries (entries : List (Entry Value)) (s : List Glyph) :
    EndsNumber ((moreEntries entries).map .char ++ .char '\x7d' :: s) := by
  cases entries with
  | nil => exact endsNumber_cons (by decide) (by decide) (by decide) _
  | cons entry entries => exact endsNumber_cons (by decide) (by decide) (by decide) _

/-! ## How a value starts -/

/-- The first character of a value of each kind. -/
def Value.Starts (c : Char) : Value → Prop
  | null => c = 'n'
  | boolean b => c = if b then 't' else 'f'
  | number _ => c = '-' ∨ isDigit c = true
  | string _ => c = '"'
  | list _ _ => c = '['
  | object _ _ => c = '\x7b'

theorem Figure.text_starts (n : Figure) : ∃ c t, n.text = c :: t ∧ (c = '-' ∨ isDigit c = true) := by
  obtain ⟨⟨negative, whole, places, exponent⟩, proper, capital, plus⟩ := n
  cases negative with
  | true => exact ⟨'-', _, rfl, .inl rfl⟩
  | false =>
    cases whole with
    | nil => exact absurd rfl proper.some_whole
    | cons c whole => exact ⟨c, _, rfl, .inr (proper.whole c List.mem_cons_self)⟩

/-- Every value starts with a character that tells its kind. -/
theorem Value.text_starts (v : Value) : ∃ c t, v.text = c :: t ∧ v.Starts c := by
  cases v with
  | null => exact ⟨'n', _, rfl, rfl⟩
  | boolean b => cases b <;> exact ⟨_, _, rfl, rfl⟩
  | number n => exact n.text_starts
  | string ls => exact ⟨'"', _, rfl, rfl⟩
  | list gap items => exact ⟨'[', _, rfl, rfl⟩
  | object gap entries => exact ⟨'\x7b', _, rfl, rfl⟩

/-- No value starts with a space, a closing bracket or a separator. -/
theorem Value.Starts.ne {v : Value} {c : Char} (h : v.Starts c) :
    isSpace (.char c) = false ∧ c ≠ ']' ∧ c ≠ '\x7d' ∧ c ≠ ',' := by
  have digit : isDigit c = true → isSpace (.char c) = false ∧ c ≠ ']' ∧ c ≠ '\x7d' ∧ c ≠ ',' := by
    intro digit
    have not : ∀ c', isDigit c' = false → c ≠ c' := by
      rintro c' none rfl
      rw [digit] at none
      cases none
    refine ⟨?_, not ']' rfl, not '\x7d' rfl, not ',' rfl⟩
    simp [isSpace, not ' ' rfl, not '\n' rfl, not '\t' rfl, not '\r' rfl]
  cases v with
  | null =>
    cases h
    decide
  | boolean b => cases b <;> cases h <;> decide
  | number n =>
    obtain rfl | h := h
    · decide
    · exact digit h
  | string ls =>
    cases h
    decide
  | list gap items =>
    cases h
    decide
  | object gap entries =>
    cases h
    decide

/-- A value behind spaces. -/
theorem skipSpace_value (gap : Gap) (v : Value) (s : List Glyph) :
    skipSpace (gap.chars.map .char ++ (v.text.map .char ++ s)) = v.text.map .char ++ s := by
  rw [skipSpace_gap]
  obtain ⟨c, t, text, starts⟩ := v.text_starts
  rw [text]
  exact skipSpace_of_not starts.ne.1 _

/-! ## One step of the walk -/

section

variable {up : List Bracket} {rest : List Glyph}

theorem walk_list (h : skipSpace s = .char '[' :: rest) :
    walk .outline .value up s = walk .outline .opened (.list :: up) rest := by
  conv => lhs; rw [walk]
  split <;> simp_all [Care.isFull]

theorem walk_object (h : skipSpace s = .char '\x7b' :: rest) :
    walk .outline .value up s = walk .outline .opened (.object :: up) rest := by
  conv => lhs; rw [walk]
  split <;> simp_all [Care.isFull]

theorem walk_scalar {c : Char} (h : skipSpace s = .char c :: rest) (list : c ≠ '[') (object : c ≠ '\x7b')
    {r : List Glyph} (hr : skipScalar .outline (.char c :: rest) = .ok r) :
    walk .outline .value up s = walk .outline .closed up r := by
  conv => lhs; rw [walk]
  split
  · rename_i heq
    rw [h] at heq
    cases heq
    exact absurd rfl list
  · rename_i heq
    rw [h] at heq
    cases heq
    exact absurd rfl object
  · split
    · rename_i r' hr'
      rw [h, hr] at hr'
      cases hr'
      rfl
    · rename_i f hf
      rw [h, hr] at hf
      cases hf

theorem walk_emptyList (h : skipSpace s = .char ']' :: rest) :
    walk .outline .opened (.list :: up) s = walk .outline .closed up rest := by
  conv => lhs; rw [walk]
  split <;> simp_all

theorem walk_firstItem {c : Char} (h : skipSpace s = .char c :: rest) (further : c ≠ ']') :
    walk .outline .opened (.list :: up) s = walk .outline .value (.list :: up) s := by
  conv => lhs; rw [walk]
  split
  · simp_all
  · rename_i heq
    rw [h] at heq
    cases heq
    exact absurd rfl further
  · rfl

theorem walk_closeList (h : skipSpace s = .char ']' :: rest) :
    walk .outline .closed (.list :: up) s = walk .outline .closed up rest := by
  conv => lhs; rw [walk]
  split <;> simp_all

theorem walk_nextItem (h : skipSpace s = .char ',' :: rest) :
    walk .outline .closed (.list :: up) s = walk .outline .value (.list :: up) rest := by
  conv => lhs; rw [walk]
  split <;> simp_all [Care.commaFault?]

theorem walk_emptyObject (h : skipSpace s = .char '\x7d' :: rest) :
    walk .outline .opened (.object :: up) s = walk .outline .closed up rest := by
  conv => lhs; rw [walk]
  split <;> simp_all

theorem walk_firstEntry {c : Char} (h : skipSpace s = .char c :: rest) (further : c ≠ '\x7d')
    {r : List Glyph} (hr : skipName .outline (.char c :: rest) = .ok r) :
    walk .outline .opened (.object :: up) s = walk .outline .value (.object :: up) r := by
  conv => lhs; rw [walk]
  split
  · rename_i heq
    rw [h] at heq
    cases heq
    exact absurd rfl further
  · split
    · rename_i r' hr'
      rw [h, hr] at hr'
      cases hr'
      rfl
    · rename_i f hf
      rw [h, hr] at hf
      cases hf

theorem walk_closeObject (h : skipSpace s = .char '\x7d' :: rest) :
    walk .outline .closed (.object :: up) s = walk .outline .closed up rest := by
  conv => lhs; rw [walk]
  split <;> simp_all

theorem walk_nextEntry (h : skipSpace s = .char ',' :: rest) {r : List Glyph}
    (hr : skipName .outline (skipSpace rest) = .ok r) :
    walk .outline .closed (.object :: up) s = walk .outline .value (.object :: up) r := by
  conv => lhs; rw [walk]
  split <;> simp_all [Care.commaFault?]
  split <;> simp_all

end

/-! ## The walk over a value -/

/-- The name of a member with its colon is passed over. -/
theorem skipName_entry (name : List Letter) (beforeColon : Gap) (s : List Glyph) :
    skipName .outline (.char '"' :: ((spelling name).map .char ++
      (.char '"' :: (beforeColon.chars.map .char ++ .char ':' :: s)))) = .ok s := by
  have colon := skipSpace_token beforeColon (c := ':') (by decide) s
  simp only [skipName, Care.string, skipString_spelling]
  simp only [bind, Except.bind, colon]

/-- A value that is no list and no object is passed over at once. -/
theorem skipScalar_word {c : Char} {cs : List Char} (s : List Glyph)
    (h : (c = 'n' ∧ cs = ['u', 'l', 'l']) ∨ (c = 't' ∧ cs = ['r', 'u', 'e']) ∨
      (c = 'f' ∧ cs = ['a', 'l', 's', 'e'])) :
    skipScalar .outline (.char c :: (cs.map .char ++ s)) = .ok s := by
  obtain ⟨rfl, rfl⟩ | ⟨rfl, rfl⟩ | ⟨rfl, rfl⟩ := h
  all_goals exact word_append _ s

theorem skipScalar_figure (n : Figure) (hs : EndsNumber s) :
    skipScalar .outline (n.text.map .char ++ s) = .ok s := by
  have skipped := skipNumber_figure n hs
  obtain ⟨c, t, text, first⟩ := n.text_starts
  have noQuote : c ≠ '"' := by
    rintro rfl
    obtain first | first := first <;> cases first
  rw [text, List.map_cons, List.cons_append] at skipped ⊢
  rw [skipScalar, if_neg noQuote, if_pos first]
  exact skipped

mutual

/-- **The walk comes to the end of a value** and leaves the brackets around it open. The induction is on the
    value; a number needs to know that what follows does not go on with it. -/
theorem walk_value : ∀ (v : Value) (gap : Gap) (up : List Bracket) (s : List Glyph), EndsNumber s →
    walk .outline .value up (gap.chars.map .char ++ (v.text.map .char ++ s)) =
      walk .outline .closed up s
  | .null, gap, up, s, _ => by
    have start := skipSpace_value gap .null s
    exact walk_scalar start (by decide) (by decide) (skipScalar_word s (.inl ⟨rfl, rfl⟩))
  | .boolean true, gap, up, s, _ => by
    have start := skipSpace_value gap (.boolean true) s
    exact walk_scalar start (by decide) (by decide) (skipScalar_word s (.inr (.inl ⟨rfl, rfl⟩)))
  | .boolean false, gap, up, s, _ => by
    have start := skipSpace_value gap (.boolean false) s
    exact walk_scalar start (by decide) (by decide) (skipScalar_word s (.inr (.inr ⟨rfl, rfl⟩)))
  | .number n, gap, up, s, hs => by
    have start := skipSpace_value gap (.number n) s
    have skipped := skipScalar_figure n hs
    obtain ⟨c, t, text, first⟩ := n.text_starts
    have other : c ≠ '[' ∧ c ≠ '\x7b' := by
      constructor
      all_goals
        rintro rfl
        obtain first | first := first <;> cases first
    rw [Value.text, text] at start
    rw [text] at skipped
    rw [Value.text, text]
    exact walk_scalar start other.1 other.2 skipped
  | .string ls, gap, up, s, _ => by
    have start := skipSpace_value gap (.string ls) s
    have skipped : skipScalar .outline ((Value.string ls).text.map .char ++ s) = .ok s := by
      have walked := skipString_spelling ls s
      simpa [Value.text, skipScalar, Care.string] using walked
    exact walk_scalar start (by decide) (by decide) skipped
  | .list within items, gap, up, s, _ => by
    have start := skipSpace_value gap (.list within items) s
    simp only [Value.text, List.map_cons, List.map_append, List.map_nil, List.cons_append,
      List.append_assoc, List.nil_append] at start ⊢
    rw [walk_list start]
    exact walk_items items within up s
  | .object within entries, gap, up, s, _ => by
    have start := skipSpace_value gap (.object within entries) s
    simp only [Value.text, List.map_cons, List.map_append, List.map_nil, List.cons_append,
      List.append_assoc, List.nil_append] at start ⊢
    rw [walk_object start]
    exact walk_entries entries within up s

theorem walk_items : ∀ (items : List (Item Value)) (gap : Gap) (up : List Bracket) (s : List Glyph),
    walk .outline .opened (.list :: up)
      (gap.chars.map .char ++ ((itemsText items).map .char ++ .char ']' :: s)) =
      walk .outline .closed up s
  | [], gap, up, s => by
    have close := skipSpace_token gap (c := ']') (by decide) s
    exact walk_emptyList close
  | ⟨before, v, after⟩ :: items, gap, up, s => by
    have ends := endsNumber_gap after (endsNumber_moreItems items s)
    have value := walk_value v (gap.append before) (.list :: up) _ ends
    have start := skipSpace_value (gap.append before) v
      (after.chars.map .char ++ ((moreItems items).map .char ++ .char ']' :: s))
    obtain ⟨c, t, text, starts⟩ := v.text_starts
    simp only [itemsText, Gap.append, List.map_append, List.append_assoc] at value start ⊢
    rw [text, List.map_cons, List.cons_append] at value start ⊢
    rw [walk_firstItem start starts.ne.2.1, value]
    exact walk_moreItems items after up s

theorem walk_moreItems : ∀ (items : List (Item Value)) (gap : Gap) (up : List Bracket) (s : List Glyph),
    walk .outline .closed (.list :: up)
      (gap.chars.map .char ++ ((moreItems items).map .char ++ .char ']' :: s)) =
      walk .outline .closed up s
  | [], gap, up, s => by
    have close := skipSpace_token gap (c := ']') (by decide) s
    exact walk_closeList close
  | ⟨before, v, after⟩ :: items, gap, up, s => by
    have ends := endsNumber_gap after (endsNumber_moreItems items s)
    have value := walk_value v before (.list :: up) _ ends
    have comma := skipSpace_token gap (c := ',') (by decide)
    simp only [moreItems, List.map_cons, List.map_append, List.cons_append, List.append_assoc] at value ⊢
    rw [walk_nextItem (comma _), value]
    exact walk_moreItems items after up s

theorem walk_entries : ∀ (entries : List (Entry Value)) (gap : Gap) (up : List Bracket) (s : List Glyph),
    walk .outline .opened (.object :: up)
      (gap.chars.map .char ++ ((entriesText entries).map .char ++ .char '\x7d' :: s)) =
      walk .outline .closed up s
  | [], gap, up, s => by
    have close := skipSpace_token gap (c := '\x7d') (by decide) s
    exact walk_emptyObject close
  | ⟨before, name, beforeColon, afterColon, v, after⟩ :: entries, gap, up, s => by
    have ends := endsNumber_gap after (endsNumber_moreEntries entries s)
    have value := walk_value v afterColon (.object :: up) _ ends
    have quote : ∀ t, skipSpace (gap.chars.map .char ++ (before.chars.map .char ++ .char '"' :: t)) =
        .char '"' :: t := by
      intro t
      rw [skipSpace_gap]
      exact skipSpace_token before (by decide) t
    have named := skipName_entry name beforeColon
    simp only [entriesText, List.map_cons, List.map_append, List.cons_append, List.append_assoc]
      at value ⊢
    rw [walk_firstEntry (quote _) (by decide) (named _), value]
    exact walk_moreEntries entries after up s

theorem walk_moreEntries : ∀ (entries : List (Entry Value)) (gap : Gap) (up : List Bracket)
    (s : List Glyph),
    walk .outline .closed (.object :: up)
      (gap.chars.map .char ++ ((moreEntries entries).map .char ++ .char '\x7d' :: s)) =
      walk .outline .closed up s
  | [], gap, up, s => by
    have close := skipSpace_token gap (c := '\x7d') (by decide) s
    exact walk_closeObject close
  | ⟨before, name, beforeColon, afterColon, v, after⟩ :: entries, gap, up, s => by
    have ends := endsNumber_gap after (endsNumber_moreEntries entries s)
    have value := walk_value v afterColon (.object :: up) _ ends
    have comma := skipSpace_token gap (c := ',') (by decide)
    have quote := skipSpace_token before (c := '"') (by decide)
    have named : ∀ t, skipName .outline (skipSpace (before.chars.map .char ++ .char '"' ::
        ((spelling name).map .char ++ (.char '"' :: (beforeColon.chars.map .char ++ .char ':' :: t))))) =
        .ok t := by
      intro t
      rw [quote]
      exact skipName_entry name beforeColon t
    simp only [moreEntries, List.map_cons, List.map_append, List.cons_append, List.append_assoc]
      at value ⊢
    rw [walk_nextEntry (comma _) (named _), value]
    exact walk_moreEntries entries after up s

end

/-- **Every value is passed over**, whatever its strings and numbers stand for and however deep its brackets
    are nested. -/
theorem skipValue_text (v : Value) (gap : Gap) (hs : EndsNumber s) :
    skipValue .outline (gap.chars.map .char ++ (v.text.map .char ++ s)) = .ok s := by
  rw [skipValue, walk_value v gap [] s hs, walk]

end PolicyDesk.Json
