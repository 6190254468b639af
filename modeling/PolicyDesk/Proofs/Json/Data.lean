import PolicyDesk.Proofs.Json.Content

/-!
# What a JSON text says

A text with its spaces and spellings, and the value that is left without them. Two texts say the same if the same
value is left.

* `Data`, `Value.data`: a value without spaces and spellings. Elements and members stay in their order, and
  numbers keep their digits.
* `Denotes`: a text is one value with spaces around it, and says so much.
* `token_unique`, `string_unique`, `number_unique`, `name_unique`: the parts of a text are told apart by its glyphs.
* `data_unique`: so values are, and nothing is left open behind them.
* `Denotes.unique`: a text says one thing at most; `SameValue`: two texts say the same.
-/

namespace PolicyDesk.Json

open Text (isDigit)

/-- A value without its spelling and without the spaces in it. -/
inductive Data where
  | null
  | boolean (b : Bool)
  | number (n : Numeral)
  /-- A string, unless half of a pair is in it. -/
  | text (t : Option String)
  | list (items : List Data)
  /-- The members in their order, each with its name. -/
  | object (members : List (Option String × Data))

mutual

/-- What is left of a value without its spelling and without the spaces in it. -/
def Value.data : Value → Data
  | .null => .null
  | .boolean b => .boolean b
  | .number n => .number n.numeral
  | .string ls => .text (spelled? ls)
  | .list _ items => .list (itemsData items)
  | .object _ entries => .object (entriesData entries)

/-- The elements of a list. -/
def itemsData : List (Item Value) → List Data
  | [] => []
  | ⟨_, value, _⟩ :: items => value.data :: itemsData items

/-- The members of an object. -/
def entriesData : List (Entry Value) → List (Option String × Data)
  | [] => []
  | ⟨_, name, _, _, value, _⟩ :: entries => (spelled? name, value.data) :: entriesData entries

end

/-- The text is one value, with spaces around it, and this is what it says. -/
def Denotes (text : List Char) (x : Data) : Prop :=
  ∃ (before : Gap) (v : Value) (after : Gap), text = before.chars ++ (v.text ++ after.chars) ∧ v.data = x

/-! ## The kind of a value -/

/-- The kinds of values. -/
inductive Kind where
  | null
  | boolean (b : Bool)
  | number
  | text
  | list
  | object

/-- The kind of a value. -/
def Value.kind : Value → Kind
  | null => .null
  | boolean b => .boolean b
  | number _ => .number
  | string _ => .text
  | list _ _ => .list
  | object _ _ => .object

/-- The kind of the values that start so. -/
def Kind.ofChar (c : Char) : Kind :=
  if c = 'n' then null
  else if c = 't' then boolean true
  else if c = 'f' then boolean false
  else if c = '"' then text
  else if c = '[' then list
  else if c = '\x7b' then object
  else number

theorem Value.Starts.kind {v : Value} {c : Char} (h : v.Starts c) : v.kind = Kind.ofChar c := by
  cases v with
  | null => rw [show c = 'n' from h]; rfl
  | boolean b => rw [show c = if b then 't' else 'f' from h]; cases b <;> rfl
  | number n =>
    obtain rfl | digit := h
    · rfl
    · have other : ∀ c', isDigit c' = false → c ≠ c' := by
        rintro c' none rfl
        rw [digit] at none
        cases none
      simp [Value.kind, Kind.ofChar, other 'n' rfl, other 't' rfl, other 'f' rfl, other '"' rfl, other '[' rfl,
        other '\x7b' rfl]
  | string ls => rw [show c = '"' from h]; rfl
  | list gap items => rw [show c = '[' from h]; rfl
  | object gap entries => rw [show c = '\x7b' from h]; rfl

/-- Values behind spaces are of one kind and have one text if the glyphs are the same. -/
theorem kind_unique {v w : Value} {gap gap' : Gap} {s s' : List Glyph}
    (h : gap.chars.map .char ++ (v.text.map .char ++ s) = gap'.chars.map .char ++ (w.text.map .char ++ s')) :
    v.kind = w.kind ∧ v.text.map .char ++ s = w.text.map .char ++ s' := by
  have same := congrArg skipSpace h
  rw [skipSpace_value, skipSpace_value] at same
  refine ⟨?_, same⟩
  obtain ⟨c, t, text, starts⟩ := v.text_starts
  obtain ⟨c', t', text', starts'⟩ := w.text_starts
  rw [text, text', List.map_cons, List.map_cons, List.cons_append, List.cons_append] at same
  obtain ⟨first, -⟩ := List.cons.inj same
  cases first
  rw [starts.kind, starts'.kind]

/-! ## Scalars -/

/-- Strings at the start of the same glyphs are the same, and the same follows them. -/
theorem string_unique {ls ms : List Letter} {s s' : List Glyph}
    (h : (spelling ls).map .char ++ .char '"' :: s = (spelling ms).map .char ++ .char '"' :: s') :
    spelled? ls = spelled? ms ∧ s = s' := by
  have rest : s = s' := by
    have walked := skipString_spelling ls s
    rw [h, skipString_spelling] at walked
    exact (Except.ok.inj walked).symm
  have read := string_spelling ls s
  rw [h, string_spelling] at read
  have first := congrArg (Option.map Prod.fst) read
  rw [Option.map_map, Option.map_map] at first
  exact ⟨first.symm, rest⟩

/-- Numbers at the start of the same glyphs are the same if nothing goes on with them. -/
theorem number_unique {n m : Figure} {s s' : List Glyph} (hs : EndsNumber s) (hs' : EndsNumber s')
    (h : n.text.map .char ++ s = m.text.map .char ++ s') : n.numeral = m.numeral ∧ s = s' := by
  have read := numeral_figure n .badNumber hs
  rw [h, numeral_figure m .badNumber hs'] at read
  obtain ⟨same, rest⟩ := Prod.mk.inj (Except.ok.inj read)
  exact ⟨same.symm, rest.symm⟩

/-- Tokens behind spaces are the same if the glyphs are, and the same follows them. -/
theorem token_unique {c c' : Char} (token : isSpace (.char c) = false) (token' : isSpace (.char c') = false)
    {gap gap' : Gap} {s s' : List Glyph}
    (h : gap.chars.map .char ++ .char c :: s = gap'.chars.map .char ++ .char c' :: s') : c = c' ∧ s = s' := by
  have first := congrArg skipSpace h
  rw [skipSpace_token gap token, skipSpace_token gap' token'] at first
  obtain ⟨same, rest⟩ := List.cons.inj first
  exact ⟨Glyph.char.inj same, rest⟩

/-- The names of members at the start of the same glyphs are the same, and the same follows their colons. -/
theorem name_unique {ls ms : List Letter} {gap gap' : Gap} {s s' : List Glyph}
    (h : (spelling ls).map .char ++ .char '"' :: (gap.chars.map .char ++ .char ':' :: s) =
      (spelling ms).map .char ++ .char '"' :: (gap'.chars.map .char ++ .char ':' :: s')) :
    spelled? ls = spelled? ms ∧ s = s' := by
  obtain ⟨name, rest⟩ := string_unique h
  exact ⟨name, (token_unique (by decide) (by decide) rest).2⟩

/-! ## Values -/

/-- No value starts with a closing bracket. -/
theorem bracket_ne_value {gap gap' : Gap} {v : Value} {s s' : List Glyph} :
    gap.chars.map .char ++ .char ']' :: s ≠ gap'.chars.map .char ++ (v.text.map .char ++ s') := by
  intro h
  obtain ⟨c, t, text, starts⟩ := v.text_starts
  rw [text] at h
  exact starts.ne.2.1 (token_unique (by decide) starts.ne.1 h).1.symm

/-- Elements behind spaces: the first of them comes next, and what follows stands in its order. -/
theorem itemsText_cons (gap before : Gap) (v : Value) (after : Gap) (items : List (Item Value)) (s : List Glyph) :
    gap.chars.map .char ++ ((itemsText (⟨before, v, after⟩ :: items)).map .char ++ s) =
      (gap.append before).chars.map .char ++
        (v.text.map .char ++ (after.chars.map .char ++ ((moreItems items).map .char ++ s))) := by
  simp [itemsText, Gap.append]

/-- Members behind spaces: the quote of the first name comes next, and what follows stands in its order. -/
theorem entriesText_cons (gap before : Gap) (name : List Letter) (beforeColon afterColon : Gap) (v : Value)
    (after : Gap) (entries : List (Entry Value)) (s : List Glyph) :
    gap.chars.map .char ++
        ((entriesText (⟨before, name, beforeColon, afterColon, v, after⟩ :: entries)).map .char ++ s) =
      (gap.append before).chars.map .char ++ .char '"' :: ((spelling name).map .char ++
        (.char '"' :: (beforeColon.chars.map .char ++ .char ':' :: (afterColon.chars.map .char ++
          (v.text.map .char ++ (after.chars.map .char ++ ((moreEntries entries).map .char ++ s))))))) := by
  simp [entriesText, Gap.append]

mutual

/-- **Values at the start of the same glyphs say the same**, and the same follows them. The induction is on the
    value; a number needs to know that what follows does not go on with it. -/
theorem data_unique : ∀ (v w : Value) {gap gap' : Gap} {s s' : List Glyph}, EndsNumber s → EndsNumber s' →
    gap.chars.map .char ++ (v.text.map .char ++ s) = gap'.chars.map .char ++ (w.text.map .char ++ s') →
    v.data = w.data ∧ s = s'
  | .null, w, gap, gap', s, s', _, _, h => by
    obtain ⟨kind, same⟩ := kind_unique h
    cases w with
    | null => exact ⟨rfl, List.append_cancel_left same⟩
    | _ => cases kind
  | .boolean b, w, gap, gap', s, s', _, _, h => by
    obtain ⟨kind, same⟩ := kind_unique h
    cases w with
    | boolean b' =>
      cases kind
      exact ⟨rfl, List.append_cancel_left same⟩
    | _ => cases kind
  | .number n, w, gap, gap', s, s', hs, hs', h => by
    obtain ⟨kind, same⟩ := kind_unique h
    cases w with
    | number m =>
      obtain ⟨numeral, rest⟩ := number_unique hs hs' same
      exact ⟨congrArg Data.number numeral, rest⟩
    | _ => cases kind
  | .string ls, w, gap, gap', s, s', _, _, h => by
    obtain ⟨kind, same⟩ := kind_unique h
    cases w with
    | string ms =>
      simp only [Value.text, List.map_cons, List.map_append, List.map_nil, List.cons_append, List.append_assoc,
        List.nil_append] at same
      obtain ⟨text, rest⟩ := string_unique (List.cons.inj same).2
      exact ⟨congrArg Data.text text, rest⟩
    | _ => cases kind
  | .list within items, w, gap, gap', s, s', _, _, h => by
    obtain ⟨kind, same⟩ := kind_unique h
    cases w with
    | list within' items' =>
      simp only [Value.text, List.map_cons, List.map_append, List.map_nil, List.cons_append, List.append_assoc,
        List.nil_append] at same
      obtain ⟨elements, rest⟩ := items_unique items items' (List.cons.inj same).2
      exact ⟨congrArg Data.list elements, rest⟩
    | _ => cases kind
  | .object within entries, w, gap, gap', s, s', _, _, h => by
    obtain ⟨kind, same⟩ := kind_unique h
    cases w with
    | object within' entries' =>
      simp only [Value.text, List.map_cons, List.map_append, List.map_nil, List.cons_append, List.append_assoc,
        List.nil_append] at same
      obtain ⟨members, rest⟩ := entries_unique entries entries' (List.cons.inj same).2
      exact ⟨congrArg Data.object members, rest⟩
    | _ => cases kind

theorem items_unique : ∀ (items items' : List (Item Value)) {gap gap' : Gap} {s s' : List Glyph},
    gap.chars.map .char ++ ((itemsText items).map .char ++ .char ']' :: s) =
      gap'.chars.map .char ++ ((itemsText items').map .char ++ .char ']' :: s') →
    itemsData items = itemsData items' ∧ s = s'
  | [], [], gap, gap', s, s', h => ⟨rfl, (token_unique (by decide) (by decide) h).2⟩
  | [], ⟨before', w, after'⟩ :: items', gap, gap', s, s', h =>
    absurd (h.trans (itemsText_cons gap' before' w after' items' _)) bracket_ne_value
  | ⟨before, v, after⟩ :: items, [], gap, gap', s, s', h =>
    absurd (h.symm.trans (itemsText_cons gap before v after items _)) bracket_ne_value
  | ⟨before, v, after⟩ :: items, ⟨before', w, after'⟩ :: items', gap, gap', s, s', h => by
    have h := (itemsText_cons gap before v after items _).symm.trans
      (h.trans (itemsText_cons gap' before' w after' items' _))
    obtain ⟨first, rest⟩ := data_unique v w (endsNumber_gap after (endsNumber_moreItems items s))
      (endsNumber_gap after' (endsNumber_moreItems items' s')) h
    obtain ⟨others, rest⟩ := moreItems_unique items items' rest
    exact ⟨by rw [itemsData, itemsData, first, others], rest⟩

theorem moreItems_unique : ∀ (items items' : List (Item Value)) {gap gap' : Gap} {s s' : List Glyph},
    gap.chars.map .char ++ ((moreItems items).map .char ++ .char ']' :: s) =
      gap'.chars.map .char ++ ((moreItems items').map .char ++ .char ']' :: s') →
    itemsData items = itemsData items' ∧ s = s'
  | [], [], gap, gap', s, s', h => ⟨rfl, (token_unique (by decide) (by decide) h).2⟩
  | [], ⟨before', w, after'⟩ :: items', gap, gap', s, s', h => by
    cases (token_unique (by decide) (by decide) h).1
  | ⟨before, v, after⟩ :: items, [], gap, gap', s, s', h => by
    cases (token_unique (by decide) (by decide) h).1
  | ⟨before, v, after⟩ :: items, ⟨before', w, after'⟩ :: items', gap, gap', s, s', h => by
    simp only [moreItems, List.map_cons, List.map_append, List.cons_append, List.append_assoc] at h
    obtain ⟨-, behind⟩ := token_unique (by decide) (by decide) h
    obtain ⟨first, rest⟩ := data_unique v w (endsNumber_gap after (endsNumber_moreItems items s))
      (endsNumber_gap after' (endsNumber_moreItems items' s')) behind
    obtain ⟨others, rest⟩ := moreItems_unique items items' rest
    exact ⟨by rw [itemsData, itemsData, first, others], rest⟩

theorem entries_unique : ∀ (entries entries' : List (Entry Value)) {gap gap' : Gap} {s s' : List Glyph},
    gap.chars.map .char ++ ((entriesText entries).map .char ++ .char '\x7d' :: s) =
      gap'.chars.map .char ++ ((entriesText entries').map .char ++ .char '\x7d' :: s') →
    entriesData entries = entriesData entries' ∧ s = s'
  | [], [], gap, gap', s, s', h => ⟨rfl, (token_unique (by decide) (by decide) h).2⟩
  | [], ⟨before', name', beforeColon', afterColon', w, after'⟩ :: entries', gap, gap', s, s', h => by
    have h := h.trans (entriesText_cons gap' before' name' beforeColon' afterColon' w after' entries' _)
    cases (token_unique (by decide) (by decide) h).1
  | ⟨before, name, beforeColon, afterColon, v, after⟩ :: entries, [], gap, gap', s, s', h => by
    have h := h.symm.trans (entriesText_cons gap before name beforeColon afterColon v after entries _)
    cases (token_unique (by decide) (by decide) h).1
  | ⟨before, name, beforeColon, afterColon, v, after⟩ :: entries,
      ⟨before', name', beforeColon', afterColon', w, after'⟩ :: entries', gap, gap', s, s', h => by
    have h := (entriesText_cons gap before name beforeColon afterColon v after entries _).symm.trans
      (h.trans (entriesText_cons gap' before' name' beforeColon' afterColon' w after' entries' _))
    obtain ⟨-, behind⟩ := token_unique (by decide) (by decide) h
    obtain ⟨title, behind⟩ := name_unique behind
    obtain ⟨first, rest⟩ := data_unique v w (endsNumber_gap after (endsNumber_moreEntries entries s))
      (endsNumber_gap after' (endsNumber_moreEntries entries' s')) behind
    obtain ⟨others, rest⟩ := moreEntries_unique entries entries' rest
    exact ⟨by rw [entriesData, entriesData, title, first, others], rest⟩

theorem moreEntries_unique : ∀ (entries entries' : List (Entry Value)) {gap gap' : Gap} {s s' : List Glyph},
    gap.chars.map .char ++ ((moreEntries entries).map .char ++ .char '\x7d' :: s) =
      gap'.chars.map .char ++ ((moreEntries entries').map .char ++ .char '\x7d' :: s') →
    entriesData entries = entriesData entries' ∧ s = s'
  | [], [], gap, gap', s, s', h => ⟨rfl, (token_unique (by decide) (by decide) h).2⟩
  | [], ⟨before', name', beforeColon', afterColon', w, after'⟩ :: entries', gap, gap', s, s', h => by
    cases (token_unique (by decide) (by decide) h).1
  | ⟨before, name, beforeColon, afterColon, v, after⟩ :: entries, [], gap, gap', s, s', h => by
    cases (token_unique (by decide) (by decide) h).1
  | ⟨before, name, beforeColon, afterColon, v, after⟩ :: entries,
      ⟨before', name', beforeColon', afterColon', w, after'⟩ :: entries', gap, gap', s, s', h => by
    simp only [moreEntries, List.map_cons, List.map_append, List.cons_append, List.append_assoc] at h
    obtain ⟨-, behind⟩ := token_unique (by decide) (by decide) h
    obtain ⟨-, behind⟩ := token_unique (by decide) (by decide) behind
    obtain ⟨title, behind⟩ := name_unique behind
    obtain ⟨first, rest⟩ := data_unique v w (endsNumber_gap after (endsNumber_moreEntries entries s))
      (endsNumber_gap after' (endsNumber_moreEntries entries' s')) behind
    obtain ⟨others, rest⟩ := moreEntries_unique entries entries' rest
    exact ⟨by rw [entriesData, entriesData, title, first, others], rest⟩

end

/-! ## Texts -/

variable {text : List Char} {x y : Data}

/-- **A text says one thing at most.** -/
theorem Denotes.unique (hx : Denotes text x) (hy : Denotes text y) : x = y := by
  obtain ⟨before, v, after, rfl, rfl⟩ := hx
  obtain ⟨before', w, after', same, rfl⟩ := hy
  have glyphs := congrArg (List.map Glyph.char) same
  simp only [List.map_append] at glyphs
  rw [← List.append_nil (after.chars.map Glyph.char), ← List.append_nil (after'.chars.map Glyph.char)] at glyphs
  exact (data_unique v w (endsNumber_gap after endsNumber_nil) (endsNumber_gap after' endsNumber_nil) glyphs).1

theorem denotes_value (v : Value) : Denotes v.text v.data :=
  ⟨.none, v, .none, by simp [Gap.none], rfl⟩

/-- Each of the texts says one thing, and both say the same. -/
def SameValue (text text' : List Char) : Prop := ∃ x, (∀ y, Denotes text y ↔ y = x) ∧ ∀ y, Denotes text' y ↔ y = x

theorem Denotes.iff (h : Denotes text x) : Denotes text y ↔ y = x :=
  ⟨fun other => other.unique h, fun same => same ▸ h⟩

theorem Denotes.sameValue {text' : List Char} (h : Denotes text x) (h' : Denotes text' x) : SameValue text text' :=
  ⟨x, fun _ => h.iff, fun _ => h'.iff⟩

/-- The end of the line does not matter. -/
theorem Denotes.line (h : Denotes text x) : Denotes (text ++ ['\n']) x := by
  obtain ⟨before, v, after, rfl, rfl⟩ := h
  exact ⟨before, v, after.append ⟨['\n'], by simp⟩, by simp [Gap.append], rfl⟩

end PolicyDesk.Json
