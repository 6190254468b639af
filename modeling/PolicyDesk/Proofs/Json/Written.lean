import Mathlib.Tactic.ByContra
import Mathlib.Tactic.SplitIfs
import PolicyDesk.Proofs.Json.Content
import PolicyDesk.Proofs.Text.Digits
import PolicyDesk.Proofs.Text.Pieces

/-!
# What is written is in the grammar

* `written`: the letters of a quoted string; `meaning_written`: they stand for it.
* `naturalFigure`: a number in decimal as a number of the grammar.
* `compactEntries`, `indentedEntries`: the members of an object, written on one line or one on each line;
  `compact_eq_text`, `indented_eq_text`: these are the texts.
* `said_compactEntries`, `said_indentedEntries`: both say the same.
-/

namespace PolicyDesk.Json

/-! ## Strings -/

/-- The letter that a character is written as. -/
def letterOf (c : Char) : Letter :=
  if quote : c = '"' then .escaped .quote
  else if backslash : c = '\\' then .escaped .backslash
  else if c.toNat = 8 then .escaped .backspace
  else if c.toNat = 9 then .escaped .tab
  else if c.toNat = 10 then .escaped .lineFeed
  else if c.toNat = 12 then .escaped .formFeed
  else if c.toNat = 13 then .escaped .carriageReturn
  else if control : c.toNat < 0x20 then
    .coded ⟨⟨0, false⟩, ⟨0, false⟩, ⟨⟨c.toNat / 16, by omega⟩, false⟩, ⟨⟨c.toNat % 16, by omega⟩, false⟩⟩
  else .plain c ⟨quote, backslash, by omega⟩

/-- The letters of a quoted string. -/
def written (s : List Char) : List Letter := s.map letterOf

theorem text_letterOf (c : Char) : (letterOf c).text = stringChar c := by
  unfold letterOf stringChar
  simp only [apply_dite Letter.text, apply_ite Letter.text]
  rfl

theorem meaning_coded {n : Code} (high : ¬ n.IsHigh) (low : ¬ n.IsLow) (ls : List Letter) :
    meaning (.coded n :: ls) = (meaning ls).map (Char.ofNat n.value :: ·) := by
  rw [meaning.eq_def]
  simp only
  rw [if_neg high, if_neg low]

/-- The letter of a character stands for it. -/
theorem meaning_letterOf (c : Char) (ls : List Letter) :
    meaning (letterOf c :: ls) = (meaning ls).map (c :: ·) := by
  have of : ∀ n : Nat, c.toNat = n → Char.ofNat n = c := by
    rintro n rfl
    exact c.ofNat_toNat
  unfold letterOf
  split_ifs with h₁ h₂ h₃ h₄ h₅ h₆ h₇ h₈
  · rw [h₁]
    rfl
  · rw [h₂]
    rfl
  · rw [← of 8 h₃]
    rfl
  · rw [← of 9 h₄]
    rfl
  · rw [← of 10 h₅]
    rfl
  · rw [← of 12 h₆]
    rfl
  · rw [← of 13 h₇]
    rfl
  · have value : (Code.mk ⟨0, false⟩ ⟨0, false⟩ ⟨⟨c.toNat / 16, by omega⟩, false⟩
        ⟨⟨c.toNat % 16, by omega⟩, false⟩).value = c.toNat := by
      simp only [Code.value, Fin.val_zero]
      omega
    rw [meaning_coded (by unfold Code.IsHigh; omega) (by unfold Code.IsLow; omega), value, of _ rfl]
  · rfl

/-- **A quoted string stands for itself.** -/
theorem meaning_written (s : List Char) : meaning (written s) = some s := by
  induction s with
  | nil => rfl
  | cons c s ih => rw [written, List.map_cons, meaning_letterOf, ← written, ih, Option.map_some]

theorem spelling_written (s : List Char) : spelling (written s) = s.flatMap stringChar := by
  induction s with
  | nil => rfl
  | cons c s ih =>
    rw [written, List.map_cons, spelling, List.flatMap_cons, text_letterOf, ← spelling, ← written, ih,
      List.flatMap_cons]

theorem spelled?_written (s : String) : spelled? (written s.toList) = some s := by
  rw [spelled?, meaning_written, Option.map_some, String.ofList_toList]

theorem text_written (s : List Char) : (Value.string (written s)).text = quote s := by
  rw [Value.text, spelling_written, quote]

/-! ## Numbers -/

/-- The parts of a number in decimal. -/
def naturalNumeral (n : Nat) : Numeral := ⟨false, Text.natural n, [], none⟩

theorem naturalNumeral_wellFormed (n : Nat) : (naturalNumeral n).WellFormed where
  whole := Text.natural_isDigit n
  some_whole := Text.natural_ne_nil n
  lead h := by
    have zero : n = 0 := by
      by_contra pos
      exact Text.natural_head_ne_zero pos h
    subst zero
    simp [naturalNumeral, Text.natural, Text.digitChar]
  places c hc := by cases hc
  exponent e he := by cases he

/-- A number in decimal. -/
def naturalFigure (n : Nat) : Figure := ⟨naturalNumeral n, naturalNumeral_wellFormed n, false, true⟩

theorem text_naturalFigure (n : Nat) : (Value.number (naturalFigure n)).text = Text.natural n := by
  simp [Value.text, Figure.text, naturalFigure, naturalNumeral, Numeral.spelled, Numeral.pointText,
    Numeral.exponentSpelled]

theorem unsigned?_naturalFigure {most n : Nat} (h : n ≤ most) :
    (Content.number (naturalFigure n).numeral).unsigned? most = some n := by
  have integer : (naturalFigure n).numeral.integer? = some (n : Int) := by
    simp [naturalFigure, naturalNumeral, Numeral.integer?, Numeral.isInteger, Text.value_natural]
  have fits : 0 ≤ (n : Int) ∧ (n : Int) ≤ most := by omega
  rw [Content.unsigned?, integer, Option.bind_some, if_pos fits, Int.toNat_natCast]

theorem text_boolean (b : Bool) : (Value.boolean b).text = boolText b := by
  cases b <;> rfl

/-! ## Objects -/

/-- A member with a value of the grammar. -/
structure Part where
  name : String
  value : Value

/-- The member in writing. -/
def Part.member (p : Part) : Member := ⟨p.name, p.value.text⟩

/-- The members of an object on one line. -/
def compactEntries (ps : List Part) : List (Entry Value) :=
  ps.map fun p => ⟨.none, written p.name.toList, .none, .none, p.value, .none⟩

/-- A new line on the given level. -/
def Gap.newLine (level : Nat) : Gap where
  chars := Json.newLine level
  blank c hc := by
    obtain rfl | hc := List.mem_cons.mp hc
    · exact .inr (.inl rfl)
    · exact .inl (List.eq_of_mem_replicate hc)

/-- One space. -/
def Gap.one : Gap := ⟨[' '], by simp⟩

/-- The members of an object, each on a line of the level inside. -/
def indentedEntries (level : Nat) : List Part → List (Entry Value)
  | [] => []
  | [p] => [⟨.newLine (level + 1), written p.name.toList, .none, .one, p.value, .newLine level⟩]
  | p :: q :: ps =>
    ⟨.newLine (level + 1), written p.name.toList, .none, .one, p.value, .none⟩ ::
      indentedEntries level (q :: ps)

/-- A member with its value, and perhaps spaces in front of the value. -/
def Part.line (gap : Gap) (p : Part) : List Char := quote p.name.toList ++ ':' :: (gap.chars ++ p.value.text)

theorem moreEntries_compactEntries (ps : List Part) :
    moreEntries (compactEntries ps) = ps.flatMap fun p => ',' :: p.line .none := by
  induction ps with
  | nil => rfl
  | cons p ps ih =>
    rw [compactEntries, List.map_cons, ← compactEntries, moreEntries, ih, spelling_written, List.flatMap_cons]
    simp [Part.line, Gap.none, quote]

/-- **An object on one line** is a text of the grammar. -/
theorem compact_eq_text (ps : List Part) :
    compact (ps.map Part.member) = (Value.object .none (compactEntries ps)).text := by
  cases ps with
  | nil => rfl
  | cons p ps =>
    have rest := moreEntries_compactEntries ps
    rw [compactEntries] at rest
    rw [compact, List.map_cons, List.map_cons, Text.joined_cons, List.flatMap_map, List.flatMap_map, Value.text,
      compactEntries, List.map_cons, entriesText, rest, spelling_written]
    simp [Part.line, Part.member, Gap.none, quote]

/-- Behind the first line each line stands behind a comma, and the last one ends with the line of the closing
    brace. -/
theorem entriesText_indentedEntries (level : Nat) (p : Part) (ps : List Part) :
    entriesText (indentedEntries level (p :: ps)) = newLine (level + 1) ++ (p.line .one ++
      ((ps.flatMap fun q => ',' :: (newLine (level + 1) ++ q.line .one)) ++ newLine level)) := by
  induction ps generalizing p with
  | nil =>
    rw [indentedEntries, entriesText, moreEntries, spelling_written]
    simp [Part.line, Gap.newLine, Gap.none, quote]
  | cons q ps ih =>
    have comma : moreEntries (indentedEntries level (q :: ps)) =
        ',' :: entriesText (indentedEntries level (q :: ps)) := by
      cases ps <;> rfl
    rw [indentedEntries, entriesText, comma, ih q, spelling_written, List.flatMap_cons]
    simp [Part.line, Gap.newLine, Gap.none, quote]

/-- **An object on several lines** is a text of the grammar. -/
theorem indented_eq_text (level : Nat) (ps : List Part) :
    indented level (ps.map Part.member) = (Value.object .none (indentedEntries level ps)).text := by
  cases ps with
  | nil => rfl
  | cons p ps =>
    rw [indented, List.map_cons, List.map_cons, Text.joined_cons, List.flatMap_map, List.flatMap_map, Value.text,
      entriesText_indentedEntries]
    simp [Part.line, Part.member, Gap.none, Gap.one]

/-! ## What the members say -/

/-- What a member says that is to be written. -/
def Part.said (p : Part) : Option String × Content := (some p.name, p.value.content)

theorem said_compactEntries (ps : List Part) : (compactEntries ps).map Entry.said = ps.map Part.said := by
  simp [compactEntries, Entry.said, Entry.title?, Part.said, spelled?_written]

theorem said_indentedEntries (level : Nat) (ps : List Part) :
    (indentedEntries level ps).map Entry.said = ps.map Part.said := by
  cases ps with
  | nil => rfl
  | cons p ps =>
    induction ps generalizing p with
    | nil => simp [indentedEntries, Entry.said, Entry.title?, Part.said, spelled?_written]
    | cons q ps ih =>
      rw [indentedEntries, List.map_cons, ih q, List.map_cons, Entry.said, Entry.title?, spelled?_written]
      rfl

end PolicyDesk.Json
