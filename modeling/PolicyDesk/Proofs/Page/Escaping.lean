import PolicyDesk.Page.Markup

/-!
# Escaped texts

* `marks`: the characters that would end a text in markup, or start something else.
* `entities`: what the escaped characters are written as; `unescape` reads them.
* `unescape_escape`: reading undoes writing, so no text is lost (`escape_injective`).
* `Escaped`: a text as it may stand in markup; `escape_escaped`: every text is escaped so.
-/

namespace PolicyDesk.Page

/-- The characters that would end a text in markup, or start something else: angle brackets and quotes. -/
def marks : List Char := ['<', '>', '"', Char.ofNat 0x27]

/-- What escaped characters are written as. -/
def entities : List (List Char) := ["&amp;", "&lt;", "&gt;", "&quot;", "&#x27;", "&#x2F;"].map String.toList

/-- Reads entities as the characters that they stand for. -/
def unescape : List Char → List Char
  | '&' :: 'a' :: 'm' :: 'p' :: ';' :: rest => '&' :: unescape rest
  | '&' :: 'l' :: 't' :: ';' :: rest => '<' :: unescape rest
  | '&' :: 'g' :: 't' :: ';' :: rest => '>' :: unescape rest
  | '&' :: 'q' :: 'u' :: 'o' :: 't' :: ';' :: rest => '"' :: unescape rest
  | '&' :: '#' :: 'x' :: '2' :: '7' :: ';' :: rest => Char.ofNat 0x27 :: unescape rest
  | '&' :: '#' :: 'x' :: '2' :: 'F' :: ';' :: rest => '/' :: unescape rest
  | c :: rest => c :: unescape rest
  | [] => []

variable {c : Char} {s : List Char}

/-! ## One character -/

/-- A character is written as an entity, which is read as this character, or it stands for itself. -/
theorem escapeChar_cases (c : Char) :
    escapeChar c ∈ entities ∧ (∀ rest, unescape (escapeChar c ++ rest) = c :: unescape rest) ∨
      escapeChar c = [c] ∧ c ≠ '&' ∧ c ∉ marks := by
  unfold escapeChar
  by_cases amp : c = '&'
  · subst amp
    exact .inl ⟨by decide, fun _ => rfl⟩
  by_cases lt : c = '<'
  · subst lt
    exact .inl ⟨by decide, fun _ => rfl⟩
  by_cases gt : c = '>'
  · subst gt
    exact .inl ⟨by decide, fun _ => rfl⟩
  by_cases quote : c = '"'
  · subst quote
    exact .inl ⟨by decide, fun _ => rfl⟩
  by_cases apostrophe : c = Char.ofNat 0x27
  · subst apostrophe
    exact .inl ⟨by decide, fun _ => rfl⟩
  by_cases slash : c = '/'
  · subst slash
    exact .inl ⟨by decide, fun _ => rfl⟩
  have code : c.toNat ≠ 0x27 := fun h => apostrophe (by rw [← h, Char.ofNat_toNat])
  refine .inr ⟨?_, amp, ?_⟩
  · rw [if_neg amp, if_neg lt, if_neg gt, if_neg quote, if_neg code, if_neg slash]
  · simp [marks, lt, gt, quote, apostrophe]

/-- An entity starts with its only ampersand, and has no marks in it. -/
theorem entity_shape : ∀ e ∈ entities, e.head? = some '&' ∧ '&' ∉ e.tail ∧ e.all (· ∉ marks) = true := by
  decide

/-! ## Texts -/

theorem escape_cons (c : Char) (s : List Char) : escape (c :: s) = escapeChar c ++ escape s := rfl

theorem unescape_cons (h : c ≠ '&') (rest : List Char) : unescape (c :: rest) = c :: unescape rest := by
  rw [unescape]
  all_goals
    intro _ amp _
    exact h amp

/-- **Reading undoes writing.** -/
theorem unescape_escape (s : List Char) : unescape (escape s) = s := by
  induction s with
  | nil => rfl
  | cons c s ih =>
    rw [escape_cons]
    obtain ⟨-, read⟩ | ⟨same, plain, -⟩ := escapeChar_cases c
    · rw [read, ih]
    · rw [same, List.singleton_append, unescape_cons plain, ih]

/-- Different texts are written differently. -/
theorem escape_injective {s t : List Char} (h : escape s = escape t) : s = t := by
  rw [← unescape_escape s, h, unescape_escape]

theorem not_mem_marks_of_mem_escape (h : c ∈ escape s) : c ∉ marks := by
  obtain ⟨d, -, hc⟩ := List.mem_flatMap.mp h
  obtain ⟨entity, -⟩ | ⟨same, -, plain⟩ := escapeChar_cases d
  · have plain := List.all_eq_true.mp (entity_shape _ entity).2.2 c hc
    exact of_decide_eq_true plain
  · rw [same, List.mem_singleton] at hc
    exact hc ▸ plain

/-- An ampersand in an escaped text starts the entity of a character of the text. -/
theorem ampersand_of_escape {a b : List Char} (h : escape s = a ++ '&' :: b) :
    ∃ before c after, s = before ++ c :: after ∧ escapeChar c ∈ entities ∧
      a = escape before ∧ '&' :: b = escapeChar c ++ escape after := by
  induction s generalizing a with
  | nil =>
    have empty : escape [] = [] := rfl
    rw [empty] at h
    exact absurd h.symm (by simp)
  | cons c s ih =>
    rw [escape_cons] at h
    -- the ampersand is in the text behind this character, or in what the character is written as
    obtain ⟨more, left, right⟩ | ⟨more, left, right⟩ := List.append_eq_append_iff.mp h
    · obtain ⟨before, d, after, rfl, entity, rfl, behind⟩ := ih right
      exact ⟨c :: before, d, after, rfl, entity, left, behind⟩
    · cases a with
      | nil =>
        obtain ⟨entity, -⟩ | ⟨same, plain, -⟩ := escapeChar_cases c
        · exact ⟨[], c, s, rfl, entity, rfl, h.symm⟩
        · rw [same, List.singleton_append, List.nil_append] at h
          exact absurd (List.cons.inj h).1 plain
      | cons first a =>
        cases more with
        | nil =>
          obtain ⟨before, d, after, rfl, entity, empty, behind⟩ := ih (a := []) right.symm
          refine ⟨c :: before, d, after, rfl, entity, ?_, behind⟩
          rw [escape_cons, ← empty, List.append_nil, left, List.append_nil]
        | cons second more =>
          have amp : second = '&' := (List.cons.inj right).1.symm
          obtain ⟨entity, -⟩ | ⟨same, -, -⟩ := escapeChar_cases c
          · have only := (entity_shape _ entity).2.1
            rw [left, amp] at only
            exact absurd (List.mem_append_right a List.mem_cons_self) only
          · rw [same] at left
            exact absurd (congrArg List.length left) (by simp)

/-- A text as it may stand in markup: it has no marks, an ampersand only starts the entity of a character of the
    text, and reading the entities gives the text back. -/
structure Escaped (s written : List Char) : Prop where
  plain : ∀ c ∈ written, c ∉ marks
  ampersand : ∀ a b, written = a ++ '&' :: b → ∃ before c after, s = before ++ c :: after ∧
    escapeChar c ∈ entities ∧ a = escape before ∧ '&' :: b = escapeChar c ++ escape after
  back : unescape written = s

/-- **Every text is escaped** as it may stand in markup. -/
theorem escape_escaped (s : List Char) : Escaped s (escape s) where
  plain _ := not_mem_marks_of_mem_escape
  ampersand _ _ := ampersand_of_escape
  back := unescape_escape s

end PolicyDesk.Page
