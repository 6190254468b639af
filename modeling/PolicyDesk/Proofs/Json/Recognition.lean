import Mathlib.Tactic.SplitIfs
import PolicyDesk.Proofs.Json.Positions
import PolicyDesk.Proofs.Json.Tokens

/-!
# What is read is a value

The way back from the readers of objects and lists to the grammar. The brackets that are still open are a stack, and
what the stack demands of the rest of the text is written down as `Closes`.

* `exists_name`: the name of a member that is walked over, with its colon.
* `Closes`: the rest of the text closes all open brackets; `Demands`: what a stage of the walk demands of it.
* `walk_demands`, `exists_value`: so where the walk comes to an end, it has walked over a value.
* `Shape.Recognises`: where a field of a record is read, a value stands.
* `Shape.exists_entries`, `exists_items`, `exists_record`: so where a record is read, a value stands.
-/

namespace PolicyDesk.Json

variable {s r : List Glyph}

/-! ## Names -/

/-- The name of a member that is walked over, with its colon. -/
theorem exists_name (whole : Unbroken s) (h : skipName .outline s = .ok r) :
    ∃ (name : List Letter) (gap : Gap), s = .char '"' :: ((spelling name).map .char ++
      .char '"' :: (gap.chars.map .char ++ .char ':' :: r)) := by
  unfold skipName at h
  split at h
  · cases h
  · rename_i rest
    obtain ⟨t, walked, ended⟩ := bind_eq_ok h
    obtain ⟨name, rfl⟩ := exists_letters whole.tail walked
    obtain ⟨gap, split⟩ := exists_gap t
    split at ended
    · cases ended
    · rename_i colon
      cases ended
      rw [colon] at split
      exact ⟨name, gap, by rw [← split]⟩
    · cases ended
  · cases h

/-! ## The walk -/

/-- The text closes the open brackets one after another, behind a value, and is followed by the rest. -/
def Closes : List Bracket → List Glyph → List Glyph → Prop
  | [], s, r => s = r
  | .list :: up, s, r => ∃ (gap : Gap) (items : List (Item Value)) (t : List Glyph),
      s = gap.chars.map .char ++ ((moreItems items).map .char ++ .char ']' :: t) ∧ Closes up t r
  | .object :: up, s, r => ∃ (gap : Gap) (entries : List (Entry Value)) (t : List Glyph),
      s = gap.chars.map .char ++ ((moreEntries entries).map .char ++ .char '\x7d' :: t) ∧ Closes up t r

/-- What a stage of the walk demands of the text. -/
def Demands : Stage → List Bracket → List Glyph → List Glyph → Prop
  | .value, up, s, r => ∃ (gap : Gap) (v : Value) (t : List Glyph),
      s = gap.chars.map .char ++ (v.text.map .char ++ t) ∧ Closes up t r
  | .opened, .list :: up, s, r => ∃ (gap : Gap) (items : List (Item Value)) (t : List Glyph),
      s = gap.chars.map .char ++ ((itemsText items).map .char ++ .char ']' :: t) ∧ Closes up t r
  | .opened, .object :: up, s, r => ∃ (gap : Gap) (entries : List (Entry Value)) (t : List Glyph),
      s = gap.chars.map .char ++ ((entriesText entries).map .char ++ .char '\x7d' :: t) ∧ Closes up t r
  | .opened, [], s, r => s = r
  | .closed, up, s, r => Closes up s r

/-- **Where the walk comes to an end, the text is what it demanded.** The induction is on the walk. -/
theorem walk_demands {stage : Stage} {up : List Bracket} (whole : Unbroken s)
    (h : walk .outline stage up s = .ok r) : Demands stage up s r := by
  fun_induction walk .outline stage up s with
  | case1 => cases h
  | case2 s up rest next shorter full ih =>
    obtain ⟨gap, split⟩ := exists_gap_of_skipSpace next
    obtain ⟨within, items, t, rfl, closes⟩ := ih (whole.behind next) h
    refine ⟨gap, .list within items, t, ?_, closes⟩
    rw [split]
    simp [Value.text]
  | case3 => cases h
  | case4 s up rest next shorter full ih =>
    obtain ⟨gap, split⟩ := exists_gap_of_skipSpace next
    obtain ⟨within, entries, t, rfl, closes⟩ := ih (whole.behind next) h
    refine ⟨gap, .object within entries, t, ?_, closes⟩
    rw [split]
    simp [Value.text]
  -- a value without brackets, behind which the open brackets have to be closed
  | case5 s up t list object walked shorter ih =>
    obtain ⟨gap, split⟩ := exists_gap s
    rw [split] at whole
    obtain ⟨v, token⟩ := exists_scalar whole.right walked
    have rest : Unbroken t := (token ▸ whole.right).right
    exact ⟨gap, v, t, by rw [← token, ← split], ih rest h⟩
  | case6 => cases h
  | case7 s =>
    cases h
    rfl
  | case8 => cases h
  | case9 s up rest next shorter ih =>
    obtain ⟨gap, split⟩ := exists_gap_of_skipSpace next
    exact ⟨gap, [], rest, split, ih (whole.behind next) h⟩
  -- the first element of a list, which is not empty
  | case10 s up further other ih =>
    obtain ⟨before, v, t, rfl, after, items, q, rfl, closes⟩ := ih whole h
    refine ⟨.none, ⟨before, v, after⟩ :: items, q, ?_, closes⟩
    simp [itemsText, Gap.none]
  | case11 s up rest next shorter ih =>
    obtain ⟨gap, split⟩ := exists_gap_of_skipSpace next
    exact ⟨gap, [], rest, split, ih (whole.behind next) h⟩
  -- the first member of an object, which is not empty
  | case12 s up t other named shorter ih =>
    obtain ⟨gap, split⟩ := exists_gap s
    rw [split] at whole
    obtain ⟨name, beforeColon, token⟩ := exists_name whole.right named
    have rest : Unbroken t := by
      rw [token] at whole
      exact whole.right.tail.right.tail.right.tail
    obtain ⟨afterColon, v, q, rfl, after, entries, u, rfl, closes⟩ := ih rest h
    refine ⟨gap, ⟨.none, name, beforeColon, afterColon, v, after⟩ :: entries, u, ?_, closes⟩
    rw [split, token]
    simp [entriesText, Gap.none]
  | case13 => cases h
  | case14 s =>
    cases h
    rfl
  | case15 => cases h
  | case16 s up rest next shorter ih =>
    obtain ⟨gap, split⟩ := exists_gap_of_skipSpace next
    exact ⟨gap, [], rest, split, ih (whole.behind next) h⟩
  | case17 => cases h
  -- the next element or member behind a comma
  | case18 s up rest next shorter comma ih =>
    obtain ⟨gap, split⟩ := exists_gap_of_skipSpace next
    obtain ⟨before, v, t, rfl, after, items, q, rfl, closes⟩ := ih (whole.behind next) h
    refine ⟨gap, ⟨before, v, after⟩ :: items, q, ?_, closes⟩
    rw [split]
    simp [moreItems]
  | case19 => cases h
  | case20 => cases h
  | case21 s up rest next shorter ih =>
    obtain ⟨gap, split⟩ := exists_gap_of_skipSpace next
    exact ⟨gap, [], rest, split, ih (whole.behind next) h⟩
  | case22 => cases h
  | case23 s up rest next shorter comma t named shorter' ih =>
    obtain ⟨gap, split⟩ := exists_gap_of_skipSpace next
    obtain ⟨before, quote⟩ := exists_gap rest
    have behind := whole.behind next
    rw [quote] at behind
    obtain ⟨name, beforeColon, token⟩ := exists_name behind.right named
    have rest' : Unbroken t := by
      rw [token] at behind
      exact behind.right.tail.right.tail.right.tail
    obtain ⟨afterColon, v, q, rfl, after, entries, u, rfl, closes⟩ := ih rest' h
    refine ⟨gap, ⟨before, name, beforeColon, afterColon, v, after⟩ :: entries, u, ?_, closes⟩
    rw [split, quote, token]
    simp [moreEntries]
  | case24 => cases h
  | case25 => cases h

/-- **What is passed over is a value**, with spaces in front. -/
theorem exists_value (whole : Unbroken s) (h : skipValue .outline s = .ok r) :
    ∃ (gap : Gap) (v : Value), s = gap.chars.map .char ++ (v.text.map .char ++ r) := by
  obtain ⟨gap, v, t, split, rfl⟩ := walk_demands whole h
  exact ⟨gap, v, split⟩

/-! ## Records -/

namespace Shape

variable {Field Draft : Type} {shape : Shape Field Draft}

/-- Where a field of the record is read, a value stands, with spaces in front. -/
def Recognises (shape : Shape Field Draft) : Prop :=
  ∀ {f : Field} {d e : Draft} {s r : List Glyph}, Unbroken s → shape.read f d s = .ok (e, r) →
    ∃ (gap : Gap) (v : Value), s = gap.chars.map .char ++ (v.text.map .char ++ r)

theorem exists_colon (h : colon s = .ok r) : ∃ gap : Gap, s = gap.chars.map .char ++ .char ':' :: r := by
  unfold colon at h
  split at h
  · cases h
  · rename_i next
    cases h
    exact exists_gap_of_skipSpace next
  · cases h

/-- A member that is read has a name and a value. -/
theorem exists_entry (recognises : shape.Recognises) (whole : Unbroken s) {d e : Draft}
    (h : shape.member d s = .ok (e, r)) :
    ∃ (name : List Letter) (beforeColon afterColon : Gap) (v : Value), s = (spelling name).map .char ++
      .char '"' :: (beforeColon.chars.map .char ++ .char ':' :: (afterColon.chars.map .char ++
        (v.text.map .char ++ r))) := by
  unfold member at h
  obtain ⟨⟨text, t⟩, read, ended⟩ := bind_eq_ok h
  obtain ⟨name, rfl, -⟩ := exists_spelling whole read
  -- an unknown member and a known one both have a value behind the colon
  suffices valued : ∃ q, colon t = .ok q ∧ ∃ (gap : Gap) (v : Value),
      q = gap.chars.map .char ++ (v.text.map .char ++ r) by
    obtain ⟨q, separated, afterColon, v, rfl⟩ := valued
    obtain ⟨beforeColon, rfl⟩ := exists_colon separated
    exact ⟨name, beforeColon, afterColon, v, rfl⟩
  have behind : ∀ {q}, colon t = .ok q → Unbroken q := by
    intro q separated
    obtain ⟨beforeColon, rfl⟩ := exists_colon separated
    exact whole.right.tail.right.tail
  simp only at ended
  split at ended
  · obtain ⟨q, separated, ended⟩ := bind_eq_ok ended
    obtain ⟨u, skipped, ended⟩ := bind_eq_ok ended
    cases ended
    exact ⟨q, separated, exists_value (behind separated) skipped⟩
  · split at ended
    · cases ended
    · obtain ⟨q, separated, ended⟩ := bind_eq_ok ended
      exact ⟨q, separated, recognises (behind separated) ended⟩

/-- Where the next name is found, a quote stands in front of it, and a comma if it is not the first. -/
theorem exists_quote {first : Bool} {t : List Glyph} (h : nextName first s = .ok (some t)) :
    ∃ gap before : Gap, s = gap.chars.map .char ++ ((if first then [] else [.char ',']) ++
      (before.chars.map .char ++ .char '"' :: t)) := by
  obtain ⟨gap, split⟩ := exists_gap s
  unfold nextName at h
  split at h
  · cases h
  · cases h
  · split_ifs at h with only
    · subst only
      split at h
      · rename_i next
        cases h
        rw [next] at split
        exact ⟨gap, .none, split⟩
      · cases h
    · split at h
      · rename_i rest next
        rw [next] at split
        obtain ⟨before, behind⟩ := exists_gap rest
        split at h
        · cases h
        · rename_i quote
          cases h
          rw [quote] at behind
          refine ⟨gap, before, ?_⟩
          rw [split, behind, if_neg only]
          rfl
        · cases h
        · cases h
      · cases h

theorem exists_brace {first : Bool} (h : nextName first s = .ok none) :
    ∃ (gap : Gap) (t : List Glyph), s = gap.chars.map .char ++ .char '\x7d' :: t ∧ objectEnd s = t := by
  obtain ⟨gap, split⟩ := exists_gap s
  unfold nextName at h
  split at h
  · cases h
  · rename_i t close
    rw [close] at split
    refine ⟨gap, t, split, ?_⟩
    rw [split, objectEnd_gap]
  · split_ifs at h
    · split at h <;> cases h
    · split at h
      · split at h <;> cases h
      · cases h

/-- **The members that are read** are members up to the closing brace. The induction is on the reading. -/
theorem exists_entries (recognises : shape.Recognises) {first : Bool} {d e : Draft} (whole : Unbroken s)
    (h : shape.members first d s = .ok (e, r)) :
    ∃ (gap : Gap) (entries : List (Entry Value)),
      s = gap.chars.map .char ++ ((if first then entriesText entries else moreEntries entries).map .char ++
        .char '\x7d' :: objectEnd r) := by
  fun_induction members shape first d s with
  | case1 => cases h
  | case2 first d s close =>
    cases h
    obtain ⟨gap, t, split, rest⟩ := exists_brace close
    refine ⟨gap, [], ?_⟩
    rw [rest]
    cases first <;> exact split
  | case3 => cases h
  | case4 first d s t next d' u read shorter ih =>
    obtain ⟨gap, before, split⟩ := exists_quote next
    rw [split] at whole
    obtain ⟨name, beforeColon, afterColon, v, rfl⟩ := exists_entry recognises whole.right.right.right.tail read
    obtain ⟨after, entries, rfl⟩ := ih whole.right.right.right.tail.right.tail.right.tail.right.right h
    refine ⟨gap, ⟨before, name, beforeColon, afterColon, v, after⟩ :: entries, ?_⟩
    rw [split]
    cases first <;> simp [entriesText, moreEntries]

/-- Where the next element is found, a comma stands in front of it if it is not the first. -/
theorem exists_comma {first : Bool} {t : List Glyph} (h : nextElement first s = .ok (some t)) :
    ∃ gap before : Gap, s = gap.chars.map .char ++ ((if first then [] else [.char ',']) ++
      (before.chars.map .char ++ t)) := by
  obtain ⟨gap, split⟩ := exists_gap s
  unfold nextElement at h
  split at h
  · cases h
  · cases h
  · split_ifs at h with only
    · cases h
      subst only
      exact ⟨gap, .none, split⟩
    · split at h
      · rename_i rest next
        rw [next] at split
        obtain ⟨before, behind⟩ := exists_gap rest
        split at h
        · cases h
        · cases h
        · cases h
          refine ⟨gap, before, ?_⟩
          rw [if_neg only, ← behind]
          exact split
      · cases h

/-- **The elements that are read** are elements up to the closing bracket. The induction is on the fields. -/
theorem exists_items (recognises : shape.Recognises) {first : Bool} {fs : List Field} {d e : Draft} {t : List Glyph}
    (whole : Unbroken s) (h : shape.positions first fs d s = .ok (e, r)) (close : closeList r = .ok t) :
    ∃ (gap : Gap) (items : List (Item Value)),
      s = gap.chars.map .char ++ ((if first then itemsText items else moreItems items).map .char ++
        .char ']' :: t) := by
  induction fs generalizing first d s with
  | nil =>
    cases h
    unfold closeList at close
    split at close
    · cases close
    · rename_i next
      cases close
      obtain ⟨gap, split⟩ := exists_gap_of_skipSpace next
      refine ⟨gap, [], ?_⟩
      cases first <;> exact split
    · split at close <;> cases close
    · cases close
  | cons f fs ih =>
    rw [positions] at h
    obtain ⟨o, next, h⟩ := bind_eq_ok h
    cases o with
    | none =>
      simp only at h
      split at h
      · exact ih whole h
      · cases h
    | some q =>
      obtain ⟨⟨d', u⟩, read, ended⟩ := bind_eq_ok h
      obtain ⟨gap, before, split⟩ := exists_comma next
      rw [split] at whole
      obtain ⟨within, v, rfl⟩ := recognises whole.right.right.right read
      obtain ⟨after, items, rfl⟩ := ih whole.right.right.right.right.right ended
      refine ⟨gap, ⟨before.append within, v, after⟩ :: items, ?_⟩
      rw [split]
      cases first <;> simp [itemsText, moreItems, Gap.append]

/-- **Where a record is read, a value stands**, with spaces in front. -/
theorem exists_record (recognises : shape.Recognises) {α : Type} {make : Draft → Except Cause α} {a : α}
    (whole : Unbroken s) (h : shape.record make s = .ok (a, r)) :
    ∃ (gap : Gap) (v : Value), s = gap.chars.map .char ++ (v.text.map .char ++ r) := by
  obtain ⟨gap, split⟩ := exists_gap s
  rw [split] at whole
  unfold record at h
  split at h
  · cases h
  · rename_i rest next
    rw [next] at split whole
    split at h
    · rename_i a' t read
      obtain ⟨d, positions⟩ := complete_eq_ok read
      obtain ⟨q, close, same⟩ := map_eq_ok h
      cases same
      obtain ⟨within, items, rfl⟩ := exists_items recognises whole.right.tail positions close
      refine ⟨gap, .list within items, ?_⟩
      rw [split]
      simp [Value.text]
    · cases h
  · rename_i rest next
    rw [next] at split whole
    split at h
    · rename_i a' t read
      obtain ⟨d, members⟩ := complete_eq_ok read
      cases h
      obtain ⟨within, entries, rfl⟩ := exists_entries recognises whole.right.tail members
      refine ⟨gap, .object within entries, ?_⟩
      rw [split]
      simp [Value.text]
    · cases h
  · cases h

end Shape

end PolicyDesk.Json
