import PolicyDesk.Proofs.Json.Data
import PolicyDesk.Proofs.Json.Lists
import PolicyDesk.Proofs.Json.Objects

/-!
# Lists are read element by element

A list of values of one kind, and a record that is written as the list of its values.

* `nextElement_close`, `nextElement_first`, `nextElement_comma`: where the next element starts, whatever the spaces.
* `Shape.place`: what the elements of a list do to a draft, in the order of the fields; `positions_items`.
* `Shape.value?`: what a record makes of a value, as an object or as a list; `record_value`: so it is read.
* `Reader.Makes`: a reader makes of every value what it should, and leaves what follows.
* `list_items`: so a list is read as what its elements are, if each of them is something.
* `list_trailingComma`: a comma behind the last element is a fault.
-/

namespace PolicyDesk.Json

variable {s : List Glyph}

/-! ## The next element -/

theorem none_append (s : List Glyph) : Gap.none.chars.map .char ++ s = s := rfl

theorem nextElement_close (first : Bool) (gap : Gap) (s : List Glyph) :
    nextElement first (gap.chars.map .char ++ .char ']' :: s) = .ok none := by
  rw [nextElement, skipSpace_token gap (by decide)]
  rfl

theorem nextElement_first (gap : Gap) (v : Value) (s : List Glyph) :
    nextElement true (gap.chars.map .char ++ (v.text.map .char ++ s)) = .ok (some (v.text.map .char ++ s)) := by
  obtain ⟨c, t, starts, front, behind⟩ := skipSpace_starts v gap s
  rw [nextElement, behind, front]
  split
  · rename_i heq
    cases heq
  · rename_i heq
    cases heq
    exact absurd rfl starts.ne.2.1
  · rfl

/-- Behind a comma the next element starts, unless the list ends there. -/
theorem nextElement_separator (gap : Gap) (s : List Glyph) :
    nextElement false (gap.chars.map .char ++ .char ',' :: s) =
      match skipSpace s with
      | [] => .error (.before .endInValue [])
      | .char ']' :: t => .error (.behind .trailingComma (.char ']' :: t))
      | t => .ok (some t) := by
  rw [nextElement, skipSpace_token gap (by decide)]
  rfl

theorem nextElement_comma (gap before : Gap) (v : Value) (s : List Glyph) :
    nextElement false (gap.chars.map .char ++ .char ',' :: (before.chars.map .char ++ (v.text.map .char ++ s))) =
      .ok (some (v.text.map .char ++ s)) := by
  obtain ⟨c, t, starts, front, behind⟩ := skipSpace_starts v before s
  rw [nextElement_separator, behind, front]
  split
  · rename_i heq
    cases heq
  · rename_i heq
    cases heq
    exact absurd rfl starts.ne.2.1
  · rfl

theorem nextElement_trailingComma (gap before : Gap) (s : List Glyph) :
    (nextElement false (gap.chars.map .char ++ .char ',' :: (before.chars.map .char ++ .char ']' :: s))).toOption =
      none := by
  rw [nextElement_separator, skipSpace_token before (by decide)]
  rfl

theorem closeList_gap (gap : Gap) (s : List Glyph) : closeList (gap.chars.map .char ++ .char ']' :: s) = .ok s := by
  rw [closeList, skipSpace_token gap (by decide)]
  rfl

/-- A list with a further element is not closed. -/
theorem closeList_moreItems (gap : Gap) (item : Item Value) (items : List (Item Value)) (s : List Glyph) :
    (closeList (gap.chars.map .char ++ ((moreItems (item :: items)).map .char ++ s))).toOption = none := by
  rw [moreItems, List.map_cons, List.cons_append, closeList, skipSpace_token gap (by decide)]
  simp only
  split <;> rfl

theorem closeList_value (gap : Gap) (v : Value) (s : List Glyph) :
    (closeList (gap.chars.map .char ++ (v.text.map .char ++ s))).toOption = none := by
  obtain ⟨c, t, starts, front, behind⟩ := skipSpace_starts v gap s
  rw [closeList, behind]
  split
  · rfl
  · rename_i heq
    cases heq
    exact absurd rfl starts.ne.2.1
  · rename_i heq
    cases heq
    exact absurd rfl starts.ne.2.2.2
  · rfl

/-! ## Records as lists -/

namespace Shape

variable {Field Draft : Type} {shape : Shape Field Draft} {put : Field → Content → Draft → Option Draft}

/-- What the elements of a list do to a draft, one after another in the order of the fields. The list may end before
    a field that is not required, and must not go on behind the last one. -/
def place (shape : Shape Field Draft) (put : Field → Content → Draft → Option Draft) :
    List Field → Draft → List (Item Value) → Option Draft
  | [], d, [] => some d
  | [], _, _ :: _ => none
  | f :: fs, d, [] => (shape.skipped f d).bind fun d => place shape put fs d []
  | f :: fs, d, item :: items => (put f item.value.content d).bind fun d => place shape put fs d items

/-- The draft together with what follows the closing bracket. -/
def closed (p : Draft × List Glyph) : Option (Draft × List Glyph) :=
  (closeList p.2).toOption.map fun rest => (p.1, rest)

section

variable {first : Bool} {f : Field} {fs : List Field} {d : Draft} {t : List Glyph}

theorem positions_none (h : nextElement first s = .ok none) :
    (shape.positions first (f :: fs) d s).toOption =
      (shape.skipped f d).bind fun d => (shape.positions first fs d s).toOption := by
  rw [positions, h]
  simp only [bind, Except.bind]
  cases shape.skipped f d <;> rfl

theorem positions_some (h : nextElement first s = .ok (some t)) :
    (shape.positions first (f :: fs) d s).toOption =
      (shape.read f d t).toOption.bind fun p => (shape.positions false fs p.1 p.2).toOption := by
  rw [positions, h]
  simp only [bind, Except.bind]
  cases shape.read f d t <;> rfl

end

/-- Fields behind the last element are left out if they may. -/
theorem positions_close (first : Bool) (fs : List Field) (d : Draft) (gap : Gap) (s : List Glyph) :
    (shape.positions first fs d (gap.chars.map .char ++ .char ']' :: s)).toOption.bind closed =
      (shape.place put fs d []).map fun d => (d, s) := by
  induction fs generalizing d with
  | nil =>
    rw [positions, toOption_ok, Option.bind_some, closed, closeList_gap]
    rfl
  | cons f fs ih =>
    rw [positions_none (nextElement_close first gap s), place]
    cases shape.skipped f d with
    | none => rfl
    | some d => exact ih d

/-- A field is read from its element, and what follows goes on. -/
theorem positions_element (reads : shape.Reads put) {first : Bool} {f : Field} {fs : List Field} {d : Draft} {v : Value}
    {s t : List Glyph} (hs : EndsNumber s) (next : nextElement first t = .ok (some (v.text.map .char ++ s))) :
    (shape.positions first (f :: fs) d t).toOption =
      (put f v.content d).bind fun d => (shape.positions false fs d s).toOption := by
  have read := reads f d Gap.none v s hs
  rw [none_append] at read
  rw [positions_some next, read, Option.bind_map]
  rfl

/-- The elements behind the first one are read as they are placed. The induction is on the elements; the fields go
    along with them. -/
theorem positions_moreItems (reads : shape.Reads put) (items : List (Item Value)) (fs : List Field) (d : Draft)
    (gap : Gap) (s : List Glyph) :
    (shape.positions false fs d
      (gap.chars.map .char ++ ((moreItems items).map .char ++ .char ']' :: s))).toOption.bind closed =
      (shape.place put fs d items).map fun d => (d, s) := by
  induction items generalizing fs d gap with
  | nil =>
    rw [moreItems, List.map_nil, List.nil_append]
    exact positions_close false fs d gap s
  | cons item items ih =>
    cases fs with
    | nil => rw [positions, toOption_ok, Option.bind_some, closed, closeList_moreItems, place]; rfl
    | cons f fs =>
      have ends := endsNumber_gap item.after (endsNumber_moreItems items s)
      have next := nextElement_comma gap item.before item.value
        (item.after.chars.map .char ++ ((moreItems items).map .char ++ .char ']' :: s))
      simp only [moreItems, List.map_cons, List.map_append, List.cons_append, List.append_assoc]
      rw [positions_element reads ends next, place]
      cases put f item.value.content d with
      | none => rfl
      | some d => exact ih fs d item.after

/-- **The elements of a list are read as they are placed.** -/
theorem positions_items (reads : shape.Reads put) (items : List (Item Value)) (fs : List Field) (d : Draft)
    (gap : Gap) (s : List Glyph) :
    (shape.positions true fs d
      (gap.chars.map .char ++ ((itemsText items).map .char ++ .char ']' :: s))).toOption.bind closed =
      (shape.place put fs d items).map fun d => (d, s) := by
  cases items with
  | nil =>
    rw [itemsText, List.map_nil, List.nil_append]
    exact positions_close true fs d gap s
  | cons item items =>
    obtain ⟨before, v, after⟩ := item
    rw [itemsText_cons]
    cases fs with
    | nil => rw [positions, toOption_ok, Option.bind_some, closed, closeList_value, place]; rfl
    | cons f fs =>
      have ends := endsNumber_gap after (endsNumber_moreItems items s)
      rw [positions_element reads ends (nextElement_first _ v _), place]
      cases put f v.content d with
      | none => rfl
      | some d => exact positions_moreItems reads items fs d after s

/-! ## Records -/

variable {α : Type}

/-- What a record makes of a value. -/
def value? (shape : Shape Field Draft) (put : Field → Content → Draft → Option Draft) (make : Draft → Except Cause α) :
    Value → Option α
  | .list _ items => (shape.place put shape.fields shape.blank items).bind fun d => (make d).toOption
  | .object _ entries => (shape.fill put shape.blank entries).bind fun d => (make d).toOption
  | _ => none

/-- The draft is made before the bracket is closed, but neither has a say in the other. -/
theorem complete_closed (make : Draft → Except Cause α) (p : Draft × List Glyph) :
    ((complete make p).toOption.bind fun q => (closeList q.2).toOption.map fun r => (q.1, r)) =
      (closed p).bind fun q => (make q.1).toOption.map fun a => (a, q.2) := by
  unfold complete closed
  cases made : make p.1 <;> cases close : closeList p.2 <;> simp [made, close]

theorem record_list (reads : shape.Reads put) (make : Draft → Except Cause α) (before gap : Gap)
    (items : List (Item Value)) (s : List Glyph) :
    (shape.record make (before.chars.map .char ++ ((Value.list gap items).text.map .char ++ s))).toOption =
      (shape.value? put make (.list gap items)).map fun a => (a, s) := by
  have start := skipSpace_value before (.list gap items) s
  have placed := positions_items reads items shape.fields shape.blank gap s
  simp only [Value.text, List.map_cons, List.map_append, List.map_nil, List.cons_append, List.nil_append,
    List.append_assoc] at start ⊢
  unfold record
  rw [start]
  simp only
  generalize gap.chars.map Glyph.char ++ ((itemsText items).map .char ++ .char ']' :: s) = t at *
  have both : (((shape.positions true shape.fields shape.blank t).bind (complete make)).toOption.bind fun q =>
        (closeList q.2).toOption.map fun r => (q.1, r)) =
      (shape.value? put make (.list gap items)).map fun a => (a, s) := by
    rw [toOption_bind, Option.bind_assoc, funext (complete_closed make), ← Option.bind_assoc, placed, value?,
      Option.map_bind, Option.bind_map]
    rfl
  rw [← both]
  cases (shape.positions true shape.fields shape.blank t).bind (complete make) with
  | error f => rfl
  | ok q => exact toOption_map _ _

/-- **A record is read from a value as it should be**, and what follows the value is left. -/
theorem record_value (reads : shape.Reads put) (make : Draft → Except Cause α) (gap : Gap) (v : Value)
    (s : List Glyph) :
    (shape.record make (gap.chars.map .char ++ (v.text.map .char ++ s))).toOption =
      (shape.value? put make v).map fun a => (a, s) := by
  obtain ⟨c, t, starts, front, behind⟩ := skipSpace_starts v gap s
  have other : c ≠ '[' → c ≠ '\x7b' →
      (shape.record make (gap.chars.map .char ++ (v.text.map .char ++ s))).toOption = none := by
    intro list object
    unfold record
    rw [behind]
    split
    · rfl
    · rename_i heq
      cases heq
      exact absurd rfl list
    · rename_i heq
      cases heq
      exact absurd rfl object
    · rfl
  cases v with
  | list within items => exact record_list reads make gap within items s
  | object within entries =>
    rw [record_object reads make gap within entries s]
    rfl
  | null =>
    cases starts
    exact other (by decide) (by decide)
  | boolean b => exact other (by cases b <;> cases starts <;> decide) (by cases b <;> cases starts <;> decide)
  | number n =>
    refine other ?_ ?_
    · rintro rfl
      obtain h | h := starts <;> cases h
    · rintro rfl
      obtain h | h := starts <;> cases h
  | string ls =>
    cases starts
    exact other (by decide) (by decide)

end Shape

/-! ## Lists of values of one kind -/

section

variable {α : Type} {item : Reader α} {value? : Value → Option α}

/-- The reader makes of every value what `value?` says, whatever follows it. -/
def Reader.Makes (item : Reader α) (value? : Value → Option α) : Prop :=
  ∀ (v : Value) (s : List Glyph), EndsNumber s →
    (item.read (v.text.map .char ++ s)).toOption = (value? v).map fun a => (a, s)

/-- What the elements of a list are, if each of them is something. -/
def itemsValues? (value? : Value → Option α) (items : List (Item Value)) : Option (List α) :=
  items.mapM fun item => value? item.value

theorem elements_next {first : Bool} {t : List Glyph} (h : nextElement first s = .ok (some t)) :
    (elements item first s).toOption = (item.read t).toOption.bind fun p =>
      (elements item false p.2).toOption.map fun q => (p.1 :: q.1, q.2) := by
  cases read : item.read t with
  | ok p =>
    rw [elements_some h read, toOption_map]
    rfl
  | error f =>
    rw [elements]
    split
    · rfl
    · rename_i heq
      rw [h] at heq
      cases heq
    · rename_i t' heq
      rw [h] at heq
      cases heq
      split
      · rfl
      · rename_i heq
        rw [read] at heq
        cases heq

theorem elements_fault {first : Bool} (h : (nextElement first s).toOption = none) :
    (elements item first s).toOption = none := by
  rw [elements]
  split
  · rfl
  · rename_i heq
    rw [heq] at h
    cases h
  · rename_i heq
    rw [heq] at h
    cases h

/-- Spaces before the next element do not matter. -/
theorem elements_gap (first : Bool) (gap : Gap) (s : List Glyph) :
    (elements item first (gap.chars.map .char ++ s)).toOption = (elements item first s).toOption := by
  have next : nextElement first (gap.chars.map .char ++ s) = nextElement first s := by
    rw [nextElement, skipSpace_gap]
    rfl
  have close : closeList (gap.chars.map .char ++ s) = closeList s := by
    rw [closeList, skipSpace_gap]
    rfl
  cases h : (nextElement first s).toOption with
  | none => rw [elements_fault h, elements_fault (next ▸ h)]
  | some o =>
    rw [toOption_eq_some_iff] at h
    cases o with
    | none => rw [elements_none h, elements_none (next.trans h), close]
    | some t => rw [elements_next h, elements_next (next.trans h)]

/-- The elements behind the first one are read one by one, and the list goes on. The induction is on the
    elements. -/
theorem elements_moreItems (makes : item.Makes value?) (items : List (Item Value)) (hs : EndsNumber s) :
    (elements item false ((moreItems items).map .char ++ s)).toOption =
      (itemsValues? value? items).bind fun as =>
        (elements item false s).toOption.map fun q => (as ++ q.1, q.2) := by
  have start : ∀ items, EndsNumber ((moreItems items).map .char ++ s) := by
    intro items
    cases items with
    | nil => exact hs
    | cons i items => exact endsNumber_cons (by decide) (by decide) (by decide) _
  induction items with
  | nil =>
    change (elements item false s).toOption = (elements item false s).toOption.map id
    rw [Option.map_id_fun, id]
  | cons i items ih =>
    have next := nextElement_comma Gap.none i.before i.value
      (i.after.chars.map .char ++ ((moreItems items).map .char ++ s))
    rw [none_append] at next
    simp only [moreItems, List.map_cons, List.map_append, List.cons_append, List.append_assoc]
    rw [elements_next next, makes i.value _ (endsNumber_gap i.after (start items)), itemsValues?, List.mapM_cons]
    cases value? i.value with
    | none => rfl
    | some a =>
      simp only [Option.map_some, Option.bind_some, elements_gap, ih, itemsValues?]
      cases List.mapM (fun item => value? item.value) items with
      | none => rfl
      | some as =>
        simp only [Option.bind_some, Option.map_map]
        rfl

/-- **The elements of a list are read one by one**, and then the list goes on. -/
theorem elements_items (makes : item.Makes value?) (gap : Gap) (items : List (Item Value)) (hs : EndsNumber s) :
    (elements item true (gap.chars.map .char ++ ((itemsText items).map .char ++ s))).toOption =
      (itemsValues? value? items).bind fun as =>
        (elements item items.isEmpty s).toOption.map fun q => (as ++ q.1, q.2) := by
  cases items with
  | nil =>
    rw [elements_gap]
    change (elements item true s).toOption = (elements item true s).toOption.map id
    rw [Option.map_id_fun, id]
  | cons i items =>
    -- the element comes as it would behind a comma
    have behind := elements_moreItems makes (i :: items) hs
    have comma := nextElement_comma Gap.none i.before i.value
      (i.after.chars.map .char ++ ((moreItems items).map .char ++ s))
    rw [none_append] at comma
    have first := nextElement_first (gap.append i.before) i.value
      (i.after.chars.map .char ++ ((moreItems items).map .char ++ s))
    simp only [moreItems, List.map_cons, List.map_append, List.cons_append, List.append_assoc] at behind
    rw [elements_next comma] at behind
    rw [itemsText_cons, elements_next first]
    exact behind

/-! ## Lists -/

theorem list_bracket (before : Gap) (s : List Glyph) :
    (list item (before.chars.map .char ++ .char '[' :: s)).toOption = (elements item true s).toOption := by
  rw [list, skipSpace_token before (by decide)]
  simp only
  cases elements item true s <;> rfl

/-- **A list is read as what its elements are**, if each of them is something, and what follows it is left. -/
theorem list_items (makes : item.Makes value?) (before gap : Gap) (items : List (Item Value)) (s : List Glyph) :
    (list item (before.chars.map .char ++ ((Value.list gap items).text.map .char ++ s))).toOption =
      (itemsValues? value? items).map fun as => (as, s) := by
  have closed : ∀ first, elements item first (.char ']' :: s) = .ok ([], s) := by
    intro first
    have next := nextElement_close first Gap.none s
    have close := closeList_gap Gap.none s
    rw [none_append] at next close
    rw [elements_none next, close]
    rfl
  simp only [Value.text, List.map_cons, List.map_append, List.map_nil, List.cons_append, List.nil_append,
    List.append_assoc]
  rw [list_bracket, elements_items makes gap items (endsNumber_cons (by decide) (by decide) (by decide) s), closed]
  cases itemsValues? value? items with
  | none => rfl
  | some as => simp

/-- **A comma behind the last element is a fault**, and so is one where no element is. -/
theorem list_trailingComma (makes : item.Makes value?) (comma : ∀ s, (item.read (.char ',' :: s)).toOption = none)
    (before gap space : Gap) (items : List (Item Value)) (s : List Glyph) :
    (list item (before.chars.map .char ++ .char '[' :: (gap.chars.map .char ++ ((itemsText items).map .char ++
      .char ',' :: (space.chars.map .char ++ .char ']' :: s))))).toOption = none := by
  have refused : ∀ first,
      (elements item first (.char ',' :: (space.chars.map .char ++ .char ']' :: s))).toOption = none := by
    intro first
    cases first with
    | true => rw [elements_next rfl, comma]; rfl
    | false =>
      have next := nextElement_trailingComma Gap.none space s
      rw [none_append] at next
      exact elements_fault next
  rw [list_bracket, elements_items makes gap items (endsNumber_cons (by decide) (by decide) (by decide) _), refused]
  cases itemsValues? value? items <;> rfl

end

end PolicyDesk.Json
