import PolicyDesk.Proofs.Page.Escaping
import PolicyDesk.Web.Site

/-!
# The outline of the page

A page without the texts it shows is its outline: markup with holes. The outline is settled by how many policies
there are, which of them are active, what is in the form, and whether there is an error. No text that is stored
or comes from the service has a say in it.

* `outline`, `texts`, `fill`: a page is its outline with its texts, escaped, in the holes.
* `Shape`: what settles the outline; `Shape.outline`: the outline, written down without any text.
* `outline_ofDesk`: the page of a desk has the outline of its shape.
* `Shape.HasRows`, `Shape.hasRows`: the outline has a row for each policy, in their order.
* `Desk.texts`, `texts_ofDesk`: the texts of the page, field by field.
-/

namespace PolicyDesk

namespace Page

/-! ## Markup with holes -/

/-- A piece without the text that it shows. -/
def Piece.outline : Piece → Option String
  | markup text => some text
  | shown _ => none

/-- The text that a piece shows. -/
def Piece.text? : Piece → Option String
  | markup _ => none
  | shown text => some text

/-- Markup with holes for the texts that are shown. -/
def outline (ps : List Piece) : List (Option String) := ps.map Piece.outline

/-- The texts that are shown, in order. -/
def texts (ps : List Piece) : List String := ps.filterMap Piece.text?

/-- Markup with something in its holes. -/
def fill : List (Option String) → List (List Char) → List Char
  | [], _ => []
  | some markup :: rest, inserted => markup.toList ++ fill rest inserted
  | none :: rest, first :: inserted => first ++ fill rest inserted
  | none :: rest, [] => fill rest []

/-- A page is its outline with its texts, escaped, in the holes. -/
theorem fill_outline (ps : List Piece) :
    fill (outline ps) ((texts ps).map fun t => escape t.toList) = ps.flatMap Piece.render := by
  induction ps with
  | nil => rfl
  | cons p ps ih =>
    cases p with
    | markup text => exact congrArg (text.toList ++ ·) ih
    | shown text => exact congrArg (escape text.toList ++ ·) ih

/-- There is a hole for each text. -/
theorem count_none_outline (ps : List Piece) : (outline ps).count none = (texts ps).length := by
  induction ps with
  | nil => rfl
  | cons p ps ih =>
    cases p with
    | markup text =>
      rw [outline, List.map_cons, Piece.outline, List.count_cons_of_ne (by simp)]
      exact ih
    | shown text =>
      rw [outline, List.map_cons, Piece.outline, List.count_cons_self]
      exact congrArg (· + 1) ih

@[simp] theorem outline_nil : outline [] = [] := rfl

@[simp] theorem outline_cons (p : Piece) (ps : List Piece) : outline (p :: ps) = p.outline :: outline ps := rfl

@[simp] theorem outline_append (ps qs : List Piece) : outline (ps ++ qs) = outline ps ++ outline qs :=
  List.map_append

theorem outline_flatMap {α : Type} (f : α → List Piece) (as : List α) :
    outline (as.flatMap f) = as.flatMap fun a => outline (f a) :=
  List.map_flatMap

@[simp] theorem texts_nil : texts [] = [] := rfl

@[simp] theorem texts_markup (t : String) (ps : List Piece) : texts (.markup t :: ps) = texts ps := rfl

@[simp] theorem texts_shown (t : String) (ps : List Piece) : texts (.shown t :: ps) = t :: texts ps := rfl

@[simp] theorem texts_append (ps qs : List Piece) : texts (ps ++ qs) = texts ps ++ texts qs :=
  List.filterMap_append

theorem texts_flatMap {α : Type} (f : α → List Piece) (as : List α) :
    texts (as.flatMap f) = as.flatMap fun a => texts (f a) :=
  List.filterMap_flatMap

/-! ## Shapes -/

/-- What settles the outline of the page. -/
structure Shape where
  /-- For each policy, whether it is active. -/
  rows : List Bool
  /-- Whether the policy in the form is new. -/
  isNew : Bool
  /-- Whether the policy in the form is active. -/
  active : Bool
  /-- Whether there is an error. -/
  alert : Bool
  deriving DecidableEq, Repr

/-- The shape of what the page shows of a desk. An empty error does not show; no action leaves one. -/
def Shape.ofDesk (d : Desk) : Shape where
  rows := d.policies.map (·.active)
  isNew := d.selected.isNew
  active := d.selected.active
  alert := d.lastError.any (!·.isEmpty)

/-- An entry without texts. -/
def Entry.empty (isNew active : Bool) : Entry := ⟨0, "", "", "", "", "", "", active, 0, isNew⟩

/-- The outline of all pages of a shape, made without any text. -/
def Shape.outline (s : Shape) : List (Option String) :=
  Page.outline (View.pieces {
    policies := s.rows.map (Entry.empty false)
    selected := Entry.empty s.isNew s.active
    error := if s.alert then some "error" else none })

/-! ## The outline of each part -/

theorem outline_banner (error : Option String) :
    outline (banner error) = outline (banner (if error.any (!·.isEmpty) then some "error" else none)) := by
  cases error with
  | none => rfl
  | some e =>
    have filled : ("error" : String).isEmpty = false := by decide
    by_cases empty : e.isEmpty = true
    · simp [banner, empty]
    · simp [banner, empty, filled, Piece.outline]

theorem outline_row (e : Entry) : outline (row e) = outline (row (Entry.empty false e.active)) := rfl

theorem outline_table (es : List Entry) :
    outline (table es) = outline (table (es.map fun e => Entry.empty false e.active)) := by
  have rows : ∀ fs : List Entry,
      outline (fs.flatMap row) = outline ((fs.map fun e => Entry.empty false e.active).flatMap row) := by
    intro fs
    simp only [outline_flatMap, List.flatMap_map, ← outline_row]
  cases es with
  | nil => rfl
  | cons e es =>
    have both := rows (e :: es)
    rw [table, table]
    simp only [List.isEmpty_cons, List.map_cons, Bool.false_eq_true, if_false, List.cons_append, outline_cons,
      outline_append] at both ⊢
    rw [both]

theorem outline_heading (e : Entry) : outline (heading e) = outline (heading (Entry.empty e.isNew e.active)) := by
  have isNew : (Entry.empty e.isNew e.active).isNew = e.isNew := rfl
  rw [heading, heading, isNew]
  cases e.isNew <;> rfl

theorem outline_form (e : Entry) : outline (form e) = outline (form (Entry.empty e.isNew e.active)) := rfl

/-- **The page of a desk has the outline of its shape.** -/
theorem outline_ofDesk (d : Desk) : outline (View.ofDesk d).pieces = (Shape.ofDesk d).outline := by
  have entries : (d.policies.map Entry.ofPolicy).map (fun e => Entry.empty false e.active) =
      (d.policies.map (·.active)).map (Entry.empty false) := by
    rw [List.map_map, List.map_map]
    rfl
  have view : View.ofDesk d = ⟨d.policies.map Entry.ofPolicy, Entry.ofPolicy d.selected, d.lastError⟩ := rfl
  have selected : (Entry.ofPolicy d.selected).isNew = d.selected.isNew ∧
      (Entry.ofPolicy d.selected).active = d.selected.active := ⟨rfl, rfl⟩
  rw [Shape.outline, View.pieces, View.pieces, view]
  simp only [outline_cons, outline_append, List.cons_append]
  rw [outline_banner, outline_table, outline_heading, outline_form, entries, selected.1, selected.2]
  rfl

/-! ## Rows -/

/-- The markup that a row starts with. -/
def rowStart : Option String := some (lines ["", "            <tr id=\"policy-"])

/-- The outline of the row of a policy. -/
def rowOutline (active : Bool) : List (Option String) := outline (row (Entry.empty false active))

/-- Each row starts once. -/
theorem rowOutline_start (active : Bool) :
    (rowOutline active).head? = some rowStart ∧ rowStart ∉ (rowOutline active).tail := by
  revert active
  decide +kernel

theorem outline_rows (rows : List Bool) :
    outline ((rows.map (Entry.empty false)).flatMap row) = rows.flatMap rowOutline := by
  rw [outline_flatMap, List.flatMap_map]
  rfl

/-- The outline of a shape has a row for each policy, in their order. Each row starts once, and none starts anywhere
    else. -/
structure Shape.HasRows (s : Shape) (before after : List (Option String)) : Prop where
  outline : s.outline = before ++ s.rows.flatMap rowOutline ++ after
  row : ∀ active ∈ s.rows, (rowOutline active).head? = some rowStart ∧ rowStart ∉ (rowOutline active).tail
  before : rowStart ∉ before
  after : rowStart ∉ after

theorem Shape.hasRows (s : Shape) : ∃ before after, s.HasRows before after := by
  obtain ⟨rows, isNew, active, alert⟩ := s
  have start : ∀ alert : Bool, ∀ table ∈ [tableTop :: [], Page.table []],
      rowStart ∉ Page.outline (top :: banner (if alert then some "error" else none) ++ gap :: table) := by
    decide +kernel
  have finish : ∀ isNew active, ∀ table ∈ [[tableBottom], []],
      rowStart ∉ Page.outline (table ++ .markup (lines ["", "", "    <h3>"]) ::
        heading (Entry.empty isNew active) ++ form (Entry.empty isNew active)) := by
    decide +kernel
  cases rows with
  | nil =>
    refine ⟨_, _, ?_, fun active _ => rowOutline_start active, start alert (table []) (by simp),
      finish isNew active [] (by simp)⟩
    simp only [Shape.outline, View.pieces, outline_cons, outline_append, List.cons_append, List.flatMap_nil,
      List.append_nil, List.map_nil, List.append_assoc, List.nil_append]
  | cons first rows =>
    refine ⟨_, _, ?_, fun active _ => rowOutline_start active, start alert [tableTop] (by simp),
      finish isNew active [tableBottom] (by simp)⟩
    simp only [Shape.outline, View.pieces, table, ← outline_rows, List.map_cons, List.isEmpty_cons,
      Bool.false_eq_true, if_false, outline_cons, outline_append, List.cons_append, List.append_assoc, outline_nil,
      List.nil_append]

end Page

/-! ## The texts, field by field -/

open Page

/-- A number as a text. -/
def numberText (n : Nat) : String := String.ofList (Text.natural n)

/-- The texts in the row of a policy, in order. Its identifier is in the row itself and behind each of its three
    buttons. -/
def Policy.rowTexts (p : Policy) : List String :=
  [numberText p.id.toNat, p.number, p.kind, String.ofList p.premium.twoPlaces, p.start.toText, p.finish.toText,
    numberText p.customer.toNat, numberText p.id.toNat, numberText p.id.toNat, numberText p.id.toNat]

/-- The texts in the form, in order. The heading has the identifier, unless the policy is new. -/
def Policy.formTexts (p : Policy) : List String :=
  (if p.isNew then [] else [numberText p.id.toNat]) ++
    [p.number, p.kind, p.premium.plain, p.start.toText, p.finish.toText, numberText p.customer.toNat]

/-- The texts of the page, in order: the error, the rows of the policies, and the form. -/
def Desk.texts (d : Desk) : List String :=
  (d.lastError.filter (!·.isEmpty)).toList ++ d.policies.flatMap Policy.rowTexts ++ d.selected.formTexts

namespace Page

theorem texts_banner (error : Option String) : Page.texts (banner error) = (error.filter (!·.isEmpty)).toList := by
  cases error with
  | none => rfl
  | some e =>
    cases empty : e.isEmpty <;> simp [banner, empty, Option.filter]

theorem texts_row (p : Policy) : Page.texts (row (Entry.ofPolicy p)) = p.rowTexts := rfl

theorem texts_table (ps : List Policy) :
    Page.texts (table (ps.map Entry.ofPolicy)) = ps.flatMap Policy.rowTexts := by
  have rows : ∀ ps : List Policy,
      Page.texts ((ps.map Entry.ofPolicy).flatMap row) = ps.flatMap Policy.rowTexts := by
    intro ps
    simp only [texts_flatMap, List.flatMap_map, texts_row]
  cases ps with
  | nil => rfl
  | cons p ps =>
    have all := rows (p :: ps)
    rw [table, List.map_cons, List.isEmpty_cons, if_neg (by decide), List.cons_append, ← List.map_cons, tableTop,
      texts_markup, texts_append, all]
    exact List.append_nil _

theorem texts_form (p : Policy) :
    Page.texts (heading (Entry.ofPolicy p) ++ form (Entry.ofPolicy p)) = p.formTexts := by
  have isNew : (Entry.ofPolicy p).isNew = p.isNew := rfl
  rw [heading, isNew, Policy.formTexts]
  cases p.isNew <;> rfl

/-- **The texts of the page are those of the desk**, field by field. -/
theorem texts_ofDesk (d : Desk) : Page.texts (View.ofDesk d).pieces = d.texts := by
  have view : View.ofDesk d = ⟨d.policies.map Entry.ofPolicy, Entry.ofPolicy d.selected, d.lastError⟩ := rfl
  rw [View.pieces, view, Desk.texts]
  simp only [top, gap, List.cons_append, List.append_assoc, texts_append, texts_markup, texts_banner, texts_table]
  rw [← texts_append, texts_form]

end Page

end PolicyDesk
