import PolicyDesk.Proofs.Page.Outline
import PolicyDesk.Proofs.Text.Digits
import PolicyDesk.Proofs.Text.Marks

/-!
# What is found on the page

A page is read as a browser gets it: as one text, in which tags are looked for. What the page shows is escaped, so
no tag is found but those of the page itself.

* `alerts`: the errors on a page; `rows`: the rows of its table; `buttons`: the buttons in a row.
* `IsTag`, `Untagged`: tags, and pieces without a tag.
* `clear_between`, `lacks_marks`: what is to be known of the texts in writing.
* `alerts_text`: a page has the error that it shows, and no other.
* `rows_text`: it has a row for each policy, in their order.
* `buttons_rowPieces`: a row has three buttons, with the paths of its record.
-/

namespace PolicyDesk.Page

open Text (behind upTo isClearOf natural)

/-! ## Reading a page -/

/-- An error starts with this tag. -/
def alertTag : String := "<p class=\"error\" role=\"alert\">"

/-- An error ends with this tag. -/
def alertEnd : String := "</p>"

/-- A row starts with this tag, which goes on with the identifier. -/
def rowTag : String := "<tr id=\"policy-"

/-- A row ends with this tag. -/
def rowEnd : String := "</tr>"

/-- A form that is posted starts with this tag, which goes on with the address. -/
def formTag : String := "<form method=\"post\" action=\""

/-- A button that sends a form starts with this tag. -/
def buttonTag : String := "<button type=\"submit\">"

/-- A button ends with this tag. -/
def buttonEnd : String := "</button>"

/-- The errors on a page, as they are written there. -/
def alerts (page : List Char) : List (List Char) := (behind alertTag.toList page).map (upTo alertEnd.toList)

/-- The rows of the table on a page. -/
def rows (page : List Char) : List (List Char) := (behind rowTag.toList page).map (upTo rowEnd.toList)

/-- A button: where its form is posted to, and what it says. -/
structure Button where
  address : String
  label : String
  deriving DecidableEq, Repr

/-- The button of a form, which is read from its address on. -/
def Button.ofForm (s : List Char) : Button where
  address := String.ofList (unescape (upTo ['"'] s))
  label := String.ofList (((behind buttonTag.toList s).map (upTo buttonEnd.toList)).headD [])

/-- The buttons in a row. -/
def buttons (row : List Char) : List Button := (behind formTag.toList row).map Button.ofForm

/-! ## Tags -/

/-- A tag starts with a character that is always escaped, and does not start again inside itself. -/
structure IsTag (tag : List Char) : Prop where
  head : ∃ c ∈ marks, tag.head? = some c
  once : isClearOf tag tag.tail = true

/-- The markup of the pieces is clear of the tag. -/
def Untagged (tag : List Char) (ps : List Piece) : Prop :=
  ∀ markup, Piece.markup markup ∈ ps → isClearOf tag markup.toList = true

/-- The tags that are looked for. -/
def tags : List String := [alertTag, alertEnd, rowTag, rowEnd, formTag, buttonTag, buttonEnd]

theorem isTag_of_mem {tag : String} (h : tag ∈ tags) : IsTag tag.toList := by
  have all : ∀ tag ∈ tags, tag.toList.head? = some '<' ∧ isClearOf tag.toList tag.toList.tail = true := by
    decide +kernel
  obtain ⟨head, once⟩ := all tag h
  exact ⟨⟨'<', by decide, head⟩, once⟩

theorem isTag_alertTag : IsTag alertTag.toList := isTag_of_mem (by simp [tags])

theorem isTag_alertEnd : IsTag alertEnd.toList := isTag_of_mem (by simp [tags])

theorem isTag_rowTag : IsTag rowTag.toList := isTag_of_mem (by simp [tags])

theorem isTag_rowEnd : IsTag rowEnd.toList := isTag_of_mem (by simp [tags])

theorem isTag_formTag : IsTag formTag.toList := isTag_of_mem (by simp [tags])

theorem isTag_buttonTag : IsTag buttonTag.toList := isTag_of_mem (by simp [tags])

theorem isTag_buttonEnd : IsTag buttonEnd.toList := isTag_of_mem (by simp [tags])

theorem isTag_quote : IsTag ['"'] := ⟨⟨'"', by decide, rfl⟩, by decide⟩

theorem prefix_toList {s t u : String} (h : u = s ++ t) : s.toList <+: u.toList := by
  rw [h, String.toList_append]
  exact List.prefix_append _ _

theorem alertTag_starts : "<p ".toList <+: alertTag.toList := prefix_toList (t := "class=\"error\" role=\"alert\">") rfl

theorem rowTag_starts : "<tr ".toList <+: rowTag.toList := prefix_toList (t := "id=\"policy-") rfl

theorem rowEnd_starts : "</tr".toList <+: rowEnd.toList := prefix_toList (t := ">") rfl

theorem formTag_starts : "<form".toList <+: formTag.toList := prefix_toList (t := " method=\"post\" action=\"") rfl

/-- The texts that stand between the parts of a page are clear of the tags that are looked for there. -/
theorem clear_between :
    (∀ s ∈ ["\n    ", "\n            ", alertEnd, rowTag, rowEnd], isClearOf alertTag.toList s.toList = true) ∧
    (∀ s ∈ ["\n    ", "\n            ", alertTag, alertEnd, rowEnd], isClearOf rowTag.toList s.toList = true) ∧
    (∀ s ∈ ["\n                    ", "</td>\n                <td class=\"row-actions\">",
      "\n                </td>\n            "], isClearOf formTag.toList s.toList = true) ∧
    isClearOf buttonTag.toList ['"', '>'] = true := by
  decide +kernel

section

variable {tag : List Char} {ps qs : List Piece} {t : String}

@[simp] theorem untagged_nil : Untagged tag [] := fun _ h => by cases h

@[simp] theorem untagged_markup :
    Untagged tag (.markup t :: ps) ↔ isClearOf tag t.toList = true ∧ Untagged tag ps := by
  simp [Untagged]

@[simp] theorem untagged_shown : Untagged tag (.shown t :: ps) ↔ Untagged tag ps := by
  simp [Untagged]

@[simp] theorem untagged_append : Untagged tag (ps ++ qs) ↔ Untagged tag ps ∧ Untagged tag qs := by
  simp [Untagged, or_imp, forall_and]

theorem untagged_ite {c : Prop} [Decidable c] (yes : Untagged tag ps) (no : Untagged tag qs) :
    Untagged tag (if c then ps else qs) := by
  split
  · exact yes
  · exact no

theorem clear_ite {c : Prop} [Decidable c] {s t : String} (yes : isClearOf tag s.toList = true)
    (no : isClearOf tag t.toList = true) : isClearOf tag (if c then s else t).toList = true := by
  split
  · exact yes
  · exact no

/-- The tag starts with one of the texts. -/
def StartsIn (starts : List (List Char)) (tag : List Char) : Prop := ∃ start ∈ starts, start <+: tag

/-- A text in writing is clear of a tag if its characters are clear of all that the tag may start with. -/
theorem clear_literal {starts : List (List Char)} (h : StartsIn starts tag) (s : List Char)
    (clear : ∀ start ∈ starts, isClearOf start s = true) : isClearOf tag (String.ofList s).toList = true := by
  obtain ⟨start, mem, starts⟩ := h
  rw [String.toList_ofList]
  exact Text.isClearOf_of_prefix starts (clear start mem)

end

namespace IsTag

variable {tag s : List Char} {ps : List Piece}

theorem some (h : IsTag tag) : tag ≠ [] := by
  obtain ⟨c, -, head⟩ := h.head
  rintro rfl
  cases head

/-- A tag is found where it stands. -/
theorem behind_append (h : IsTag tag) (clear : isClearOf tag s = true) (t : List Char) :
    behind tag (s ++ (tag ++ t)) = t :: behind tag t := by
  rw [Text.behind_append clear, Text.behind_mark h.some h.once]

/-- A text without characters that have to be escaped has no tag in it. -/
theorem clear_plain (h : IsTag tag) (plain : ∀ c ∈ s, c ∉ marks) : isClearOf tag s = true := by
  obtain ⟨c, escaped, head⟩ := h.head
  exact Text.isClearOf_of_notMem head fun mem => plain c mem escaped

/-- **Pieces without the tag in their markup** do not have it in their text, whatever they show. -/
theorem clear_render (h : IsTag tag) (untagged : Untagged tag ps) :
    isClearOf tag (ps.flatMap Piece.render) = true := by
  induction ps with
  | nil => rfl
  | cons p ps ih =>
    have rest := ih fun markup mem => untagged markup (List.mem_cons_of_mem p mem)
    rw [List.flatMap_cons]
    refine Text.isClearOf_append ?_ rest
    cases p with
    | markup text => exact untagged text List.mem_cons_self
    | shown text => exact h.clear_plain fun _ => not_mem_marks_of_mem_escape

end IsTag

/-! ## The parts of a page -/

/-- What stands between the banner and the rows. -/
def tableStart (es : List Entry) : List Piece :=
  gap :: if es.isEmpty then [.markup (lines ["", "    <p>No policies loaded.</p>", "    "])] else [tableTop]

/-- What stands below the rows: the bottom of the table, and the form. -/
def View.belowRows (v : View) : List Piece :=
  (if v.policies.isEmpty then [] else [tableBottom]) ++ .markup (lines ["", "", "    <h3>"]) ::
    heading v.selected ++ form v.selected

theorem View.pieces_eq (v : View) : v.pieces =
    top :: banner v.error ++ (tableStart v.policies ++ v.policies.flatMap row ++ v.belowRows) := by
  unfold View.pieces tableStart View.belowRows table
  cases v.policies with
  | nil => simp
  | cons e es => simp

theorem View.text_eq (v : View) : v.text.toList = v.pieces.flatMap Piece.render := by
  rw [View.text, render, String.toList_ofList]

/-- The cells of a row, without the last. -/
def cells (e : Entry) : List Piece := (row e).tail.take 15

/-- A form with one button, from its address on. -/
def buttonForm (e : Entry) (action label : String) : List Piece :=
  [.markup "/policies/", number e.id.toNat, .markup "/", .markup action, .markup "\">", .markup buttonTag,
    .markup label, .markup buttonEnd, .markup "</form>"]

/-- A button of a row. -/
def rowButton (e : Entry) (action label : String) : List Piece :=
  .markup "\n                    " :: .markup formTag :: buttonForm e action label

/-- The buttons of every row: the last part of the path, and what they say. -/
def rowButtons : List (String × String) := [("select", "Select"), ("edit", "Update"), ("delete", "Delete")]

/-- What stands in a row, behind the tag that it starts with: the identifier, the cells, and the buttons. -/
def rowPieces (e : Entry) : List Piece :=
  cells e ++ .markup "</td>\n                <td class=\"row-actions\">" ::
    rowButtons.flatMap (fun b => rowButton e b.1 b.2) ++ [.markup "\n                </td>\n            "]

/-- A row stands between its tags. -/
theorem render_row (e : Entry) : (row e).flatMap Piece.render =
    "\n            ".toList ++ (rowTag.toList ++ ((rowPieces e).flatMap Piece.render ++
      (rowEnd.toList ++ "\n            ".toList))) := by
  have start : lines ["", "            <tr id=\"policy-"] = "\n            " ++ rowTag := rfl
  have actions : lines ["</td>", "                <td class=\"row-actions\">",
      "                    <form method=\"post\" action=\"/policies/"] =
        "</td>\n                <td class=\"row-actions\">" ++ ("\n                    " ++ (formTag ++ "/policies/")) :=
    rfl
  have next : ∀ button ∈ [("select", "Select"), ("edit", "Update")],
      lines ["/" ++ button.1 ++ "\"><button type=\"submit\">" ++ button.2 ++ "</button></form>",
        "                    <form method=\"post\" action=\"/policies/"] =
      "/" ++ (button.1 ++ ("\">" ++ (buttonTag ++ (button.2 ++ (buttonEnd ++ ("</form>" ++
        ("\n                    " ++ (formTag ++ "/policies/")))))))) :=
    List.forall_mem_cons.mpr ⟨rfl, List.forall_mem_singleton.mpr rfl⟩
  have select := next ("select", "Select") (by simp)
  have edit := next ("edit", "Update") (by simp)
  have last : lines ["/delete\"><button type=\"submit\">Delete</button></form>", "                </td>",
      "            </tr>", "            "] =
        "/" ++ ("delete" ++ ("\">" ++ (buttonTag ++ ("Delete" ++ (buttonEnd ++ ("</form>" ++
          ("\n                </td>\n            " ++ (rowEnd ++ "\n            ")))))))) := rfl
  simp only [row, rowPieces, rowButtons, cells, rowButton, buttonForm, nextButton, start, actions, select, edit, last,
    List.tail_cons, List.take_succ_cons, List.take_zero, List.flatMap_cons, List.flatMap_nil, List.cons_append,
    List.nil_append, Piece.render, String.toList_append, List.append_assoc, List.append_nil]

/-! ## Parts without a tag -/

section

variable {tag : List Char}

/-- Apart from banner and rows, there is no error and no row on the page. -/
theorem untagged_around (h : StartsIn ["<p ".toList, "<tr ".toList] tag) (v : View) :
    Untagged tag [top] ∧ Untagged tag (tableStart v.policies) ∧ Untagged tag v.belowRows := by
  simp only [top, tableStart, View.belowRows, gap, tableTop, tableBottom, heading, form, nextField, sendButton, number,
    lines, String.intercalate_cons_cons, String.intercalate_singleton, String.toList_append, untagged_append,
    untagged_markup, untagged_shown, untagged_nil, and_true]
  repeat' first
    | with_reducible apply And.intro
    | with_reducible apply Text.isClearOf_append
    | with_reducible apply clear_ite
    | with_reducible apply untagged_ite
    | with_reducible exact clear_literal h _ (by decide +kernel)
    | simp only [String.toList_append, untagged_markup, untagged_shown, untagged_nil, and_true]

/-- In the cells of a row there is no error, no form, and no end or start of a row. -/
theorem untagged_cells (h : StartsIn ["<p ".toList, "<tr ".toList, "</tr".toList, "<form".toList] tag) (e : Entry) :
    Untagged tag (cells e) := by
  simp only [cells, row, nextCell, number, lines, List.tail_cons, List.take_succ_cons, List.take_zero,
    String.intercalate_cons_cons, String.intercalate_singleton, String.toList_append, untagged_markup,
    untagged_shown, untagged_nil, and_true]
  repeat' first
    | with_reducible apply And.intro
    | with_reducible apply Text.isClearOf_append
    | with_reducible apply clear_ite
    | with_reducible exact clear_literal h _ (by decide +kernel)

/-- In the form of a button there is no error, no other form, and no end or start of a row. -/
theorem untagged_buttonForm (h : StartsIn ["<p ".toList, "<tr ".toList, "</tr".toList, "<form".toList] tag) (e : Entry)
    {b : String × String} (listed : b ∈ rowButtons) : Untagged tag (buttonForm e b.1 b.2) := by
  simp only [buttonForm, number, buttonTag, buttonEnd, untagged_markup, untagged_shown, untagged_nil, and_true]
  simp only [rowButtons, List.mem_cons, List.not_mem_nil, or_false] at listed
  obtain rfl | rfl | rfl := listed
  all_goals
    refine ⟨?_, ?_, ?_, ?_, ?_, ?_, ?_, ?_⟩
    all_goals exact clear_literal h _ (by decide +kernel)

/-- In a row there is no error, and no row starts or ends. -/
theorem untagged_rowPieces (h : StartsIn ["<p ".toList, "<tr ".toList, "</tr".toList] tag) (e : Entry) :
    Untagged tag (rowPieces e) := by
  have all : StartsIn ["<p ".toList, "<tr ".toList, "</tr".toList, "<form".toList] tag := by
    obtain ⟨start, mem, starts⟩ := h
    exact ⟨start, List.mem_append_left ["<form".toList] mem, starts⟩
  have indent : isClearOf tag "\n                    ".toList = true := clear_literal h _ (by decide +kernel)
  have form : isClearOf tag formTag.toList = true := clear_literal h _ (by decide +kernel)
  have buttons : Untagged tag (rowButtons.flatMap fun b => rowButton e b.1 b.2) := by
    intro markup mem
    obtain ⟨b, listed, mem⟩ := List.mem_flatMap.mp mem
    have button : Untagged tag (rowButton e b.1 b.2) :=
      untagged_markup.mpr ⟨indent, untagged_markup.mpr ⟨form, untagged_buttonForm all e listed⟩⟩
    exact button markup mem
  simp only [rowPieces, untagged_append, untagged_markup, untagged_nil, and_true]
  exact ⟨⟨untagged_cells all e, clear_literal h _ (by decide +kernel), buttons⟩,
    clear_literal h _ (by decide +kernel)⟩

end

/-! ## The error -/

/-- In the rows there is no error. -/
theorem clear_rows (es : List Entry) :
    isClearOf alertTag.toList ((es.flatMap row).flatMap Piece.render) = true := by
  have literal := clear_between.1
  induction es with
  | nil => rfl
  | cons e es ih =>
    have inside := isTag_alertTag.clear_render (untagged_rowPieces ⟨_, by simp, alertTag_starts⟩ e)
    rw [List.flatMap_cons, List.flatMap_append, render_row]
    refine Text.isClearOf_append (Text.isClearOf_append (literal _ (by simp)) ?_) ih
    refine Text.isClearOf_append (literal _ (by simp)) (Text.isClearOf_append inside ?_)
    exact Text.isClearOf_append (literal _ (by simp)) (literal _ (by simp))

theorem banner_render {e : String} (filled : e.isEmpty = false) : (banner (some e)).flatMap Piece.render =
    "\n    ".toList ++ (alertTag.toList ++ (escape e.toList ++ (alertEnd.toList ++ "\n    ".toList))) := by
  have start : lines ["", "    <p class=\"error\" role=\"alert\">"] = "\n    " ++ alertTag := rfl
  have last : lines ["</p>", "    "] = alertEnd ++ "\n    " := rfl
  rw [banner, filled, if_neg Bool.false_ne_true]
  simp only [List.flatMap_cons, List.flatMap_nil, Piece.render, start, last, String.toList_append, List.append_nil,
    List.append_assoc]

/-- An error is found between its tags. -/
theorem alerts_between {front back : List Char} (e : String) (above : isClearOf alertTag.toList front = true)
    (below : isClearOf alertTag.toList back = true) :
    alerts (front ++ (alertTag.toList ++ (escape e.toList ++ (alertEnd.toList ++ back)))) = [escape e.toList] := by
  have shown : isClearOf alertTag.toList (escape e.toList) = true :=
    isTag_alertTag.clear_plain fun _ => not_mem_marks_of_mem_escape
  have ends : isClearOf alertTag.toList alertEnd.toList = true := clear_between.1 _ (by simp)
  have rest := Text.isClearOf_append shown (Text.isClearOf_append ends below)
  have written : isClearOf alertEnd.toList (escape e.toList) = true :=
    isTag_alertEnd.clear_plain fun _ => not_mem_marks_of_mem_escape
  rw [alerts, isTag_alertTag.behind_append above, Text.behind_of_clear rest, List.map_singleton,
    Text.upTo_mark isTag_alertEnd.some written]

/-- **The page has the error that it shows**, escaped, and no other. -/
theorem alerts_text (v : View) :
    alerts v.text.toList = (v.error.filter (!·.isEmpty)).toList.map fun e => escape e.toList := by
  have starts : StartsIn ["<p ".toList, "<tr ".toList] alertTag.toList := ⟨_, by simp, alertTag_starts⟩
  obtain ⟨above, start, below⟩ := untagged_around starts v
  have aboveClear := isTag_alertTag.clear_render above
  have belowClear : isClearOf alertTag.toList
      ((tableStart v.policies ++ v.policies.flatMap row ++ v.belowRows).flatMap Piece.render) = true := by
    rw [List.flatMap_append, List.flatMap_append]
    exact Text.isClearOf_append (Text.isClearOf_append (isTag_alertTag.clear_render start) (clear_rows v.policies))
      (isTag_alertTag.clear_render below)
  rw [View.text_eq, View.pieces_eq, ← List.singleton_append, List.flatMap_append, List.flatMap_append]
  generalize [top].flatMap Piece.render = front at aboveClear ⊢
  generalize (tableStart v.policies ++ v.policies.flatMap row ++ v.belowRows).flatMap Piece.render = back
    at belowClear ⊢
  cases shown : v.error.filter (!·.isEmpty) with
  | none =>
    have hidden : banner v.error = [] := by
      cases error : v.error with
      | none => rfl
      | some e => simpa [error, banner] using shown
    have none := Text.behind_of_clear (Text.isClearOf_append aboveClear belowClear)
    rw [hidden, List.flatMap_nil, List.append_nil, alerts, none]
    rfl
  | some e =>
    obtain ⟨error, filled⟩ := Option.filter_eq_some_iff.mp shown
    have indent : isClearOf alertTag.toList "\n    ".toList = true := clear_between.1 _ (by simp)
    have found := alerts_between e (Text.isClearOf_append aboveClear indent) (Text.isClearOf_append indent belowClear)
    rw [error, banner_render (by simpa using filled), Option.toList_some, List.map_singleton]
    simpa only [List.append_assoc] using found

/-! ## The rows -/

/-- The rows are found one after the other. -/
theorem rows_of_rows (es : List Entry) {back : List Char} (clear : isClearOf rowTag.toList back = true) :
    rows ((es.flatMap row).flatMap Piece.render ++ back) = es.map fun e => (rowPieces e).flatMap Piece.render := by
  have indent : isClearOf rowTag.toList "\n            ".toList = true := clear_between.2.1 _ (by simp)
  have close : isClearOf rowTag.toList rowEnd.toList = true := clear_between.2.1 _ (by simp)
  induction es with
  | nil =>
    rw [List.flatMap_nil, List.flatMap_nil, List.nil_append, rows, Text.behind_of_clear clear]
    rfl
  | cons e es ih =>
    have inside : isClearOf rowTag.toList ((rowPieces e).flatMap Piece.render) = true :=
      isTag_rowTag.clear_render (untagged_rowPieces ⟨_, by simp, rowTag_starts⟩ e)
    have ends : isClearOf rowEnd.toList ((rowPieces e).flatMap Piece.render) = true :=
      isTag_rowEnd.clear_render (untagged_rowPieces ⟨_, by simp, rowEnd_starts⟩ e)
    rw [rows] at ih
    simp only [List.flatMap_cons, List.flatMap_append, render_row, List.append_assoc]
    rw [rows, isTag_rowTag.behind_append indent, Text.behind_append inside, Text.behind_append close,
      Text.behind_append indent, List.map_cons, Text.upTo_mark isTag_rowEnd.some ends, ih, List.map_cons]

theorem clear_banner (error : Option String) :
    isClearOf rowTag.toList ((banner error).flatMap Piece.render) = true := by
  have literal := clear_between.2.1
  cases error with
  | none => rfl
  | some e =>
    cases empty : e.isEmpty with
    | true =>
      rw [banner, empty, if_pos rfl]
      rfl
    | false =>
      have shown : isClearOf rowTag.toList (escape e.toList) = true :=
        isTag_rowTag.clear_plain fun _ => not_mem_marks_of_mem_escape
      rw [banner_render empty]
      refine Text.isClearOf_append (literal _ (by simp)) (Text.isClearOf_append (literal _ (by simp)) ?_)
      exact Text.isClearOf_append shown (Text.isClearOf_append (literal _ (by simp)) (literal _ (by simp)))

/-- **The page has a row for each policy**, in their order. -/
theorem rows_text (v : View) : rows v.text.toList = v.policies.map fun e => (rowPieces e).flatMap Piece.render := by
  have starts : StartsIn ["<p ".toList, "<tr ".toList] rowTag.toList := ⟨_, by simp, rowTag_starts⟩
  obtain ⟨above, start, below⟩ := untagged_around starts v
  have front := Text.isClearOf_append (isTag_rowTag.clear_render above)
    (Text.isClearOf_append (clear_banner v.error) (isTag_rowTag.clear_render start))
  have found := rows_of_rows v.policies (isTag_rowTag.clear_render below)
  have passed := Text.behind_append front
    ((v.policies.flatMap row).flatMap Piece.render ++ v.belowRows.flatMap Piece.render)
  rw [View.text_eq, View.pieces_eq, ← List.singleton_append, ← found, rows, rows]
  simp only [List.flatMap_append, List.append_assoc] at passed ⊢
  rw [passed]

/-! ## The buttons -/

/-- The path of an action on the record with the identifier. -/
def buttonPath (id : UInt64) (action : String) : String := "/policies/" ++ numberText id.toNat ++ "/" ++ action

/-- Digits stand for themselves. -/
theorem escapeChar_of_isDigit {c : Char} (h : Text.isDigit c = true) : escapeChar c = [c] := by
  have others : ['&', '<', '>', '"', Char.ofNat 0x27, '/'].all (!Text.isDigit ·) = true := by decide
  have other : ∀ d ∈ ['&', '<', '>', '"', Char.ofNat 0x27, '/'], c ≠ d := by
    rintro d mem rfl
    have none := List.all_eq_true.mp others c mem
    rw [h] at none
    cases none
  have code : c.toNat ≠ 0x27 := fun same => other (Char.ofNat 0x27) (by simp) (by rw [← same, Char.ofNat_toNat])
  rw [escapeChar, if_neg (other '&' (by simp)), if_neg (other '<' (by simp)), if_neg (other '>' (by simp)),
    if_neg (other '"' (by simp)), if_neg code, if_neg (other '/' (by simp))]

theorem render_number (n : Nat) : (number n).render = natural n := by
  have plain : ∀ s : List Char, (∀ c ∈ s, Text.isDigit c = true) → escape s = s := by
    intro s
    induction s with
    | nil => exact fun _ => rfl
    | cons c s ih =>
      intro digits
      obtain ⟨first, later⟩ := List.forall_mem_cons.mp digits
      rw [escape_cons, escapeChar_of_isDigit first, ih later]
      rfl
  rw [number, Piece.render, String.toList_ofList, plain _ (Text.natural_isDigit n)]

theorem unescape_of_notMem {s : List Char} (h : '&' ∉ s) : unescape s = s := by
  induction s with
  | nil => rfl
  | cons c s ih =>
    obtain ⟨other, later⟩ := not_or.mp (mt List.mem_cons.mpr h)
    rw [unescape_cons (Ne.symm other), ih later]

theorem buttonPath_toList (id : UInt64) (action : String) : (buttonPath id action).toList =
    "/policies/".toList ++ (natural id.toNat ++ ("/".toList ++ action.toList)) := by
  simp only [buttonPath, numberText, String.toList_append, String.toList_ofList, List.append_assoc]

theorem notMem_buttonPath (id : UInt64) {action : String} {c : Char} (folder : c ∉ "/policies/".toList)
    (noDigit : Text.isDigit c = false) (h : c ∉ action.toList) : c ∉ (buttonPath id action).toList := by
  have slash : "/".toList ⊆ "/policies/".toList := (prefix_toList (t := "policies/") rfl).subset
  have digits : c ∉ natural id.toNat := fun digit => by
    rw [Text.natural_isDigit _ c digit] at noDigit
    cases noDigit
  rw [buttonPath_toList]
  simp only [List.mem_append, not_or]
  exact ⟨folder, digits, fun mem => folder (slash mem), h⟩

/-- None of the characters is in the text. -/
def Lacks (cs : List Char) (s : String) : Bool := cs.all fun c => !s.toList.contains c

theorem notMem_of_lacks {cs : List Char} {s : String} {c : Char} (h : Lacks cs s = true) (mem : c ∈ cs) :
    c ∉ s.toList := by
  have none := List.all_eq_true.mp h c mem
  simpa using none

/-- The parts of the paths and what the buttons say have no mark in them. -/
theorem lacks_marks : Lacks ('&' :: marks) "/policies/" = true ∧
    ∀ b ∈ rowButtons, Lacks ('&' :: marks) b.1 = true ∧ Lacks marks b.2 = true := by
  decide +kernel

/-- A button is read from its form. -/
theorem ofForm_buttonForm (e : Entry) {action label : String} (plain : Lacks ('&' :: marks) action = true)
    (named : Lacks marks label = true) (rest : List Char) :
    Button.ofForm ((buttonForm e action label).flatMap Piece.render ++ rest) = ⟨buttonPath e.id action, label⟩ := by
  have written : (buttonForm e action label).flatMap Piece.render ++ rest = (buttonPath e.id action).toList ++
      (['"'] ++ (['>'] ++ (buttonTag.toList ++ (label.toList ++ (buttonEnd.toList ++ ("</form>".toList ++ rest)))))) := by
    have quote : "\">" = String.ofList ['"', '>'] := rfl
    rw [buttonPath_toList]
    simp only [buttonForm, List.flatMap_cons, List.flatMap_nil, render_number, List.append_assoc, List.append_nil]
    simp only [Piece.render, quote, String.toList_ofList]
    rfl
  have path : ∀ c ∈ '&' :: marks, c ∉ (buttonPath e.id action).toList := by
    intro c mem
    have digits : ('&' :: marks).all (!Text.isDigit ·) = true := by decide
    exact notMem_buttonPath e.id (notMem_of_lacks lacks_marks.1 mem) (by simpa using List.all_eq_true.mp digits c mem)
      (notMem_of_lacks plain mem)
  have address : upTo ['"'] ((buttonForm e action label).flatMap Piece.render ++ rest) =
      (buttonPath e.id action).toList := by
    have clear : isClearOf ['"'] (buttonPath e.id action).toList = true :=
      Text.isClearOf_of_notMem rfl (path '"' (by decide))
    rw [written, Text.upTo_mark isTag_quote.some clear]
  have front : isClearOf buttonTag.toList ((buttonPath e.id action).toList ++ (['"'] ++ ['>'])) = true := by
    refine Text.isClearOf_append (isTag_buttonTag.clear_plain fun c mem mark => path c ?_ mem) clear_between.2.2.2
    exact List.mem_cons_of_mem _ mark
  have text : isClearOf buttonEnd.toList label.toList = true :=
    isTag_buttonEnd.clear_plain fun c mem mark => notMem_of_lacks named mark mem
  have labelled : behind buttonTag.toList ((buttonForm e action label).flatMap Piece.render ++ rest) =
      (label.toList ++ (buttonEnd.toList ++ ("</form>".toList ++ rest))) ::
        behind buttonTag.toList (label.toList ++ (buttonEnd.toList ++ ("</form>".toList ++ rest))) := by
    have found := isTag_buttonTag.behind_append front (label.toList ++ (buttonEnd.toList ++ ("</form>".toList ++ rest)))
    rw [written, ← found]
    simp only [List.append_assoc]
  rw [Button.ofForm, address, labelled, List.map_cons, List.headD_cons, Text.upTo_mark isTag_buttonEnd.some text,
    unescape_of_notMem (path '&' List.mem_cons_self), String.ofList_toList, String.ofList_toList]

/-- The buttons of a row are found one after the other. -/
theorem buttons_rowButtons (e : Entry) {bs : List (String × String)} (listed : ∀ b ∈ bs, b ∈ rowButtons)
    {back : List Char} (clear : isClearOf formTag.toList back = true) :
    buttons ((bs.flatMap fun b => rowButton e b.1 b.2).flatMap Piece.render ++ back) =
      bs.map fun b => ⟨buttonPath e.id b.1, b.2⟩ := by
  have indent : isClearOf formTag.toList "\n                    ".toList = true :=
    clear_between.2.2.1 _ List.mem_cons_self
  induction bs with
  | nil =>
    rw [List.flatMap_nil, List.flatMap_nil, List.nil_append, buttons, Text.behind_of_clear clear]
    rfl
  | cons b bs ih =>
    obtain ⟨first, later⟩ := List.forall_mem_cons.mp listed
    have inside := isTag_formTag.clear_render (untagged_buttonForm ⟨_, by simp, formTag_starts⟩ e first)
    have read := ofForm_buttonForm e (lacks_marks.2 b first).1 (lacks_marks.2 b first).2
    have button : (rowButton e b.1 b.2).flatMap Piece.render =
        "\n                    ".toList ++ (formTag.toList ++ (buttonForm e b.1 b.2).flatMap Piece.render) := rfl
    rw [List.flatMap_cons, List.flatMap_append, button]
    simp only [List.append_assoc]
    rw [buttons, isTag_formTag.behind_append indent, Text.behind_append inside, List.map_cons, read, ← buttons,
      ih later, List.map_cons]

/-- **A row has three buttons**, with the paths of its record. -/
theorem buttons_rowPieces (e : Entry) : buttons ((rowPieces e).flatMap Piece.render) =
    rowButtons.map fun b => ⟨buttonPath e.id b.1, b.2⟩ := by
  have literal := clear_between.2.2.1
  have front := Text.isClearOf_append (isTag_formTag.clear_render (untagged_cells ⟨_, by simp, formTag_starts⟩ e))
    (literal "</td>\n                <td class=\"row-actions\">" (by simp))
  have found := buttons_rowButtons e (fun _ listed => listed) (literal "\n                </td>\n            " (by simp))
  have passed := Text.behind_append front ((rowButtons.flatMap fun b => rowButton e b.1 b.2).flatMap Piece.render ++
    "\n                </td>\n            ".toList)
  rw [← found, buttons, buttons, ← passed]
  simp only [rowPieces, List.flatMap_append, List.flatMap_cons, List.flatMap_nil, Piece.render, List.append_assoc,
    List.append_nil]

end PolicyDesk.Page
