import PolicyDesk.Page.Layout
import PolicyDesk.Proofs.Amount.Plain
import PolicyDesk.Proofs.Calendar.Days
import PolicyDesk.Proofs.Calendar.Written
import PolicyDesk.Web.FormBody

/-!
# Forms that nobody has typed in

The page shows the policy in the form field by field. A browser that sends the form back as it is sends what
the page shows.

* `Policy.Trimmed`: number and type have no blanks around them.
* `applyTo_ofPolicy_trim`, `applyTo_ofPolicy`: the form that shows a policy is read as this policy.
* `Page.Entry.fields`: what a browser sends; `form_shows_texts`, `form_shows_box`: it stands in the inputs of
  the form.
* `ofPairs_fields`: what is sent is the form that shows the policy.
* `shown_policy_is_given_back`: so it gives the policy back, into whatever policy it is put.
-/

namespace PolicyDesk

open Text (isBlank natural)

/-- Number and type have no blanks around them. -/
structure Policy.Trimmed (p : Policy) : Prop where
  number : Text.trim p.number = p.number
  kind : Text.trim p.kind = p.kind

namespace PolicyForm

/-- A field without blanks is read as it is. -/
theorem required_of_not_blank {α : Type} {raw : String} {read : String → Except String α} {a : α}
    (field : PolicyField) (some : raw ≠ "") (h : ∀ c ∈ raw.toList, isBlank c = false)
    (value : read raw = .ok a) :
    required field raw read = .ok a := by
  rw [required, Text.isBlankText_of_not_blank some h, Text.trim_eq_self h, value]
  rfl

theorem required_plain (x : Binary64) : required .premium x.plain Amount.read = .ok x :=
  required_of_not_blank .premium x.plain_ne_empty x.plain_not_blank x.read_plain

theorem required_toText (field : PolicyField) (d : Date) : required field d.toText Date.read = .ok d := by
  have chars : d.toText.toList = d.text := String.toList_ofList
  refine required_of_not_blank field ?some ?blank d.read_text
  case some =>
    intro empty
    rw [String.toList_eq_nil_iff.mpr empty] at chars
    have read := d.day?_text
    rw [← chars] at read
    cases read
  case blank =>
    rw [chars]
    exact d.isBlank_text

theorem readCustomer_natural (n : UInt32) : readCustomer (String.ofList (natural n.toNat)) = .ok n := by
  have blank : ∀ c ∈ (String.ofList (natural n.toNat)).toList, isBlank c = false := by
    rw [String.toList_ofList]
    exact fun c hc => Text.isBlank_of_isDigit (Text.natural_isDigit _ c hc)
  have some : String.ofList (natural n.toNat) ≠ "" := by
    intro empty
    have chars := String.toList_eq_nil_iff.mpr empty
    rw [String.toList_ofList] at chars
    exact Text.natural_ne_nil _ chars
  have read : Text.readUnsigned (UInt32.size - 1) (natural n.toNat) = .ok n.toNat :=
    Text.readUnsigned_natural (Nat.le_sub_one_of_lt n.toNat_lt_size)
  rw [readCustomer, Text.isBlankText_of_not_blank some blank, Text.trim_eq_self blank, String.toList_ofList,
    read]
  simp

/-- The form that shows a policy is read as this policy, without blanks around its number and type, whatever was
    in the form of the desk before; only the identifier is no field of the form. -/
theorem applyTo_ofPolicy_trim (p q : Policy) :
    (ofPolicy p).applyTo q =
      ({ p with id := q.id, number := Text.trim p.number, kind := Text.trim p.kind }, none) := by
  have ticked : isTicked (if p.active then some "true" else none) = p.active := by
    cases p.active <;> rfl
  simp only [applyTo, ofPolicy, required_plain, required_toText, readCustomer_natural, ticked]

theorem applyTo_ofPolicy {p : Policy} (trimmed : p.Trimmed) (q : Policy) :
    (ofPolicy p).applyTo q = ({ p with id := q.id }, none) := by
  rw [applyTo_ofPolicy_trim, trimmed.number, trimmed.kind]

theorem applyTo_ofPolicy_self {p : Policy} (trimmed : p.Trimmed) : (ofPolicy p).applyTo p = (p, none) :=
  applyTo_ofPolicy trimmed p

end PolicyForm

namespace Page

/-- The texts of the form, each with the name of its field. -/
def Entry.texts (e : Entry) : List (String × String) :=
  [(PolicyField.number.name, e.number), (PolicyField.kind.name, e.kind),
    (PolicyField.premium.name, e.exactPremium), (PolicyField.start.name, e.start),
    (PolicyField.finish.name, e.finish),
    (PolicyField.customer.name, String.ofList (natural e.customer.toNat))]

/-- The box of the form, which is sent only if it is ticked. -/
def Entry.box (e : Entry) : List (String × String) :=
  if e.active then [(PolicyField.active.name, "true")] else []

/-- What a browser sends if nobody types in the form. -/
def Entry.fields (e : Entry) : List (String × String) := e.texts ++ e.box

/-- Among the pieces there is an input of this name, in which the text is shown. -/
def ShowsInput (pieces : List Piece) (field : String × String) : Prop :=
  ∃ before start after,
    pieces = before ++ .markup (start ++ ("name=\"" ++ field.1 ++ "\" value=\"")) :: .shown field.2 :: after

/-- Lines end as the last of them does. -/
theorem lines_end (first : String) (more : List String) (a b : String) :
    lines (first :: more ++ [a ++ b]) = lines (first :: more) ++ "\n" ++ a ++ b := by
  rw [lines, lines, String.intercalate_append_of_ne_nil (List.cons_ne_nil _ _) (List.cons_ne_nil _ _),
    String.intercalate_singleton, ← String.append_assoc]

theorem showsInput_of_lines {pieces : List Piece} {name text : String} (before after : List Piece)
    (first : String) (more : List String) (start : String)
    (h : pieces = before ++
      .markup (lines (first :: more ++ [start ++ ("name=\"" ++ name ++ "\" value=\"")])) :: .shown text :: after) :
    ShowsInput pieces (name, text) := by
  refine ⟨before, lines (first :: more) ++ "\n" ++ start, after, ?_⟩
  rw [h, lines_end]

theorem showsInput_of_nextField {pieces after : List Piece} {label name text : String} (before : List Piece)
    (start : String)
    (h : pieces = before ++ nextField label (start ++ ("name=\"" ++ name)) :: .shown text :: after) :
    ShowsInput pieces (name, text) := by
  refine showsInput_of_lines before after "\">" ["        </label>", "        <label>" ++ label]
    ("            <input " ++ start) ?_
  rw [h, nextField]
  simp only [List.cons_append, List.nil_append, String.append_assoc]

/-- The texts of the form stand in its inputs. -/
theorem form_shows_texts (e : Entry) : ∀ field ∈ e.texts, ShowsInput (form e) field := by
  intro field h
  simp only [Entry.texts, List.mem_cons, List.not_mem_nil, or_false] at h
  obtain rfl | rfl | rfl | rfl | rfl | rfl := h
  · exact showsInput_of_lines [] _ "</h3>"
      ["    <form method=\"post\" action=\"/policies\">", "        <label>Policy Number"]
      "            <input type=\"text\" " rfl
  · exact showsInput_of_nextField ((form e).take 2) "type=\"text\" " rfl
  · exact showsInput_of_nextField ((form e).take 4) "type=\"number\" step=\"any\" " rfl
  · exact showsInput_of_nextField ((form e).take 6) "type=\"date\" " rfl
  · exact showsInput_of_nextField ((form e).take 8) "type=\"date\" " rfl
  · exact showsInput_of_nextField ((form e).take 10) "type=\"number\" " rfl

/-- The box of the form is ticked exactly if it is sent. -/
theorem form_shows_box (e : Entry) :
    ∃ before start after, form e = before ++
      .markup (start ++ ("name=\"" ++ PolicyField.active.name ++ "\" value=\"true\"")) ::
        .markup (if e.box = [] then "" else " checked") :: after := by
  have ticked : (if e.box = [] then "" else " checked") = if e.active then " checked" else "" := by
    unfold Entry.box
    cases e.active <;> rfl
  rw [ticked]
  refine ⟨(form e).take 12, lines ["\">", "        </label>", "        <label>"] ++ "\n" ++
    "            <input type=\"checkbox\" ", (form e).drop 14, ?_⟩
  rw [← lines_end]
  rfl

end Page

namespace PolicyForm

/-- The fields are collected in their order, so the last one stands first. -/
theorem collect_fields (e : Page.Entry) :
    collect [] e.fields = .ok ((if e.active then [(.active, "true")] else []) ++
      [(.customer, String.ofList (natural e.customer.toNat)), (.finish, e.finish), (.start, e.start),
        (.premium, e.exactPremium), (.kind, e.kind), (.number, e.number)]) := by
  have named : ∀ f ∈ [PolicyField.number, .kind, .premium, .start, .finish, .customer, .active],
      field? f.name = some f := by decide
  unfold Page.Entry.fields Page.Entry.texts Page.Entry.box
  cases e.active <;> simp [collect, named]

/-- **What a browser sends of an untouched form is the form that shows the policy.** -/
theorem ofPairs_fields (p : Policy) : ofPairs (Page.Entry.ofPolicy p).fields = .ok (ofPolicy p) := by
  have active : (Page.Entry.ofPolicy p).active = p.active := rfl
  rw [ofPairs, collect_fields, active, ofPolicy]
  cases p.active <;> rfl

/-- The form with the texts of an entry in its inputs. -/
def ofEntry (e : Page.Entry) : PolicyForm where
  number := e.number
  kind := e.kind
  premium := e.exactPremium
  start := e.start
  finish := e.finish
  customer := String.ofList (natural e.customer.toNat)
  active := if e.active then some "true" else none

/-- **The form gives back the policy that it shows**, into whatever policy it is put and without a complaint:
    the premium bit for bit, with the sign of zero, and the dates of every year. Only the identifier stays that
    of the policy it is put into, and blanks around number and type are lost. -/
theorem shown_policy_is_given_back (p q : Policy) :
    ofPairs (Page.Entry.ofPolicy p).fields = .ok (ofEntry (.ofPolicy p)) ∧
      (ofEntry (.ofPolicy p)).applyTo q =
        ({ p with id := q.id, number := Text.trim p.number, kind := Text.trim p.kind }, none) ∧
      (p.Trimmed → (ofEntry (.ofPolicy p)).applyTo q = ({ p with id := q.id }, none)) := by
  have shows : ofEntry (.ofPolicy p) = ofPolicy p := rfl
  rw [shows]
  exact ⟨ofPairs_fields p, applyTo_ofPolicy_trim p q, fun trimmed => applyTo_ofPolicy trimmed q⟩

/-- A policy from the first to the last day of the calendar, with a premium of negative zero. -/
def endless : Policy :=
  ⟨7, "P 1", "Auto\tHome", ⟨true, 0, Binary64.zero.finite⟩, Date.first, Date.last, true, 4294967295⟩

theorem endless_policy_is_given_back :
    endless.Trimmed ∧ (ofEntry (.ofPolicy endless)).applyTo (.draft Date.epoch) = ({ endless with id := 0 }, none) :=
  have trimmed : endless.Trimmed := ⟨by decide +kernel, by decide +kernel⟩
  ⟨trimmed, (shown_policy_is_given_back endless (.draft Date.epoch)).2.2 trimmed⟩

end PolicyForm

end PolicyDesk
