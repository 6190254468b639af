import PolicyDesk.Proofs.Amount.Documents
import PolicyDesk.Proofs.Calendar.Written
import PolicyDesk.Proofs.Json.Lists
import PolicyDesk.Proofs.Json.Written
import PolicyDesk.Proofs.Policy.Grammar
import PolicyDesk.Proofs.Text.Pieces

/-!
# Policies are read as they are written

* `Policy.parts`: the members of a document with values of the grammar; `members_eq_parts`.
* `Policy.reread`: the policy that a document is read as. Only the premium may differ, for the reader of a
  number rounds twice.
* `become?_parts`: what the fields become when a document is read.
* `parseList_compactList`: a list of documents is read as the policies that they are read as.
* `document_is_read_back`: reading undoes writing, on one line or on several.
-/

namespace PolicyDesk

open Json (Content Entry Value Part)

/-! ## The members of a document -/

/-- The premium of a document as a number of the grammar. -/
def Binary64.figure (x : Binary64) : Json.Figure := ⟨x.numeral, x.numeral_wellFormed, false, true⟩

theorem Binary64.text_figure (x : Binary64) : (Value.number x.figure).text = x.wire := by
  rw [Value.text, Json.Figure.text, figure, Json.Numeral.spelled_plain, x.text_numeral]

namespace Policy

/-- The members of the document, with values of the grammar. -/
def parts (p : Policy) : List Part :=
  (if p.isNew then [] else [⟨PolicyField.id.name, .number (Json.naturalFigure p.id.toNat)⟩]) ++
    [⟨PolicyField.number.name, .string (Json.written p.number.toList)⟩,
      ⟨PolicyField.kind.name, .string (Json.written p.kind.toList)⟩,
      ⟨PolicyField.premium.name, .number p.premium.figure⟩,
      ⟨PolicyField.start.name, .string (Json.written p.start.text)⟩,
      ⟨PolicyField.finish.name, .string (Json.written p.finish.text)⟩,
      ⟨PolicyField.active.name, .boolean p.active⟩,
      ⟨PolicyField.customer.name, .number (Json.naturalFigure p.customer.toNat)⟩]

theorem members_eq_parts (p : Policy) : p.members = p.parts.map Part.member := by
  unfold members parts
  cases p.isNew <;>
    simp [Part.member, Json.text_naturalFigure, Json.text_written, Binary64.text_figure, Json.text_boolean]

/-- The document is an object on one line. -/
theorem document_text (p : Policy) :
    p.document.toList = (Value.object .none (Json.compactEntries p.parts)).text := by
  rw [document, String.toList_ofList, members_eq_parts, Json.compact_eq_text]

theorem indented_text (p : Policy) :
    p.indented.toList = (Value.object .none (Json.indentedEntries 0 p.parts)).text := by
  rw [indented, String.toList_ofList, members_eq_parts, Json.indented_eq_text]

/-! ## What is read -/

/-- The premium that a document is read as. -/
def rereadPremium (x : Binary64) : Binary64 := (Content.number x.numeral).real?.getD x

/-- The policy that a document is read as. -/
def reread (p : Policy) : Policy := { p with premium := rereadPremium p.premium }

theorem real?_numeral (x : Binary64) : (Content.number x.numeral).real? = some (rereadPremium x) := by
  obtain ⟨y, number, -, -⟩ := x.wire_number
  have read : (Content.number x.numeral).real? = some y := by
    rw [Content.real?, number]
    rfl
  rw [rereadPremium, read]
  rfl

/-- The premium is the same if its numeral has a significand of at most `2 ^ 53` and a power of ten between
    `-22` and `22`. -/
theorem rereadPremium_eq {x : Binary64} (digits : x.numeral.decimal.digits ≤ 2 ^ 53)
    (low : -22 ≤ x.numeral.decimal.power) (high : x.numeral.decimal.power ≤ 22) : rereadPremium x = x := by
  obtain ⟨y, number, -, same⟩ := x.wire_number
  have read : (Content.number x.numeral).real? = some y := by
    rw [Content.real?, number]
    rfl
  rw [rereadPremium, read, same digits low high]
  rfl

theorem members_around (p : Policy) :
    ∃ before after, ∀ x, ({ p with premium := x } : Policy).members =
      before ++ ⟨PolicyField.premium.name, x.wire⟩ :: after := by
  cases new : p.isNew with
  | true => exact ⟨p.members.take 2, p.members.drop 3, fun x => by simp_all [members, isNew]⟩
  | false => exact ⟨p.members.take 3, p.members.drop 4, fun x => by simp_all [members, isNew]⟩

/-- What stands around the premium in a document does not depend on it. -/
theorem document_around (p : Policy) :
    ∃ front back, ∀ x,
      ({ p with premium := x } : Policy).document = String.ofList (front ++ x.wire ++ back) := by
  obtain ⟨before, after, members⟩ := p.members_around
  let written (m : Json.Member) : List Char := Json.quote m.name.toList ++ ':' :: m.value
  obtain ⟨front, back, around⟩ := Text.joined_around [','] (before.map written) (after.map written)
  refine ⟨'\x7b' :: (front ++ Json.quote PolicyField.premium.name.toList ++ [':']), back ++ ['\x7d'],
    fun x => ?_⟩
  have joined := around (written ⟨PolicyField.premium.name, x.wire⟩)
  rw [← List.map_cons, ← List.map_append] at joined
  rw [document, Json.compact, members, joined]
  simp [written]

/-- The document of the policy that is read is the one that was written exactly if the premium is the same. -/
theorem document_reread_iff (p : Policy) :
    p.reread.document = p.document ↔ rereadPremium p.premium = p.premium := by
  obtain ⟨front, back, around⟩ := p.document_around
  constructor
  · intro same
    have texts : front ++ (rereadPremium p.premium).wire ++ back = front ++ p.premium.wire ++ back :=
      String.ofList_injective ((around _).symm.trans (same.trans (around p.premium)))
    exact Binary64.wire_injective (List.append_cancel_left (List.append_cancel_right texts))
  · intro same
    rw [reread, same]

theorem contents_of_parts {es : List (Entry Value)} {ps : List Part}
    (same : es.map Entry.said = ps.map Part.said) (f : PolicyField) :
    Json.contents f es = (ps.filter fun p => p.name ∈ f.names).map fun p => p.value.content := by
  have compact : es.map Entry.said = (Json.compactEntries ps).map Entry.said :=
    same.trans (Json.said_compactEntries ps).symm
  rw [contents_of_said compact f, Json.contents, Json.compactEntries, List.filter_map, List.map_map]
  congr 1
  refine List.filter_congr fun p _ => ?_
  simp [Json.Entry.isFor, Json.Entry.title?, Json.spelled?_written]

/-- The one value that a document has for a field, unless it is the identifier of a new policy. -/
def content (p : Policy) : PolicyField → Content
  | .id => .number (Json.naturalFigure p.id.toNat).numeral
  | .number => .text (some p.number)
  | .kind => .text (some p.kind)
  | .premium => .number p.premium.numeral
  | .start => .text (some p.start.toText)
  | .finish => .text (some p.finish.toText)
  | .active => .boolean p.active
  | .customer => .number (Json.naturalFigure p.customer.toNat).numeral

theorem contents_parts (p : Policy) (f : PolicyField) :
    ((p.parts.filter fun m => m.name ∈ f.names).map fun m => m.value.content) =
      if f = .id ∧ p.isNew then [] else [p.content f] := by
  have number := Json.spelled?_written p.number
  have kind := Json.spelled?_written p.kind
  have start := Json.spelled?_written p.start.toText
  have finish := Json.spelled?_written p.finish.toText
  rw [Date.toText, String.toList_ofList] at start finish
  unfold parts
  cases p.isNew <;> cases f <;>
    simp [PolicyField.names, PolicyField.name, Value.content, content, number, kind, start,
      finish, Date.toText, Binary64.figure]

theorem read?_content (p : Policy) (f : PolicyField) : f.read? (p.content f) = some (p.reread.get f) := by
  have word : ∀ n : UInt64, n.toNat ≤ UInt64.size - 1 := fun n => Nat.le_sub_one_of_lt n.toNat_lt_size
  have half : ∀ n : UInt32, n.toNat ≤ UInt32.size - 1 := fun n => Nat.le_sub_one_of_lt n.toNat_lt_size
  cases f with
  | id =>
    have read := Json.unsigned?_naturalFigure (word p.id)
    simp only [PolicyField.read?, content, Content.optional, read, Option.map_some, Option.getD_some,
      UInt64.ofNat_toNat]
    rfl
  | customer =>
    have read := Json.unsigned?_naturalFigure (half p.customer)
    simp only [PolicyField.read?, content, Content.optional, read, Option.map_some, Option.getD_some,
      UInt32.ofNat_toNat]
    rfl
  | premium =>
    have read := real?_numeral p.premium
    simp [PolicyField.read?, content, Content.optional, read, Policy.get, reread]
  | start =>
    have read := p.start.read_text
    simp [PolicyField.read?, content, Content.date?, read, Policy.get, reread]
  | finish =>
    have read := p.finish.read_text
    simp [PolicyField.read?, content, Content.date?, read, Policy.get, reread]
  | number => rfl
  | kind => rfl
  | active => rfl

/-- **What each field becomes when a document is read.** -/
theorem become?_parts (p : Policy) {es : List (Entry Value)} (same : es.map Entry.said = p.parts.map Part.said)
    (f : PolicyField) : Json.become? f (Json.contents f es) = some (p.reread.get f) := by
  rw [contents_of_parts same f, contents_parts p f]
  split
  · rename_i unassigned
    obtain ⟨rfl, isNew⟩ := unassigned
    have zero : p.id = 0 := eq_of_beq isNew
    simp [Json.become?, PolicyField.default?, Policy.get, reread, zero]
  · exact p.read?_content f

/-- The members of a document have names. -/
theorem named_of_parts {es : List (Entry Value)} {ps : List Part} (same : es.map Entry.said = ps.map Part.said) :
    ∀ e ∈ es, e.title?.isSome := by
  intro e he
  have said : e.said ∈ ps.map Part.said := by
    rw [← same]
    exact List.mem_map_of_mem he
  obtain ⟨m, -, same⟩ := List.mem_map.mp said
  have title : e.title? = some m.name := congrArg Prod.fst same.symm
  rw [title]
  rfl

/-- A document is read wherever it stands, and what follows it is left. -/
theorem readInside_document (depth : Nat) (p : Policy) (s : List Glyph) :
    readInside depth (Glyph.ofString p.document ++ s) = .ok (p.reread, s) := by
  have said := Json.said_compactEntries p.parts
  rw [Glyph.ofString, document_text]
  exact (readInside_eq_ok_iff depth .none .none _ s s p.reread).mpr
    ⟨rfl, named_of_parts said, become?_parts p said⟩

/-- **A list of documents is read** as the policies that they are read as. -/
theorem parseList_compactList (ps : List Policy) :
    parseList ((Json.compactList (ps.map members)).map .char) = .ok (ps.map reread) := by
  have reads : List.Forall₂ (reader 1).Reads (ps.map members) (ps.map reread) := by
    rw [List.forall₂_map_left_iff, List.forall₂_map_right_iff]
    refine List.forall₂_same.mpr fun p _ s => ?_
    have read := readInside_document 1 p s
    rwa [document, Glyph.ofString, String.toList_ofList] at read
  have read := Json.list_compactList reads []
  rw [List.append_nil] at read
  rw [parseList, readList, read]
  rfl

theorem parse_of_parts (p : Policy) {es : List (Entry Value)} (same : es.map Entry.said = p.parts.map Part.said) :
    parse ((Value.object .none es).text.map .char) = .ok p.reread := by
  have read := (parse_eq_ok_iff ⟨.none, .none, es, .none⟩ p.reread).mpr
    ⟨named_of_parts same, become?_parts p same⟩
  rw [Json.ObjectText.text] at read
  simpa [Json.Gap.none] using read

theorem parse_document (p : Policy) : parse (Glyph.ofString p.document) = .ok p.reread := by
  rw [Glyph.ofString, document_text]
  exact p.parse_of_parts (Json.said_compactEntries p.parts)

end Policy

/-- **Reading undoes writing.** For every policy: its document is read, and as the policy itself, but for its
    premium. The premium is the same if its numeral has a significand of at most `2 ^ 53` and a power of ten
    between `-22` and `22`; the numeral is the one that stands in the document. The identifier `0` is left out.
    The document on several lines is read as the same policy. -/
theorem document_is_read_back (p : Policy) :
    ∃ q, Policy.parse (Glyph.ofString p.document) = .ok q ∧
      q = { p with premium := q.premium } ∧
      (p.premium.numeral.decimal.digits ≤ 2 ^ 53 → -22 ≤ p.premium.numeral.decimal.power →
        p.premium.numeral.decimal.power ≤ 22 → q.premium = p.premium) ∧
      p.premium.numeral.text = p.premium.wire ∧
      ⟨PolicyField.premium.name, p.premium.wire⟩ ∈ p.members ∧
      (p.id = 0 → ∀ m ∈ p.members, m.name ≠ PolicyField.id.name) ∧
      Policy.parse (Glyph.ofString p.indented) = .ok q := by
  refine ⟨p.reread, ?_, rfl, Policy.rereadPremium_eq, p.premium.text_numeral, ?_, ?_, ?_⟩
  · rw [Glyph.ofString, Policy.document_text]
    exact p.parse_of_parts (Json.said_compactEntries p.parts)
  · simp [Policy.members]
  · intro zero m hm
    simp only [Policy.members, Policy.isNew, zero, BEq.rfl, if_true, List.nil_append, List.mem_cons,
      List.not_mem_nil, or_false] at hm
    obtain rfl | rfl | rfl | rfl | rfl | rfl | rfl := hm
    all_goals simp [PolicyField.name]
  · rw [Glyph.ofString, Policy.indented_text]
    exact p.parse_of_parts (Json.said_indentedEntries 0 p.parts)

end PolicyDesk
