import PolicyDesk.Proofs.Json.Positions
import PolicyDesk.Proofs.Policy.Grammar

/-!
# How a list of policies is read

* `Policy.value?`: the policy that a value is, as an object or as a list of the fields.
* `reader_makes`: a policy is read from a value as it is, however many brackets are around it.
* `parse_value`: so is a text that is one value.
* `Json.IsValue`, `Json.listText`: texts that are each one value, and the list of them.
* `parseList_eq_ok_iff`: the list is read as what its texts are read as on their own, one by one, and not at all if
  one of them is not.
* `parseList_trailingComma`: neither is it with a comma behind the last text.
-/

namespace PolicyDesk

open Json (Content Entry Value Gap Item itemsText moreItems toOption_bind toOption_eq_some_iff)

namespace Policy

/-- The policy that a value is. -/
def value? : Value → Option Policy := (shape (depthLimit - 1)).value? Draft.put Draft.make

theorem place_eq (room room' : Nat) (fs : List PolicyField) (d : Draft) (items : List (Item Value)) :
    (shape room).place Draft.put fs d items = (shape room').place Draft.put fs d items := by
  induction fs generalizing d items with
  | nil => cases items <;> rfl
  | cons f fs ih =>
    cases items with
    | nil =>
      rw [Json.Shape.place, Json.Shape.place]
      exact congrArg (Option.bind (Draft.skipped f d)) (funext fun d => ih d [])
    | cons item items =>
      rw [Json.Shape.place, Json.Shape.place]
      exact congrArg (Option.bind _) (funext fun d => ih d items)

theorem fill_eq (room room' : Nat) (d : Draft) (entries : List (Entry Value)) :
    (shape room).fill Draft.put d entries = (shape room').fill Draft.put d entries := by
  induction entries generalizing d with
  | nil => rfl
  | cons e entries ih =>
    rw [Json.Shape.fill, Json.Shape.fill]
    exact congrArg (Option.bind _) (funext ih)

/-- How many brackets a date may open has no say in what a value is. -/
theorem value?_eq (room : Nat) : (shape room).value? Draft.put Draft.make = value? := by
  funext v
  cases v with
  | list gap items =>
    exact congrArg (fun d => Option.bind d fun d => (Draft.make d).toOption) (place_eq room _ _ _ items)
  | object gap entries =>
    exact congrArg (fun d => Option.bind d fun d => (Draft.make d).toOption) (fill_eq room _ _ entries)
  | _ => rfl

/-- **A policy is read from a value as it is**, wherever it stands, and what follows it is left. -/
theorem readInside_value (depth : Nat) (gap : Gap) (v : Value) (s : List Glyph) :
    (readInside depth (gap.chars.map .char ++ (v.text.map .char ++ s))).toOption = (value? v).map fun p => (p, s) := by
  rw [readInside, Json.Shape.record_value (shape_reads _), value?_eq]

theorem reader_makes (depth : Nat) : (reader depth).Makes value? :=
  fun v s _ => readInside_value depth Gap.none v s

theorem reader_comma (depth : Nat) (s : List Glyph) : ((reader depth).read (.char ',' :: s)).toOption = none := rfl

/-! ## Texts -/

variable {s : List Glyph} {t : List Char} {ts : List (List Char)} {p : Policy} {ps : List Policy}

theorem parse_eq_ok_iff_read : parse s = .ok p ↔ (read s).toOption = some p := by
  rw [parse]
  cases read s <;> simp [Except.mapError]

theorem parseList_eq_ok_iff_read : parseList s = .ok ps ↔ (readList s).toOption = some ps := by
  rw [parseList]
  cases readList s <;> simp [Except.mapError]

/-- **A text that is one value is read as the policy that the value is.** -/
theorem parse_value (before : Gap) (v : Value) (after : Gap) (p : Policy) :
    parse ((before.chars ++ (v.text ++ after.chars)).map .char) = .ok p ↔ value? v = some p := by
  have inside := readInside_value 0 before v (after.chars.map .char)
  rw [parse_eq_ok_iff_read, read, toOption_bind, List.map_append, List.map_append, inside]
  cases value? v with
  | none => simp
  | some q =>
    simp only [Option.map_some, Option.bind_some, Json.finish_gap, Json.toOption_ok]

end Policy

/-! ## Lists of texts -/

namespace Json

/-- The text of an element, with the spaces around it. -/
def Item.text (i : Item Value) : List Char := i.before.chars ++ (i.value.text ++ i.after.chars)

theorem moreItems_eq (items : List (Item Value)) : moreItems items = items.flatMap fun i => [','] ++ i.text := by
  induction items with
  | nil => rfl
  | cons i items ih => simp [moreItems, Item.text, ih]

theorem itemsText_eq (items : List (Item Value)) : itemsText items = Text.joined [','] (items.map Item.text) := by
  cases items with
  | nil => rfl
  | cons i items =>
    rw [List.map_cons, Text.joined_cons, List.flatMap_map, itemsText, moreItems_eq, Item.text]
    simp

/-- The text is one value, with spaces around it. -/
def IsValue (t : List Char) : Prop := ∃ x, Denotes t x

/-- Texts that are each one value are the elements of a list. -/
theorem exists_items {ts : List (List Char)} (values : ∀ t ∈ ts, IsValue t) :
    ∃ items : List (Item Value), ts = items.map Item.text := by
  induction ts with
  | nil => exact ⟨[], rfl⟩
  | cons t ts ih =>
    obtain ⟨x, before, v, after, rfl, -⟩ := values t List.mem_cons_self
    obtain ⟨items, rfl⟩ := ih fun t mem => values t (List.mem_cons_of_mem _ mem)
    exact ⟨⟨before, v, after⟩ :: items, rfl⟩

/-- The list of the texts. -/
def listText (ts : List (List Char)) : List Char := '[' :: (Text.joined [','] ts ++ [']'])

/-- The list of the texts with a comma too many, and perhaps spaces behind it. -/
def trailingText (ts : List (List Char)) (space : Gap) : List Char :=
  '[' :: (Text.joined [','] ts ++ ',' :: (space.chars ++ [']']))

/-- The elements of a list are these values. -/
theorem itemsValues?_eq_some_iff {α : Type} {value? : Value → Option α} {items : List (Item Value)} {as : List α} :
    itemsValues? value? items = some as ↔ List.Forall₂ (fun i a => value? i.value = some a) items as := by
  induction items generalizing as with
  | nil =>
    rw [List.forall₂_nil_left_iff]
    exact ⟨fun h => (Option.some.inj h).symm, fun h => congrArg some h.symm⟩
  | cons i items ih =>
    rw [itemsValues?, List.mapM_cons, List.forall₂_cons_left_iff]
    simp only [← ih, itemsValues?, bind, pure, Option.bind_eq_some_iff, Option.some.injEq]
    constructor
    · rintro ⟨a, value, bs, values, rfl⟩
      exact ⟨a, bs, value, values, rfl⟩
    · rintro ⟨a, bs, value, values, rfl⟩
      exact ⟨a, value, bs, values, rfl⟩

end Json

namespace Policy

/-- Each text is read on its own as its policy. -/
def ReadAs (ts : List (List Char)) (ps : List Policy) : Prop :=
  List.Forall₂ (fun t p => parse (t.map .char) = .ok p) ts ps

/-- Texts are read as one list of policies at most. -/
theorem readAs_unique : Relator.RightUnique ReadAs :=
  Relator.RightUnique.forall₂ fun _ _ _ h h' => Except.ok.inj (h.symm.trans h')

theorem exists_readAs_iff (ts : List (List Char)) :
    (∃ ps, ReadAs ts ps) ↔ ∀ t ∈ ts, ∃ p, parse (t.map .char) = .ok p := by
  induction ts with
  | nil => exact ⟨fun _ _ mem => (List.not_mem_nil mem).elim, fun _ => ⟨[], .nil⟩⟩
  | cons t ts ih =>
    rw [List.forall_mem_cons, ← ih]
    constructor
    · rintro ⟨_, first | ⟨first, rest⟩⟩
      exact ⟨⟨_, first⟩, _, rest⟩
    · rintro ⟨⟨p, first⟩, ps, rest⟩
      exact ⟨p :: ps, .cons first rest⟩

/-- **A list of texts is read as what they are read as one by one**, and only spaces may follow it. -/
theorem parseList_eq_ok_iff (values : ∀ t ∈ ts, Json.IsValue t) (ps : List Policy) (tail : List Glyph) :
    parseList ((Json.listText ts).map .char ++ tail) = .ok ps ↔ ReadAs ts ps ∧ Json.skipSpace tail = [] := by
  obtain ⟨items, rfl⟩ := Json.exists_items values
  have read : ReadAs (items.map Item.text) ps ↔ Json.itemsValues? value? items = some ps := by
    rw [ReadAs, List.forall₂_map_left_iff, Json.itemsValues?_eq_some_iff]
    exact Iff.of_eq (congrArg (List.Forall₂ · items ps) (funext fun i => funext fun p =>
      propext (parse_value i.before i.value i.after p)))
  have list := Json.list_items (reader_makes 1) Gap.none Gap.none items tail
  have text : (Json.listText (items.map Item.text)).map .char ++ tail =
      Gap.none.chars.map .char ++ ((Value.list Gap.none items).text.map .char ++ tail) := by
    rw [Json.listText, ← Json.itemsText_eq]
    rfl
  rw [parseList_eq_ok_iff_read, readList, toOption_bind, text, list, read]
  cases Json.itemsValues? value? items with
  | none => simp
  | some qs =>
    rw [Option.map_some, Option.bind_some, toOption_eq_some_iff, Json.finish_eq_ok_iff, Option.some.injEq]

/-- **A list with a comma behind the last text is not read**, nor one with a comma and no text. -/
theorem parseList_trailingComma (values : ∀ t ∈ ts, Json.IsValue t) (space : Gap) (tail : List Glyph) :
    ∃ reason, parseList ((Json.trailingText ts space).map .char ++ tail) = .error reason := by
  obtain ⟨items, rfl⟩ := Json.exists_items values
  have list := Json.list_trailingComma (reader_makes 1) (reader_comma 1) Gap.none Gap.none space items tail
  have text : (Json.trailingText (items.map Item.text) space).map .char ++ tail =
      Gap.none.chars.map .char ++ .char '[' :: (Gap.none.chars.map .char ++ ((itemsText items).map .char ++
        .char ',' :: (space.chars.map .char ++ .char ']' :: tail))) := by
    rw [Json.trailingText, ← Json.itemsText_eq]
    simp [Gap.none]
  cases read : parseList ((Json.trailingText (items.map Item.text) space).map .char ++ tail) with
  | error reason => exact ⟨reason, rfl⟩
  | ok ps =>
    rw [parseList_eq_ok_iff_read, readList, toOption_bind, text, list] at read
    cases read

end Policy

end PolicyDesk
