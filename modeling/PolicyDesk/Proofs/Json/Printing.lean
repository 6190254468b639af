import PolicyDesk.Proofs.Json.Data
import PolicyDesk.Proofs.Json.Lists
import PolicyDesk.Proofs.Json.Written

/-!
# Both ways of writing say the same

An object, or a list of objects, is written on one line or on several. The texts differ, and what they say does not.

* `entriesData_compactEntries`, `entriesData_indentedEntries`: the members of an object.
* `compactItems`, `indentedItems`: the elements of a list of objects; `compactList_eq_text`,
  `indentedList_eq_text`: the lists that are written are texts of the grammar.
* `compact_denotes`, `indented_denotes`, `compactList_denotes`, `indentedList_denotes`: what the texts say.
-/

namespace PolicyDesk.Json

/-! ## Objects -/

/-- A member that is to be written, without spelling and spaces. -/
def Part.data (p : Part) : Option String × Data := (some p.name, p.value.data)

/-- Members say what is left of their names and values. -/
theorem entriesData_eq (entries : List (Entry Value)) :
    entriesData entries = entries.map fun e => (e.title?, e.value.data) := by
  induction entries with
  | nil => rfl
  | cons e entries ih =>
    rw [entriesData, ih]
    rfl

theorem entriesData_compactEntries (ps : List Part) : entriesData (compactEntries ps) = ps.map Part.data := by
  simp [entriesData_eq, compactEntries, Entry.title?, spelled?_written, Part.data]

theorem entriesData_indentedEntries (level : Nat) (ps : List Part) :
    entriesData (indentedEntries level ps) = ps.map Part.data := by
  fun_induction indentedEntries level ps with
  | case1 => rfl
  | case2 p =>
    rw [entriesData, spelled?_written]
    rfl
  | case3 p q ps ih =>
    rw [entriesData, spelled?_written, ih]
    rfl

/-! ## Lists of objects -/

/-- The elements of a list of objects on one line. -/
def compactItems (objects : List (List Part)) : List (Item Value) :=
  objects.map fun ps => ⟨.none, .object .none (compactEntries ps), .none⟩

/-- The elements of a list of objects, each on lines of its own. -/
def indentedItems : List (List Part) → List (Item Value)
  | [] => []
  | [ps] => [⟨.newLine 1, .object .none (indentedEntries 1 ps), .newLine 0⟩]
  | ps :: qs :: objects =>
    ⟨.newLine 1, .object .none (indentedEntries 1 ps), .none⟩ :: indentedItems (qs :: objects)

theorem moreItems_compactItems (objects : List (List Part)) :
    moreItems (compactItems objects) = moreObjects (objects.map (·.map Part.member)) := by
  induction objects with
  | nil => rfl
  | cons ps objects ih =>
    rw [compactItems, List.map_cons, ← compactItems, moreItems, ih, ← compact_eq_text]
    simp [moreObjects, Gap.none]

/-- **A list on one line** is a text of the grammar. -/
theorem compactList_eq_text (objects : List (List Part)) :
    compactList (objects.map (·.map Part.member)) = (Value.list .none (compactItems objects)).text := by
  cases objects with
  | nil => rfl
  | cons ps objects =>
    rw [compactList, List.map_cons, joined_compact, Value.text, compactItems, List.map_cons, ← compactItems,
      itemsText, moreItems_compactItems, compact_eq_text]
    simp [Gap.none]

/-- Behind the first object each one stands behind a comma and a new line, and the last one ends with the line of
    the closing bracket. -/
theorem itemsText_indentedItems (ps : List Part) (objects : List (List Part)) :
    itemsText (indentedItems (ps :: objects)) = newLine 1 ++ (indented 1 (ps.map Part.member) ++
      ((objects.flatMap fun qs => ',' :: (newLine 1 ++ indented 1 (qs.map Part.member))) ++ newLine 0)) := by
  induction objects generalizing ps with
  | nil =>
    rw [indentedItems, itemsText, moreItems, ← indented_eq_text]
    simp [Gap.newLine]
  | cons qs objects ih =>
    have comma : moreItems (indentedItems (qs :: objects)) = ',' :: itemsText (indentedItems (qs :: objects)) := by
      cases objects <;> rfl
    rw [indentedItems, itemsText, comma, ih qs, ← indented_eq_text, List.flatMap_cons]
    simp [Gap.newLine, Gap.none]

/-- **A list on several lines** is a text of the grammar. -/
theorem indentedList_eq_text (objects : List (List Part)) :
    indentedList (objects.map (·.map Part.member)) = (Value.list .none (indentedItems objects)).text := by
  cases objects with
  | nil => rfl
  | cons ps objects =>
    rw [indentedList, List.map_cons, List.map_cons, Text.joined_cons, List.flatMap_map, List.flatMap_map, Value.text,
      itemsText_indentedItems]
    simp [Gap.none]

theorem itemsData_eq (items : List (Item Value)) : itemsData items = items.map fun i => i.value.data := by
  induction items with
  | nil => rfl
  | cons i items ih =>
    rw [itemsData, ih]
    rfl

theorem itemsData_compactItems (objects : List (List Part)) :
    itemsData (compactItems objects) = objects.map fun ps => .object (ps.map Part.data) := by
  simp [itemsData_eq, compactItems, Value.data, entriesData_compactEntries]

theorem itemsData_indentedItems (objects : List (List Part)) :
    itemsData (indentedItems objects) = objects.map fun ps => .object (ps.map Part.data) := by
  fun_induction indentedItems objects with
  | case1 => rfl
  | case2 ps =>
    rw [itemsData, Value.data, entriesData_indentedEntries]
    rfl
  | case3 ps qs objects ih =>
    rw [itemsData, Value.data, entriesData_indentedEntries, ih]
    rfl

/-! ## What the texts say -/

theorem compact_denotes (ps : List Part) : Denotes (compact (ps.map Part.member)) (.object (ps.map Part.data)) := by
  rw [compact_eq_text, ← entriesData_compactEntries]
  exact denotes_value _

theorem indented_denotes (level : Nat) (ps : List Part) :
    Denotes (indented level (ps.map Part.member)) (.object (ps.map Part.data)) := by
  rw [indented_eq_text, ← entriesData_indentedEntries level]
  exact denotes_value _

theorem compactList_denotes (objects : List (List Part)) :
    Denotes (compactList (objects.map (·.map Part.member)))
      (.list (objects.map fun ps => .object (ps.map Part.data))) := by
  rw [compactList_eq_text, ← itemsData_compactItems]
  exact denotes_value _

theorem indentedList_denotes (objects : List (List Part)) :
    Denotes (indentedList (objects.map (·.map Part.member)))
      (.list (objects.map fun ps => .object (ps.map Part.data))) := by
  rw [indentedList_eq_text, ← itemsData_indentedItems]
  exact denotes_value _

end PolicyDesk.Json
