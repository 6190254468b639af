import Mathlib.Data.List.Forall2
import PolicyDesk.Json.Record
import PolicyDesk.Json.Writing
import PolicyDesk.Proofs.Text.Pieces

/-!
# Lists are read as they are written

* `Reader.Reads`: a reader makes of an object on one line the value it is for, whatever follows it.
* `elements_moreObjects`: the elements behind the first are read one by one.
* `list_compactList`: so a list without any space is read as the values of its objects.
-/

namespace PolicyDesk.Json

variable {α : Type} {item : Reader α} {first : Bool} {s t r : List Glyph} {a : α}

/-- The object is read as the value, and what follows it is left. -/
def Reader.Reads (item : Reader α) (object : List Member) (a : α) : Prop :=
  ∀ s, item.read ((compact object).map .char ++ s) = .ok (a, s)

/-! ## One element -/

theorem elements_none (h : nextElement first s = .ok none) :
    elements item first s = (closeList s).map fun rest => ([], rest) := by
  rw [elements]
  split
  · rename_i heq
    rw [h] at heq
    cases heq
  · rfl
  · rename_i heq
    rw [h] at heq
    cases heq

theorem elements_some (h : nextElement first s = .ok (some t)) (read : item.read t = .ok (a, r)) :
    elements item first s = (elements item false r).map fun p => (a :: p.1, p.2) := by
  conv => lhs; rw [elements]
  split
  · rename_i heq
    rw [h] at heq
    cases heq
  · rename_i heq
    rw [h] at heq
    cases heq
  · rename_i t' heq
    rw [h] at heq
    cases heq
    split
    · rename_i heq
      rw [read] at heq
      cases heq
    · rename_i heq
      rw [read] at heq
      cases heq
      rfl

/-! ## Objects between commas -/

/-- Every object on one line starts with its brace. -/
theorem compact_start (object : List Member) : ∃ inside, compact object = '\x7b' :: inside := ⟨_, rfl⟩

/-- The objects of a list behind its first, each behind its comma. -/
def moreObjects (objects : List (List Member)) : List Char := objects.flatMap fun object => ',' :: compact object

theorem joined_compact (object : List Member) (objects : List (List Member)) :
    Text.joined [','] ((object :: objects).map compact) = compact object ++ moreObjects objects := by
  rw [List.map_cons, Text.joined_cons, List.flatMap_map]
  rfl

/-- The objects behind the first are read one by one. The induction is on the objects. -/
theorem elements_moreObjects {objects : List (List Member)} {values : List α}
    (reads : List.Forall₂ item.Reads objects values) (s : List Glyph) :
    elements item false ((moreObjects objects).map .char ++ .char ']' :: s) = .ok (values, s) := by
  induction reads with
  | nil =>
    have closed : nextElement false (.char ']' :: s) = .ok none := rfl
    rw [moreObjects, List.flatMap_nil, List.map_nil, List.nil_append, elements_none closed]
    rfl
  | @cons object a objects values read reads ih =>
    rw [moreObjects, List.flatMap_cons, ← moreObjects, List.map_append, List.append_assoc]
    have next : nextElement false ((',' :: compact object).map .char ++
        ((moreObjects objects).map .char ++ .char ']' :: s)) =
        .ok (some ((compact object).map .char ++ ((moreObjects objects).map .char ++ .char ']' :: s))) := by
      obtain ⟨inside, start⟩ := compact_start object
      rw [start]
      rfl
    rw [elements_some next (read _), ih]
    rfl

/-- **A list is read as it is written**: as the values of its objects, one by one. -/
theorem list_compactList {objects : List (List Member)} {values : List α}
    (reads : List.Forall₂ item.Reads objects values) (s : List Glyph) :
    list item ((compactList objects).map .char ++ s) = .ok (values, s) := by
  have elements : elements item true ((Text.joined [','] (objects.map compact)).map .char ++ .char ']' :: s) =
      .ok (values, s) := by
    cases reads with
    | nil =>
      have closed : nextElement true (.char ']' :: s) = .ok none := rfl
      rw [List.map_nil, Text.joined, List.map_nil, List.nil_append, elements_none closed]
      rfl
    | @cons object a objects values read reads =>
      rw [joined_compact, List.map_append, List.append_assoc]
      have next : nextElement true ((compact object).map .char ++
          ((moreObjects objects).map .char ++ .char ']' :: s)) =
          .ok (some ((compact object).map .char ++ ((moreObjects objects).map .char ++ .char ']' :: s))) := by
        obtain ⟨inside, start⟩ := compact_start object
        rw [start]
        rfl
      rw [elements_some next (read _), elements_moreObjects reads]
      rfl
  have opened : skipSpace ((compactList objects).map .char ++ s) = .char '[' ::
      ((Text.joined [','] (objects.map compact)).map .char ++ .char ']' :: s) := by
    simp [compactList, skipSpace, isSpace]
  rw [list, opened]
  simp only [elements]
  rfl

end PolicyDesk.Json
