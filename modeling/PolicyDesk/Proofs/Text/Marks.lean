/-!
# Marks in a text

* `behind`: the texts behind all places where a mark stands; `upTo`: the text up to the first of them.
* `isClearOf`: a text in which no mark starts, whatever comes behind it.
* `behind_append`, `upTo_append`: a reader passes over a clear text.
* `behind_mark`, `upTo_mark`: what it reads at a mark.
-/

namespace PolicyDesk.Text

variable {α : Type} [BEq α] [LawfulBEq α] {mark s t : List α} {x : α}

/-- The texts behind all places where the mark stands, in order. -/
def behind (mark : List α) : List α → List (List α)
  | [] => []
  | x :: s =>
    if mark.isPrefixOf (x :: s) then (x :: s).drop mark.length :: behind mark s else behind mark s

/-- The text up to the first place where the mark stands, or all of it if there is none. -/
def upTo (mark : List α) : List α → List α
  | [] => []
  | x :: s => if mark.isPrefixOf (x :: s) then [] else x :: upTo mark s

/-- Neither does the mark stand in the text, nor does the text end in what the mark starts with. -/
def isClearOf (mark : List α) : List α → Bool
  | [] => true
  | x :: s => !mark.isPrefixOf (x :: s) && !(x :: s).isPrefixOf mark && isClearOf mark s

/-! ## Clear texts -/

theorem isClearOf_cons :
    isClearOf mark (x :: s) = true ↔ ¬mark <+: x :: s ∧ ¬x :: s <+: mark ∧ isClearOf mark s = true := by
  simp [isClearOf, ← List.isPrefixOf_iff_prefix, and_assoc]

/-- At the start of a clear text there is no mark, whatever comes behind the text. -/
theorem not_isPrefixOf_append (clear : isClearOf mark (x :: s) = true) (t : List α) :
    ¬mark.isPrefixOf (x :: (s ++ t)) = true := by
  obtain ⟨inside, start, -⟩ := isClearOf_cons.mp clear
  intro marked
  obtain short | long := List.prefix_or_prefix_of_prefix (List.isPrefixOf_iff_prefix.mp marked)
    (List.prefix_append (x :: s) t)
  · exact inside short
  · exact start long

theorem isClearOf_append (clear : isClearOf mark s = true) (rest : isClearOf mark t = true) :
    isClearOf mark (s ++ t) = true := by
  induction s with
  | nil => exact rest
  | cons x s ih =>
    obtain ⟨-, start, later⟩ := isClearOf_cons.mp clear
    refine isClearOf_cons.mpr ⟨fun marked => ?_, fun starts => ?_, ih later⟩
    · exact not_isPrefixOf_append clear t (List.isPrefixOf_iff_prefix.mpr marked)
    · exact start ((List.prefix_append (x :: s) t).trans starts)

/-- A text without the first character of the mark is clear. -/
theorem isClearOf_of_notMem (head : mark.head? = some x) (h : x ∉ s) : isClearOf mark s = true := by
  obtain ⟨rest, rfl⟩ := List.head?_eq_some_iff.mp head
  induction s with
  | nil => rfl
  | cons y s ih =>
    obtain ⟨other, later⟩ := not_or.mp (mt List.mem_cons.mpr h)
    refine isClearOf_cons.mpr ⟨fun marked => ?_, fun starts => ?_, ih later⟩
    · exact other (List.cons_prefix_cons.mp marked).1
    · exact other (List.cons_prefix_cons.mp starts).1.symm

/-- A text that is clear of the start of a mark is clear of the mark. -/
theorem isClearOf_of_prefix {start : List α} (starts : start <+: mark) (clear : isClearOf start s = true) :
    isClearOf mark s = true := by
  induction s with
  | nil => rfl
  | cons x s ih =>
    obtain ⟨inside, short, later⟩ := isClearOf_cons.mp clear
    refine isClearOf_cons.mpr ⟨fun marked => inside (starts.trans marked), fun ends => ?_, ih later⟩
    obtain long | same := List.prefix_or_prefix_of_prefix starts ends
    · exact inside long
    · exact short same

/-! ## Reading -/

/-- There is nothing to find in a clear text. -/
theorem behind_append (clear : isClearOf mark s = true) (t : List α) : behind mark (s ++ t) = behind mark t := by
  induction s with
  | nil => rfl
  | cons x s ih =>
    rw [List.cons_append, behind, if_neg (not_isPrefixOf_append clear t), ih (isClearOf_cons.mp clear).2.2]

theorem behind_of_clear (clear : isClearOf mark s = true) : behind mark s = [] := by
  simpa [behind] using behind_append clear []

theorem upTo_append (clear : isClearOf mark s = true) (t : List α) : upTo mark (s ++ t) = s ++ upTo mark t := by
  induction s with
  | nil => rfl
  | cons x s ih =>
    rw [List.cons_append, upTo, if_neg (not_isPrefixOf_append clear t), ih (isClearOf_cons.mp clear).2.2]
    rfl

/-- **A mark is found** where it stands, if it does not start again inside itself. -/
theorem behind_mark (some : mark ≠ []) (once : isClearOf mark mark.tail = true) (t : List α) :
    behind mark (mark ++ t) = t :: behind mark t := by
  cases mark with
  | nil => exact absurd rfl some
  | cons x rest =>
    have stands : (x :: rest).isPrefixOf (x :: (rest ++ t)) = true :=
      List.isPrefixOf_iff_prefix.mpr (List.prefix_append (x :: rest) t)
    have next : (x :: (rest ++ t)).drop (x :: rest).length = t := List.drop_left
    have later : behind (x :: rest) (rest ++ t) = behind (x :: rest) t := behind_append once t
    rw [List.cons_append, behind, if_pos stands, next, later]

/-- A clear text is read up to the mark. -/
theorem upTo_mark (some : mark ≠ []) (clear : isClearOf mark s = true) (t : List α) :
    upTo mark (s ++ (mark ++ t)) = s := by
  rw [upTo_append clear]
  cases mark with
  | nil => exact absurd rfl some
  | cons x rest =>
    have stands : (x :: rest).isPrefixOf (x :: (rest ++ t)) = true :=
      List.isPrefixOf_iff_prefix.mpr (List.prefix_append (x :: rest) t)
    rw [List.cons_append, upTo, if_pos stands, List.append_nil]

end PolicyDesk.Text
