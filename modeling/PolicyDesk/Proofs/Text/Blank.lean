import Mathlib.Data.List.DropRight
import Mathlib.Data.List.TakeWhile
import PolicyDesk.Proofs.Text.Digits
import PolicyDesk.Text.Blank

/-!
# Blank texts

`isBlankText_eq_false_iff`: a text is not blank if one of its characters is not. This is what the desk asks
of a field that has to be filled in.

`strip_eq_self`, `trim_eq_self`: nothing is trimmed off a text without blanks; `strip_around`: blanks around it
are.

`strip_strip`: nothing is trimmed off a text that has been trimmed.
-/

namespace PolicyDesk.Text

theorem stripStart_eq_nil_iff {s : List Char} : stripStart s = [] ↔ ∀ c ∈ s, isBlank c = true := by
  unfold stripStart
  rw [List.dropWhile_eq_nil_iff]

theorem stripEnd_eq_nil_iff {s : List Char} : stripEnd s = [] ↔ ∀ c ∈ s, isBlank c = true := by
  simp [stripEnd, List.dropWhile_eq_nil_iff]

/-- If nothing is left of the text after trimming at the end, nothing was left at the start: the first
    character that is not blank stops both. -/
theorem strip_eq_nil_iff {s : List Char} : strip s = [] ↔ ∀ c ∈ s, isBlank c = true := by
  unfold strip
  rw [stripEnd_eq_nil_iff]
  constructor
  · intro h
    by_cases hs : stripStart s = []
    · exact stripStart_eq_nil_iff.mp hs
    · have stops : isBlank ((stripStart s).head hs) = false := List.head_dropWhile_not isBlank hs
      have blank := h _ (List.head_mem hs)
      rw [stops] at blank
      cases blank
  · intro h
    rw [stripStart_eq_nil_iff.mpr h]
    simp

theorem isBlankText_iff {s : String} : isBlankText s = true ↔ ∀ c ∈ s.toList, isBlank c = true := by
  rw [isBlankText, String.isEmpty_iff, ← strip_eq_nil_iff, ← toList_trim]
  exact String.toList_eq_nil_iff.symm

/-- A text is not blank if one of its characters is not. -/
theorem isBlankText_eq_false_iff {s : String} :
    isBlankText s = false ↔ ∃ c ∈ s.toList, isBlank c = false := by
  rw [← Bool.not_eq_true, isBlankText_iff]
  simp

/-! ## Texts without blanks -/

theorem stripStart_of_not_blank {c : Char} (h : isBlank c = false) (s : List Char) :
    stripStart (c :: s) = c :: s :=
  List.dropWhile_cons_of_neg (by simp [h])

/-- Nothing is trimmed off a text without blanks. -/
theorem strip_eq_self {s : List Char} (h : ∀ c ∈ s, isBlank c = false) : strip s = s := by
  have keep : ∀ t : List Char, (∀ c ∈ t, isBlank c = false) → t.dropWhile isBlank = t := by
    intro t ht
    cases t with
    | nil => rfl
    | cons c t => exact List.dropWhile_cons_of_neg (by simp [ht c List.mem_cons_self])
  have backwards : ∀ c ∈ s.reverse, isBlank c = false := fun c hc => h c (List.mem_reverse.mp hc)
  rw [strip, stripStart, keep s h, stripEnd, keep s.reverse backwards, List.reverse_reverse]

theorem trim_eq_self {s : String} (h : ∀ c ∈ s.toList, isBlank c = false) : trim s = s := by
  rw [trim, strip_eq_self h, String.ofList_toList]

/-- Blanks around a text without blanks are all that is trimmed off it. -/
theorem strip_around {before s after : List Char} (hb : ∀ c ∈ before, isBlank c = true)
    (ha : ∀ c ∈ after, isBlank c = true) (h : ∀ c ∈ s, isBlank c = false) : strip (before ++ s ++ after) = s := by
  have backwards : ∀ c ∈ after.reverse, isBlank c = true := fun c hc => ha c (List.mem_reverse.mp hc)
  cases s with
  | nil =>
    rw [strip_eq_nil_iff]
    simpa [or_imp, forall_and] using And.intro hb ha
  | cons c s =>
    have start : stripStart (before ++ c :: s ++ after) = c :: s ++ after := by
      rw [stripStart, List.append_assoc, List.dropWhile_append_of_pos hb]
      exact stripStart_of_not_blank (h c List.mem_cons_self) _
    have kept := strip_eq_self h
    rw [strip, stripStart_of_not_blank (h c List.mem_cons_self), stripEnd] at kept
    rw [strip, start, stripEnd, List.reverse_append, List.dropWhile_append_of_pos backwards, kept]

/-- A text without blanks is not blank if it is not empty. -/
theorem isBlankText_of_not_blank {s : String} (some : s ≠ "") (h : ∀ c ∈ s.toList, isBlank c = false) :
    isBlankText s = false := by
  rw [isBlankText, trim_eq_self h]
  simpa using some

/-- **Trimming once is enough.** -/
theorem strip_strip (s : List Char) : strip (strip s) = strip s := by
  have ends : ∀ t : List Char, stripEnd t = t.rdropWhile isBlank := fun _ => rfl
  have start : stripStart (strip s) = strip s := by
    cases left : stripStart s with
    | nil =>
      rw [strip, left]
      rfl
    | cons c t =>
      have first : isBlank c = false := by
        have some : stripStart s ≠ [] := by
          rw [left]
          exact List.cons_ne_nil c t
        have stops : isBlank ((stripStart s).head some) = false := List.head_dropWhile_not isBlank some
        simpa only [left, List.head_cons] using stops
      -- what is left at the end starts as the text does
      have front : strip s <+: c :: t := by
        rw [strip, left, ends]
        exact List.rdropWhile_prefix _ _
      cases kept : strip s with
      | nil => rfl
      | cons d u =>
        rw [kept] at front
        obtain ⟨rfl, -⟩ := List.cons_prefix_cons.mp front
        exact stripStart_of_not_blank first u
  rw [strip, start, strip, ends, ends, List.rdropWhile_idempotent]

theorem isBlank_of_isDigit {c : Char} (h : isDigit c = true) : isBlank c = false := by
  have all : ∀ n < 10, isBlank (digitChar n) = false := by decide
  obtain ⟨n, small, rfl⟩ := eq_digitChar_of_isDigit h
  exact all n small

end PolicyDesk.Text
