import PolicyDesk.Text.Pieces

/-!
# Texts that were put together are taken apart again

* `mem_of_mem_pieces`: pieces are made of what is in the text.
* `pieces_cons_separator`, `pieces_of_none`: a piece is what stands before the next separator.
* `pieces_joined`: joining undone.
* `joined_cons`: a joined text piece by piece; `joined_around`: one of the pieces may be exchanged.
* `splitFirst_append`, `splitFirst_of_none`: a text is split at its first separator, if there is one.
* `splitFirst_append_right`: what is put behind a text ends up in the part that comes last.
-/

namespace PolicyDesk.Text

variable {α : Type} {isSeparator : α → Bool} {p s : List α} {x : α}

/-- What is in a piece is in the text. -/
theorem mem_of_mem_pieces (h : p ∈ pieces isSeparator s) (hx : x ∈ p) : x ∈ s := by
  induction s generalizing p with
  | nil =>
    rw [pieces_nil, List.mem_singleton] at h
    rw [h] at hx
    cases hx
  | cons y s ih =>
    rw [pieces_cons] at h
    split at h
    · obtain rfl | later := List.mem_cons.mp h
      · cases hx
      · exact List.mem_cons_of_mem y (ih later hx)
    · cases rest : pieces isSeparator s with
      | nil => exact absurd rest (pieces_ne_nil isSeparator s)
      | cons q ps =>
        rw [rest, extend] at h
        obtain rfl | later := List.mem_cons.mp h
        · obtain rfl | inside := List.mem_cons.mp hx
          · exact List.mem_cons_self
          · exact List.mem_cons_of_mem y (ih (rest ▸ List.mem_cons_self) inside)
        · exact List.mem_cons_of_mem y (ih (rest ▸ List.mem_cons_of_mem q later) hx)

/-- A text without separators is one piece. -/
theorem pieces_of_none (h : ∀ y ∈ p, isSeparator y = false) : pieces isSeparator p = [p] := by
  induction p with
  | nil => rfl
  | cons y p ih =>
    have rest := ih fun z hz => h z (List.mem_cons_of_mem y hz)
    rw [pieces_cons, h y List.mem_cons_self, rest]
    rfl

/-- A piece ends before the first separator. -/
theorem pieces_cons_separator (h : ∀ y ∈ p, isSeparator y = false) (hx : isSeparator x = true) (s : List α) :
    pieces isSeparator (p ++ x :: s) = p :: pieces isSeparator s := by
  induction p with
  | nil => rw [List.nil_append, pieces_cons, hx, if_pos rfl]
  | cons y p ih =>
    have rest := ih fun z hz => h z (List.mem_cons_of_mem y hz)
    rw [List.cons_append, pieces_cons, h y List.mem_cons_self, rest]
    rfl

/-- **Joining is undone** by taking the pieces. -/
theorem pieces_joined (hx : isSeparator x = true) {ps : List (List α)} (some : ps ≠ [])
    (h : ∀ p ∈ ps, ∀ y ∈ p, isSeparator y = false) : pieces isSeparator (joined [x] ps) = ps := by
  induction ps with
  | nil => exact absurd rfl some
  | cons p ps ih =>
    have first := h p List.mem_cons_self
    cases ps with
    | nil => exact pieces_of_none first
    | cons q ps =>
      have rest := ih (List.cons_ne_nil q ps) fun r hr => h r (List.mem_cons_of_mem p hr)
      rw [joined, List.append_assoc, List.singleton_append, pieces_cons_separator first hx, rest]
      exact List.cons_ne_nil q ps

/-- Behind the first piece each piece stands behind a separator. -/
theorem joined_cons (separator p : List α) (ps : List (List α)) :
    joined separator (p :: ps) = p ++ ps.flatMap (separator ++ ·) := by
  induction ps generalizing p with
  | nil => simp [joined]
  | cons q ps ih =>
    rw [joined, ih q, List.flatMap_cons, List.append_assoc, List.append_assoc]
    exact List.cons_ne_nil q ps

/-- What stands around one of the pieces does not depend on it. -/
theorem joined_around (separator : List α) (before after : List (List α)) :
    ∃ front back, ∀ p, joined separator (before ++ p :: after) = front ++ p ++ back := by
  induction before with
  | nil =>
    cases after with
    | nil => exact ⟨[], [], fun p => by simp [joined]⟩
    | cons q after => exact ⟨[], separator ++ joined separator (q :: after), fun p => by simp [joined]⟩
  | cons q before ih =>
    obtain ⟨front, back, around⟩ := ih
    refine ⟨q ++ separator ++ front, back, fun p => ?_⟩
    rw [List.cons_append, joined, around p]
    · simp
    · simp

/-- A text is split at its first separator. -/
theorem splitFirst_append (h : ∀ y ∈ p, isSeparator y = false) (hx : isSeparator x = true) (s : List α) :
    splitFirst isSeparator (p ++ x :: s) = (p, some s) := by
  have before : ∀ y ∈ p, (!isSeparator y) = true := by
    intro y hy
    rw [h y hy]
    rfl
  have stop : ¬ (!isSeparator x) = true := by
    rw [hx]
    exact Bool.noConfusion
  unfold splitFirst
  rw [List.dropWhile_append_of_pos before, List.dropWhile_cons_of_neg (p := fun y => !isSeparator y) stop]
  simp only
  rw [List.takeWhile_append_of_pos before, List.takeWhile_cons_of_neg (p := fun y => !isSeparator y) stop,
    List.append_nil]

/-- A text without separators is not split. -/
theorem splitFirst_of_none (h : ∀ y ∈ p, isSeparator y = false) : splitFirst isSeparator p = (p, none) := by
  have before : ∀ y ∈ p, (!isSeparator y) = true := by
    intro y hy
    rw [h y hy]
    rfl
  have none : (p ++ []).dropWhile (!isSeparator ·) = [] := List.dropWhile_append_of_pos before
  rw [List.append_nil] at none
  rw [splitFirst, none]

/-- A text has no separator, or is split at the first one. -/
theorem splitFirst_cases (isSeparator : α → Bool) (s : List α) :
    (∀ y ∈ s, isSeparator y = false) ∨
      ∃ p x r, (∀ y ∈ p, isSeparator y = false) ∧ isSeparator x = true ∧ s = p ++ x :: r := by
  induction s with
  | nil => exact .inl fun _ h => by cases h
  | cons y s ih =>
    by_cases first : isSeparator y = true
    · exact .inr ⟨[], y, s, (fun _ h => by cases h), first, rfl⟩
    · have first : isSeparator y = false := by simpa using first
      obtain none | ⟨p, x, r, before, hx, rfl⟩ := ih
      · exact .inl (List.forall_mem_cons.mpr ⟨first, none⟩)
      · exact .inr ⟨y :: p, x, r, List.forall_mem_cons.mpr ⟨first, before⟩, hx, rfl⟩

/-- **What is put behind a text**, and has no separator, ends up in the part that comes last. -/
theorem splitFirst_append_right (s : List α) {t : List α} (h : ∀ y ∈ t, isSeparator y = false) :
    splitFirst isSeparator (s ++ t) =
      match splitFirst isSeparator s with
      | (p, none) => (p ++ t, none)
      | (p, some r) => (p, some (r ++ t)) := by
  obtain none | ⟨p, x, r, before, hx, rfl⟩ := splitFirst_cases isSeparator s
  · rw [splitFirst_of_none none, splitFirst_of_none (List.forall_mem_append.mpr ⟨none, h⟩)]
  · rw [splitFirst_append before hx, List.append_assoc, List.cons_append, splitFirst_append before hx]

end PolicyDesk.Text
