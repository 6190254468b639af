/-!
# Taking a text apart

* `pieces`: what stands between the separators; always one piece more than separators.
* `joined`: the pieces with a separator between them.
* `splitFirst`: the text before and behind the first separator.
-/

namespace PolicyDesk.Text

variable {α : Type}

/-- Puts one more item in front of the first piece. -/
def extend (x : α) : List (List α) → List (List α)
  | [] => [[x]]
  | p :: ps => (x :: p) :: ps

/-- The pieces between the separators. -/
def pieces (isSeparator : α → Bool) (s : List α) : List (List α) :=
  s.foldr (fun x ps => if isSeparator x then [] :: ps else extend x ps) [[]]

@[simp]
theorem pieces_nil (isSeparator : α → Bool) : pieces isSeparator [] = [[]] := rfl

theorem pieces_cons (isSeparator : α → Bool) (x : α) (s : List α) :
    pieces isSeparator (x :: s) =
      if isSeparator x then [] :: pieces isSeparator s else extend x (pieces isSeparator s) := rfl

theorem pieces_ne_nil (isSeparator : α → Bool) (s : List α) : pieces isSeparator s ≠ [] := by
  cases s with
  | nil => simp
  | cons x s =>
    rw [pieces_cons]
    split
    · simp
    · cases pieces isSeparator s <;> simp [extend]

/-- The pieces with the separator between them. -/
def joined (separator : List α) : List (List α) → List α
  | [] => []
  | [p] => p
  | p :: ps => p ++ separator ++ joined separator ps

/-- The items before the first separator, and those behind it if there is one. -/
def splitFirst (isSeparator : α → Bool) (s : List α) : List α × Option (List α) :=
  match s.dropWhile (!isSeparator ·) with
  | [] => (s, none)
  | _ :: rest => (s.takeWhile (!isSeparator ·), some rest)

end PolicyDesk.Text
