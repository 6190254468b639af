/-!
# Steps that may fail

What comes of several steps one after the other comes of each of them.

* `bind_eq_ok`: a step that goes on with the result of another.
* `map_eq_ok`: a result that is put in another form.
-/

namespace PolicyDesk

variable {ε α β : Type} {x : Except ε α} {b : β}

/-- What was done one after the other succeeded at each step. -/
theorem bind_eq_ok {f : α → Except ε β} (h : (x >>= f) = .ok b) : ∃ a, x = .ok a ∧ f a = .ok b := by
  cases x with
  | error e => cases h
  | ok a => exact ⟨a, rfl, h⟩

theorem map_eq_ok {f : α → β} (h : x.map f = .ok b) : ∃ a, x = .ok a ∧ f a = b := by
  cases x with
  | error e => cases h
  | ok a =>
    cases h
    exact ⟨a, rfl, rfl⟩

end PolicyDesk
