import PolicyDesk.Proofs.Service.Plan

/-!
# Runs of plans

The desk and the page both answer every input with a plan. What holds of the requests of one step, from any
state and whatever is answered, holds of a run.

* `Machine`: a state with a plan for every input; `Machine.after`: the state after a run; `Machine.log`: what
  each step of a run sends.
* `Machine.log_forall`: what holds of each step holds of a run.
-/

namespace PolicyDesk

/-- A state with a plan for every input. -/
abbrev Machine (σ ι β : Type) := σ → ι → Plan (σ × β)

namespace Machine

variable {σ ι β : Type}

/-- The state after one input, given what happens to its requests. -/
def next (m : Machine σ ι β) (collection : Url) (s : σ) (i : ι) (delivery : Delivery) : σ :=
  ((m s i).run collection delivery).1

/-- The state after a run: each input comes with what happens to the requests that it causes. -/
def after (m : Machine σ ι β) (collection : Url) : σ → List (ι × Delivery) → σ
  | s, [] => s
  | s, (i, delivery) :: steps => m.after collection (m.next collection s i delivery) steps

/-- What each step of a run sends, whether it arrives or not. -/
def log (m : Machine σ ι β) (collection : Url) : σ → List (ι × Delivery) → List (List Request)
  | _, [] => []
  | s, (i, delivery) :: steps =>
    (m s i).requests collection delivery :: m.log collection (m.next collection s i delivery) steps

variable {m : Machine σ ι β} {collection : Url}

/-- What holds of what one step sends, from any state, holds of every step of a run. -/
theorem log_forall {good : List Request → Prop} (step : ∀ s i delivery, good ((m s i).requests collection delivery))
    (s : σ) (steps : List (ι × Delivery)) : ∀ sent ∈ m.log collection s steps, good sent := by
  induction steps generalizing s with
  | nil =>
    intro sent h
    cases h
  | cons first steps ih =>
    obtain ⟨i, delivery⟩ := first
    intro sent h
    rcases List.mem_cons.mp h with rfl | h
    · exact step s i delivery
    · exact ih (m.next collection s i delivery) sent h

end Machine

end PolicyDesk
