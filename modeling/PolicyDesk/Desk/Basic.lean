import PolicyDesk.Form.Basic
import PolicyDesk.Service.Exchange

/-!
# The desk

The desk is what a clerk has open: the list of policies as far as it is known, the policy in the edit
form, and the error that the page shows.

* `Desk`, `Desk.opened`: the state, and how it starts.
* `DeskError`: why an action failed.
* `Desk.settle`: how every action ends. An error changes nothing but the error shown.
-/

namespace PolicyDesk

/-- What a clerk has open. -/
structure Desk where
  policies : List Policy
  /-- The policy in the edit form. -/
  selected : Policy
  /-- The error that the page shows. -/
  lastError : Option String
  deriving DecidableEq, Repr

/-- Why an action failed. -/
inductive DeskError where
  | service (error : ServiceError)
  | validation (error : ValidationError)
  /-- The list has no such policy. -/
  | notListed (id : UInt64)
  /-- Another action has not ended. -/
  | busy
  deriving DecidableEq, Repr

/-- The error in words. -/
def DeskError.message : DeskError → String
  | service e => e.message
  | validation e => e.message
  | notListed id => notFoundMessage id
  | busy => "Another policy action is still in progress"

namespace Desk

/-- An empty list, and a blank policy in the form. -/
def opened (today : Date) : Desk := ⟨[], Policy.draft today, none⟩

/-- The first policy in the list with the identifier. -/
def find? (d : Desk) (id : UInt64) : Option Policy := d.policies.find? (·.id == id)

/-- The desk after an action, with the result of the action. -/
abbrev After (α : Type) := Desk × Except DeskError α

/-- An error is kept for the page and nothing else changes. -/
def failing {β : Type} (d : Desk) (e : DeskError) : After β :=
  ({ d with lastError := some e.message }, .error e)

/-- Ends an action. A success clears the error and changes the desk. -/
def settle {α β : Type} (d : Desk) (change : Desk → α → Desk) (value : α → β) :
    Except DeskError α → After β
  | .error e => d.failing e
  | .ok a => (change { d with lastError := none } a, .ok (value a))

end Desk

end PolicyDesk
