import PolicyDesk.Amount.Written
import PolicyDesk.Calendar.Date
import PolicyDesk.Text.Blank

/-!
# Insurance policies

* `Policy`: the record that the backend keeps and the desk edits. The identifier `0` marks a policy
  that the backend has not stored yet.
* `Policy.draft`: a blank policy of a day.
* `ValidationError`: what is wrong with a policy or with a field of the form.
* `Policy.check`: number and type have to be filled in.
-/

namespace PolicyDesk

/-- One insurance policy. -/
structure Policy where
  id : UInt64
  number : String
  kind : String
  premium : Binary64
  start : Date
  finish : Date
  active : Bool
  customer : UInt32
  deriving DecidableEq, Repr, Inhabited

namespace Policy

/-- A blank policy with both dates on the given day. -/
def draft (day : Date) : Policy := ⟨0, "", "", .zero, day, day, false, 0⟩

/-- Whether the backend has not stored the policy yet. -/
def isNew (p : Policy) : Bool := p.id == 0

end Policy

/-- The fields of a policy that a complaint can name. -/
inductive PolicyField where
  | id
  | number
  | kind
  | premium
  | start
  | finish
  | active
  | customer
  deriving DecidableEq, Repr

/-- The name of a field in forms and documents. -/
def PolicyField.name : PolicyField → String
  | id => "policyId"
  | number => "policyNumber"
  | kind => "policyType"
  | premium => "premiumAmount"
  | start => "startDate"
  | finish => "endDate"
  | active => "isActive"
  | customer => "customerId"

/-- What can be seen to be wrong before anything is sent. -/
inductive ValidationError where
  /-- A field that has to be filled in is blank. -/
  | missing (field : PolicyField)
  /-- The text of a field cannot be read. -/
  | invalid (field : PolicyField) (reason : String)
  deriving DecidableEq, Repr

/-- The complaint in words. -/
def ValidationError.message : ValidationError → String
  | missing field => field.name ++ " is required"
  | invalid field reason => field.name ++ " is invalid: " ++ reason

namespace Policy

/-- Number and type have to be filled in; the first that is blank is named. -/
def check (p : Policy) : Except ValidationError Unit :=
  if Text.isBlankText p.number then .error (.missing .number)
  else if Text.isBlankText p.kind then .error (.missing .kind)
  else .ok ()

end Policy

end PolicyDesk
