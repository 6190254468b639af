import PolicyDesk.Amount.Reading
import PolicyDesk.Calendar.Reading
import PolicyDesk.Policy.Basic
import PolicyDesk.Text.Integer

/-!
# The edit form

* `PolicyForm`: what a browser sends, every field as text.
* `PolicyForm.applyTo`: puts the fields into a policy, one after the other, up to the first that cannot
  be read.
* `PolicyForm.ofPolicy`: the form that shows a policy.
-/

namespace PolicyDesk

/-- The fields of the edit form. -/
structure PolicyForm where
  number : String
  kind : String
  premium : String
  start : String
  finish : String
  customer : String
  /-- Present only if the box is ticked. -/
  active : Option String
  deriving DecidableEq, Repr, Inhabited

namespace PolicyForm

/-- Reads a field that has to be filled in. -/
def required {α : Type} (field : PolicyField) (raw : String) (read : String → Except String α) :
    Except ValidationError α :=
  if Text.isBlankText raw then .error (.missing field)
  else (read (Text.trim raw)).mapError (.invalid field)

/-- Reads the customer; a blank field stands for zero. -/
def readCustomer (raw : String) : Except ValidationError UInt32 :=
  if Text.isBlankText raw then .ok 0
  else
    match Text.readUnsigned (UInt32.size - 1) (Text.trim raw).toList with
    | .ok n => .ok (UInt32.ofNat n)
    | .error fault => .error (.invalid .customer fault.message)

/-- The texts that a ticked box may send. -/
def isTicked : Option String → Bool
  | some v => v == "true" || v == "on" || v == "1"
  | none => false

/-- Puts the fields of the form into the policy. The result is the policy as far as it was filled in,
with the complaint about the first field that could not be read. -/
def applyTo (form : PolicyForm) (p : Policy) : Policy × Option ValidationError :=
  let p := { p with number := Text.trim form.number, kind := Text.trim form.kind }
  match required .premium form.premium Amount.read with
  | .error e => (p, some e)
  | .ok premium =>
    let p := { p with premium }
    match required .start form.start Date.read with
    | .error e => (p, some e)
    | .ok start =>
      let p := { p with start }
      match required .finish form.finish Date.read with
      | .error e => (p, some e)
      | .ok finish =>
        let p := { p with finish }
        match readCustomer form.customer with
        | .error e => (p, some e)
        | .ok customer => ({ p with customer, active := isTicked form.active }, none)

/-- The form that shows a policy: the premium with all its digits, the box ticked if it is active. -/
def ofPolicy (p : Policy) : PolicyForm where
  number := p.number
  kind := p.kind
  premium := p.premium.plain
  start := p.start.toText
  finish := p.finish.toText
  customer := String.ofList (Text.natural p.customer.toNat)
  active := if p.active then some "true" else none

end PolicyForm

end PolicyDesk
