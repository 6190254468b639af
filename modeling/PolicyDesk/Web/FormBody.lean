import PolicyDesk.Form.Basic
import PolicyDesk.Text.Percent
import PolicyDesk.Text.Pieces

/-!
# Forms as they arrive

* `FormBody.pairs`: the names and values of a body.
* `PolicyForm.ofPairs`: the edit form that they fill in. Unknown names are passed over, and no field may
  come twice.
-/

namespace PolicyDesk

namespace FormBody

/-- A name or a value: plus signs stand for blanks, and percent signs for bytes. -/
def decoded (bytes : List UInt8) : String :=
  Glyph.lossy (Glyph.ofBytes (Text.percentDecode (bytes.map fun b => if b = 43 then 32 else b)))

/-- A name and a value with the first equals sign between them; a value may be missing. -/
def pair (bytes : List UInt8) : String × String :=
  let (name, value) := Text.splitFirst (· == 61) bytes
  (decoded name, decoded (value.getD []))

/-- The names and values of a body, with ampersands between the pairs. -/
def pairs (body : List UInt8) : List (String × String) :=
  ((Text.pieces (· == 38) body).filter (!·.isEmpty)).map pair

end FormBody

namespace PolicyForm

/-- The field that a name in a form stands for. -/
def field? (name : String) : Option PolicyField :=
  [PolicyField.number, .kind, .premium, .start, .finish, .customer, .active].find? (·.name == name)

/-- Collects the fields of a form, up to the first that comes again. -/
def collect (given : List (PolicyField × String)) :
    List (String × String) → Except PolicyField (List (PolicyField × String))
  | [] => .ok given
  | (name, value) :: rest =>
    match field? name with
    | none => collect given rest
    | some field =>
      if (given.lookup field).isSome then .error field else collect ((field, value) :: given) rest

/-- The form with the given fields; missing texts are empty, and a missing box is not ticked. -/
def ofFields (given : List (PolicyField × String)) : PolicyForm :=
  let text (field : PolicyField) := (given.lookup field).getD ""
  { number := text .number, kind := text .kind, premium := text .premium, start := text .start
    finish := text .finish, customer := text .customer, active := given.lookup .active }

/-- The form that names and values fill in, or the field that comes twice. -/
def ofPairs (pairs : List (String × String)) : Except PolicyField PolicyForm :=
  (collect [] pairs).map ofFields

end PolicyForm

end PolicyDesk
