import PolicyDesk.Json.Record
import PolicyDesk.Service.Status
import PolicyDesk.Text.Blank

/-!
# What a refusing service says

`Complaint.message`: the message of a reply that refuses a call. It is the `message` of a JSON record if
the body is one; or else the body without the blanks around it, if anything is left of it; or else the
phrase that goes with the status.
-/

namespace PolicyDesk.Complaint

/-- The only field that counts. -/
inductive Field where
  | message
  deriving DecidableEq, Repr

/-- Reads the message, which may be `null`, into the draft. -/
def readField (_ : Field) (_ : Option (Option String)) (s : List Glyph) :
    Except Json.Fault (Option (Option String) × List Glyph) :=
  (Json.optional Json.text s).map fun (text, rest) => (some text, rest)

theorem readField_length {f : Field} {d e : Option (Option String)} {s r : List Glyph}
    (h : readField f d s = .ok (e, r)) : r.length < s.length := by
  unfold readField at h
  cases ho : Json.optional Json.text s with
  | error f => rw [ho] at h; cases h
  | ok p =>
    rw [ho] at h
    cases h
    exact Json.optional_length (fun _ _ _ => Json.text_length) ho

/-- The record with a message. -/
def shape : Json.Shape Field (Option (Option String)) where
  title := "struct ErrorBody"
  fields := [.message]
  field? name := if name = "message" then some .message else none
  name _ := "message"
  isSet _ d := d.isSome
  read := readField
  skipped _ _ := none
  blank := none
  shrinks := readField_length

/-- The message of a record, if the text is one and the message is not `null`. -/
def recorded? (s : List Glyph) : Option String :=
  match (shape.record (fun d => .ok d.join) s).bind Json.finish with
  | .ok message => message
  | .error _ => none

/-- What a reply with this status and body says. -/
def message (status : Nat) (body : String) : String :=
  match recorded? (Glyph.ofString body) with
  | some m => m
  | none =>
    let rest := Text.trim body
    if rest.isEmpty then (Status.reason? status).getD "unknown status" else rest

end PolicyDesk.Complaint
