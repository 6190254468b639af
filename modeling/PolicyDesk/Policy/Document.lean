import PolicyDesk.Json.Record
import PolicyDesk.Json.Writing
import PolicyDesk.Calendar.Reading
import PolicyDesk.Policy.Basic

/-!
# Policies as JSON documents

* `Policy.document`, `Policy.indented`, `Policy.indentedList`: policies in writing. An identifier `0` is
  left out.
* `Policy.parse`: the policy of a text; `Policy.parseList`: the policies of a reply.

Missing members and `null` stand for zero, the empty text or `false`; only the dates are required. A
date may be a text or a number of milliseconds since 1970. `active` is another name of `isActive`.
-/

namespace PolicyDesk

namespace Policy

/-! ## Writing -/

/-- The members of the document. -/
def members (p : Policy) : List Json.Member :=
  let written (field : PolicyField) (value : List Char) : Json.Member := ⟨field.name, value⟩
  let identifier :=
    if p.isNew then [] else [written .id (Text.natural p.id.toNat)]
  identifier ++
    [written .number (Json.quote p.number.toList),
      written .kind (Json.quote p.kind.toList),
      written .premium p.premium.wire,
      written .start (Json.quote p.start.text),
      written .finish (Json.quote p.finish.text),
      written .active (Json.boolText p.active),
      written .customer (Text.natural p.customer.toNat)]

/-- The document as it is sent. -/
def document (p : Policy) : String := String.ofList (Json.compact p.members)

/-- The document as it is shown to people. -/
def indented (p : Policy) : String := String.ofList (Json.indented 0 p.members)

/-- The documents of a list as they are shown to people. -/
def indentedList (ps : List Policy) : String :=
  String.ofList (Json.indentedList (ps.map members))

/-! ## Reading -/

/-- The members that have been read so far. -/
structure Draft where
  id : Option UInt64
  number : Option String
  kind : Option String
  premium : Option Binary64
  start : Option Date
  finish : Option Date
  active : Option Bool
  customer : Option UInt32

/-- Nothing has been read. -/
def Draft.blank : Draft := ⟨none, none, none, none, none, none, none, none⟩

/-- Whether a member has been read. -/
def Draft.isSet (d : Draft) : PolicyField → Bool
  | .id => d.id.isSome
  | .number => d.number.isSome
  | .kind => d.kind.isSome
  | .premium => d.premium.isSome
  | .start => d.start.isSome
  | .finish => d.finish.isSome
  | .active => d.active.isSome
  | .customer => d.customer.isSome

/-- The policy of a draft. -/
def Draft.make (d : Draft) : Except Json.Cause Policy :=
  match d.start, d.finish with
  | none, _ => .error (.missingMember PolicyField.start.name)
  | some _, none => .error (.missingMember PolicyField.finish.name)
  | some start, some finish =>
    .ok ⟨d.id.getD 0, d.number.getD "", d.kind.getD "", d.premium.getD .zero, start, finish,
      d.active.getD false, d.customer.getD 0⟩

/-- The value of an instant, or the complaint that the calendar does not reach it. -/
def dateOfMillis (ms : Int) : Except String Date :=
  match Date.ofMillis? ms with
  | some date => .ok date
  | none => .error ("timestamp out of range: " ++ String.ofList (Text.integer ms))

/-- The complaint about a date that is neither a text nor an integer. -/
def noDate : Json.Cause := .refused "data did not match any variant of untagged enum RawDate"

/-- Makes a date of what was read, or leaves the complaint to the record. -/
def dated (rest : List Glyph) : Except String Date → Except Json.Fault (Date × List Glyph)
  | .ok date => .ok (date, rest)
  | .error reason => .error (.unplaced (.refused reason) rest)

/-- Reads a date. -/
def readDate (room : Nat) (s : List Glyph) : Except Json.Fault (Date × List Glyph) :=
  match Json.skipSpace s with
  | .char '"' :: rest => do
    let (text, r) ← Json.string rest
    dated r (Date.read text)
  | t =>
    if Json.startsNumber t then do
      let (v, r) ← Json.number t
      match v with
      | .natural n =>
        if n < 0x8000000000000000 then dated r (dateOfMillis n) else .error (.unplaced noDate r)
      | .negative n => dated r (dateOfMillis (-(n : Int)))
      | .real _ => .error (.unplaced noDate r)
    else do
      let r ← Json.skipValue (.strict room) t
      .error (.unplaced noDate r)

/-- The field that a member's name stands for. -/
def fieldOfName? (name : String) : Option PolicyField :=
  if name = "policyId" then some .id
  else if name = "policyNumber" then some .number
  else if name = "policyType" then some .kind
  else if name = "premiumAmount" then some .premium
  else if name = "startDate" then some .start
  else if name = "endDate" then some .finish
  else if name = "isActive" ∨ name = "active" then some .active
  else if name = "customerId" then some .customer
  else none

/-- Reads a value or `null` and puts it into the draft. -/
def readInto {α : Type} (value : List Glyph → Except Json.Fault (α × List Glyph))
    (put : Option α → Draft) (s : List Glyph) : Except Json.Fault (Draft × List Glyph) :=
  (Json.optional value s).map fun (a, r) => (put a, r)

/-- Reads a date and puts it into the draft. -/
def readDateInto (room : Nat) (put : Date → Draft) (s : List Glyph) :
    Except Json.Fault (Draft × List Glyph) :=
  (readDate room s).map fun (a, r) => (put a, r)

/-- Reads a field into the draft. -/
def Draft.read (room : Nat) (field : PolicyField) (d : Draft) (s : List Glyph) :
    Except Json.Fault (Draft × List Glyph) :=
  match field with
  | .id => readInto (Json.unsigned "u64" (UInt64.size - 1))
      (fun n => { d with id := some (UInt64.ofNat (n.getD 0)) }) s
  | .number => readInto Json.text (fun t => { d with number := some (t.getD "") }) s
  | .kind => readInto Json.text (fun t => { d with kind := some (t.getD "") }) s
  | .premium => readInto Json.real (fun x => { d with premium := some (x.getD .zero) }) s
  | .start => readDateInto room (fun day => { d with start := some day }) s
  | .finish => readDateInto room (fun day => { d with finish := some day }) s
  | .active => readInto Json.boolean (fun b => { d with active := some (b.getD false) }) s
  | .customer => readInto (Json.unsigned "u32" (UInt32.size - 1))
      (fun n => { d with customer := some (UInt32.ofNat (n.getD 0)) }) s

/-- A draft for a list that ends before the field. -/
def Draft.skipped (field : PolicyField) (d : Draft) : Option Draft :=
  if field = .start ∨ field = .finish then none else some d

theorem dated_rest {rest r : List Glyph} {e : Except String Date} {day : Date}
    (h : dated rest e = .ok (day, r)) : r = rest := by
  cases e <;> cases h; rfl

theorem readDate_length {room : Nat} {s r : List Glyph} {day : Date}
    (h : readDate room s = .ok (day, r)) : r.length < s.length := by
  have hs := Json.skipSpace_length s
  unfold readDate at h
  split at h
  · rename_i rest heq
    rw [heq] at hs
    simp only [List.length_cons] at hs
    cases ht : Json.string rest with
    | error f => rw [ht] at h; cases h
    | ok p =>
      have := Json.string_length (t := p.1) (r := p.2) ht
      rw [ht] at h
      have := dated_rest h
      subst this
      omega
  · split at h
    · cases hn : Json.number (Json.skipSpace s) with
      | error f => rw [hn] at h; cases h
      | ok p =>
        have := Json.number_length (v := p.1) (r := p.2) hn
        rw [hn] at h
        simp only [bind, Except.bind] at h
        split at h
        · split at h
          · have := dated_rest h; subst this; omega
          · cases h
        · have := dated_rest h; subst this; omega
        · cases h
    · cases hv : Json.skipValue (.strict room) (Json.skipSpace s) with
      | error f => rw [hv] at h; cases h
      | ok q => rw [hv] at h; cases h

theorem readInto_length {α : Type} {value : List Glyph → Except Json.Fault (α × List Glyph)}
    (hv : ∀ s r a, value s = .ok (a, r) → r.length < s.length) {put : Option α → Draft}
    {s r : List Glyph} {d : Draft} (h : readInto value put s = .ok (d, r)) :
    r.length < s.length := by
  unfold readInto at h
  cases ho : Json.optional value s with
  | error f => rw [ho] at h; cases h
  | ok p => rw [ho] at h; cases h; exact Json.optional_length hv ho

theorem readDateInto_length {room : Nat} {put : Date → Draft} {s r : List Glyph} {d : Draft}
    (h : readDateInto room put s = .ok (d, r)) : r.length < s.length := by
  unfold readDateInto at h
  cases ho : readDate room s with
  | error f => rw [ho] at h; cases h
  | ok p => rw [ho] at h; cases h; exact readDate_length ho

theorem Draft.read_length {room : Nat} {field : PolicyField} {d d' : Draft} {s r : List Glyph}
    (h : Draft.read room field d s = .ok (d', r)) : r.length < s.length := by
  unfold Draft.read at h
  cases field with
  | id | customer | premium => exact readInto_length (fun _ _ _ => Json.numeric_length) h
  | number | kind => exact readInto_length (fun _ _ _ => Json.text_length) h
  | active => exact readInto_length (fun _ _ _ => Json.boolean_length) h
  | start | finish => exact readDateInto_length h

/-- The record of a policy. `room` says how many brackets a date may open. -/
def shape (room : Nat) : Json.Shape PolicyField Draft where
  title := "struct Policy"
  fields := [.id, .number, .kind, .premium, .start, .finish, .active, .customer]
  field? := fieldOfName?
  name := PolicyField.name
  isSet := fun field d => d.isSet field
  read := Draft.read room
  skipped := Draft.skipped
  blank := .blank
  shrinks := Draft.read_length

/-- How many brackets may be open at once. -/
abbrev depthLimit : Nat := 127

/-- Reads a policy inside so many brackets. -/
def readInside (depth : Nat) (s : List Glyph) : Except Json.Fault (Policy × List Glyph) :=
  (shape (depthLimit - 1 - depth)).record Draft.make s

/-- Reads a policy inside so many brackets, as a reader. -/
def reader (depth : Nat) : Json.Reader Policy where
  read := readInside depth
  shrinks := Json.Shape.record_length _

/-- Reads a text that is one policy. -/
def read (s : List Glyph) : Except Json.Fault Policy := (readInside 0 s).bind Json.finish

/-- Reads a text that is a list of policies. -/
def readList (s : List Glyph) : Except Json.Fault (List Policy) :=
  (Json.list (reader 1) s).bind Json.finish

/-- The policy of a text, or what is wrong with it and where. -/
def parse (s : List Glyph) : Except String Policy := (read s).mapError fun f => f.describe s

/-- The policies of a text, or what is wrong with it and where. -/
def parseList (s : List Glyph) : Except String (List Policy) :=
  (readList s).mapError fun f => f.describe s

end Policy

end PolicyDesk
