import PolicyDesk.Json.Typed

/-!
# Records

A record is read member by member into a draft. It may be written as an object, whose members come in
any order, of which none may come twice, and among which unknown ones are passed over; or as a list of
its values in a fixed order.

* `Shape`: the fields of a record and how each is read into the draft.
* `members`: the members of an object up to its closing brace.
* `positions`: the values of a list up to its closing bracket.
* `record`: either of them.
-/

namespace PolicyDesk.Json

/-- The fields of a record and how they are read into a draft. -/
structure Shape (Field Draft : Type) where
  /-- What the record is called in complaints. -/
  title : String
  /-- The fields in the order of a list. -/
  fields : List Field
  /-- The field that a member's name stands for. -/
  field? : String → Option Field
  /-- The name of a field in complaints. -/
  name : Field → String
  /-- Whether the draft has the field. -/
  isSet : Field → Draft → Bool
  /-- Reads a field into the draft. -/
  read : Field → Draft → List Glyph → Except Fault (Draft × List Glyph)
  /-- The draft when a list ends before the field; `none` if the field is required. -/
  skipped : Field → Draft → Option Draft
  /-- The draft before anything is read. -/
  blank : Draft
  /-- Reading a field reads something. -/
  shrinks : ∀ {f d s e r}, read f d s = .ok (e, r) → r.length < s.length

namespace Shape

variable {Field Draft : Type} (shape : Shape Field Draft)

/-- Reads the colon behind a name. -/
def colon (s : List Glyph) : Except Fault (List Glyph) :=
  match skipSpace s with
  | [] => .error (.before .endInObject [])
  | .char ':' :: rest => .ok rest
  | t => .error (.behind .colonExpected t)

/-- Reads a member behind the opening quote of its name. -/
def member (d : Draft) (s : List Glyph) : Except Fault (Draft × List Glyph) := do
  let (name, r) ← string s
  match shape.field? name with
  | none =>
    let t ← colon r
    let rest ← skipValue .outline t
    .ok (d, rest)
  | some f =>
    if shape.isSet f d then .error (.unplaced (.repeatedMember (shape.name f)) r)
    else
      let t ← colon r
      shape.read f d t

/-- The opening quote of the next name is behind the result; `none` before the closing brace. -/
def nextName (first : Bool) (s : List Glyph) : Except Fault (Option (List Glyph)) :=
  match skipSpace s with
  | [] => .error (.before .endInObject [])
  | .char '\x7d' :: _ => .ok none
  | t =>
    if first then
      match t with
      | .char '"' :: rest => .ok (some rest)
      | t => .error (.behind .keyNotString t)
    else match t with
      | .char ',' :: rest =>
        match skipSpace rest with
        | [] => .error (.before .endInValue [])
        | .char '"' :: q => .ok (some q)
        | .char '\x7d' :: q => .error (.behind .trailingComma (.char '\x7d' :: q))
        | q => .error (.behind .keyNotString q)
      | t => .error (.behind .objectCommaExpected t)

theorem colon_length {s r : List Glyph} (h : colon s = .ok r) : r.length < s.length := by
  have hs := skipSpace_length s
  unfold colon at h
  split at h
  · cases h
  · rename_i heq
    cases h
    rw [heq] at hs
    simp only [List.length_cons] at hs
    omega
  · cases h

theorem nextName_length {first : Bool} {s t : List Glyph}
    (h : nextName first s = .ok (some t)) : t.length < s.length := by
  have hs := skipSpace_length s
  unfold nextName at h
  split at h
  · cases h
  · cases h
  · split at h
    · split at h
      · rename_i heq
        cases h
        rw [heq] at hs
        simp only [List.length_cons] at hs
        omega
      · cases h
    · split at h
      · rename_i rest heq
        have hr := skipSpace_length rest
        rw [heq] at hs
        simp only [List.length_cons] at hs
        split at h
        · cases h
        · rename_i heq'
          cases h
          rw [heq'] at hr
          simp only [List.length_cons] at hr
          omega
        · cases h
        · cases h
      · cases h

theorem skipValue_length {care : Care} {s r : List Glyph} (h : skipValue care s = .ok r) :
    r.length ≤ s.length := by
  have key : ∀ stage up s, walk care stage up s = .ok r → r.length ≤ s.length := by
    intro stage up s
    fun_induction walk care stage up s <;> intro h <;> simp_all <;> omega
  exact key _ _ _ h

theorem member_length {d d' : Draft} {s r : List Glyph} (h : shape.member d s = .ok (d', r)) :
    r.length < s.length := by
  unfold member at h
  cases hs : string s with
  | error f => rw [hs] at h; cases h
  | ok p =>
    have h1 := string_length (t := p.1) (r := p.2) hs
    rw [hs] at h
    simp only [bind, Except.bind] at h
    split at h
    · cases hc : colon p.2 with
      | error f => rw [hc] at h; cases h
      | ok t =>
        have h2 := colon_length hc
        rw [hc] at h
        simp only at h
        cases hv : skipValue .outline t with
        | error f => rw [hv] at h; cases h
        | ok q =>
          have h3 := skipValue_length hv
          rw [hv] at h
          cases h
          omega
    · split at h
      · cases h
      · cases hc : colon p.2 with
        | error f => rw [hc] at h; cases h
        | ok t =>
          have h2 := colon_length hc
          rw [hc] at h
          have h3 := shape.shrinks h
          omega

/-- Reads the members of an object up to its closing brace, which is left unread. -/
def members (first : Bool) (d : Draft) (s : List Glyph) : Except Fault (Draft × List Glyph) :=
  match h : nextName first s with
  | .error f => .error f
  | .ok none => .ok (d, s)
  | .ok (some t) =>
    match h' : shape.member d t with
    | .error f => .error f
    | .ok (d', r) =>
      have : r.length < s.length := Nat.lt_trans (shape.member_length h') (nextName_length h)
      members false d' r
termination_by s.length

/-- Reads the values of a list up to its closing bracket, which is left unread. -/
def positions (first : Bool) : List Field → Draft → List Glyph → Except Fault (Draft × List Glyph)
  | [], d, s => .ok (d, s)
  | f :: fs, d, s => do
    match ← nextElement first s with
    | none =>
      match shape.skipped f d with
      | some d => positions first fs d s
      | none =>
        let count := shape.fields.length
        let noun := if count = 1 then " element" else " elements"
        let expected := shape.title ++ " with " ++ String.ofList (Text.natural count) ++ noun
        .error (.unplaced (.tooShort (count - (fs.length + 1)) expected) s)
    | some t =>
      let (d, r) ← shape.read f d t
      positions false fs d r

/-- Makes a value of the draft; a draft that makes none is the whole record's fault. -/
def complete {α : Type} (make : Draft → Except Cause α) (p : Draft × List Glyph) :
    Except Fault (α × List Glyph) :=
  match make p.1 with
  | .ok a => .ok (a, p.2)
  | .error cause => .error (.unplaced cause p.2)

/-- Reads a record and makes a value of the draft. -/
def record {α : Type} (make : Draft → Except Cause α) (s : List Glyph) :
    Except Fault (α × List Glyph) :=
  match skipSpace s with
  | [] => .error (.before .endInValue [])
  | .char '[' :: rest =>
    match ((shape.positions true shape.fields shape.blank rest).bind (complete make)) with
    | .ok (a, r) => (closeList r).map fun q => (a, q)
    | .error f => .error (f.place listEnd)
  | .char '\x7b' :: rest =>
    match ((shape.members true shape.blank rest).bind (complete make)) with
    | .ok (a, r) => .ok (a, objectEnd r)
    | .error f => .error (f.place objectEnd)
  | t => .error (mismatch shape.title t)

theorem closeList_length {s r : List Glyph} (h : closeList s = .ok r) : r.length < s.length := by
  have hs := skipSpace_length s
  unfold closeList at h
  split at h
  · cases h
  · rename_i heq
    cases h
    rw [heq] at hs
    simp only [List.length_cons] at hs
    omega
  · split at h <;> cases h
  · cases h

theorem objectEnd_length (s : List Glyph) : (objectEnd s).length ≤ s.length := by
  have hs := skipSpace_length s
  unfold objectEnd
  split
  · rename_i heq
    rw [heq] at hs
    simp only [List.length_cons] at hs
    omega
  · exact hs

theorem members_length {first : Bool} {d d' : Draft} {s r : List Glyph}
    (h : shape.members first d s = .ok (d', r)) : r.length ≤ s.length := by
  fun_induction members shape first d s with
  | case1 => cases h
  | case2 => cases h; exact Nat.le_refl _
  | case3 => cases h
  | case4 first d s t ht d' r hm hlt ih => have := ih h; omega

theorem positions_length {first : Bool} {fs : List Field} {d d' : Draft} {s r : List Glyph}
    (h : shape.positions first fs d s = .ok (d', r)) : r.length ≤ s.length := by
  induction fs generalizing first d s with
  | nil => cases h; exact Nat.le_refl _
  | cons f fs ih =>
    unfold positions at h
    cases hn : nextElement first s with
    | error e => rw [hn] at h; cases h
    | ok o =>
      rw [hn] at h
      simp only [bind, Except.bind] at h
      cases o with
      | none =>
        simp only at h
        split at h
        · exact ih h
        · cases h
      | some t =>
        have h1 := nextElement_length hn
        simp only at h
        cases hr : shape.read f d t with
        | error e => rw [hr] at h; cases h
        | ok p =>
          have h2 := shape.shrinks (e := p.1) (r := p.2) hr
          rw [hr] at h
          have := ih h
          omega

theorem complete_eq_ok {α : Type} {make : Draft → Except Cause α}
    {x : Except Fault (Draft × List Glyph)} {b : α} {q : List Glyph}
    (h : x.bind (complete make) = .ok (b, q)) : ∃ d, x = .ok (d, q) := by
  cases x with
  | error e => cases h
  | ok p =>
    simp only [Except.bind, complete] at h
    split at h
    · cases h; exact ⟨p.1, rfl⟩
    · cases h

theorem record_length {α : Type} {make : Draft → Except Cause α} {s r : List Glyph} {a : α}
    (h : shape.record make s = .ok (a, r)) : r.length < s.length := by
  have hs := skipSpace_length s
  unfold record at h
  split at h
  · cases h
  · rename_i rest heq
    rw [heq] at hs
    simp only [List.length_cons] at hs
    split at h
    · rename_i b q hq
      obtain ⟨d, hd⟩ := complete_eq_ok hq
      have h1 := positions_length shape hd
      cases hc : closeList q with
      | error e => rw [hc] at h; cases h
      | ok t =>
        have h2 := closeList_length hc
        rw [hc] at h
        cases h
        omega
    · cases h
  · rename_i rest heq
    rw [heq] at hs
    simp only [List.length_cons] at hs
    split at h
    · rename_i b q hq
      obtain ⟨d, hd⟩ := complete_eq_ok hq
      have h1 := members_length shape hd
      have h2 := objectEnd_length q
      cases h
      omega
    · cases h
  · cases h

end Shape

end PolicyDesk.Json
