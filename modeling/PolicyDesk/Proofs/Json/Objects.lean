import PolicyDesk.Json.Record
import PolicyDesk.Proofs.Json.Content

/-!
# Objects are read member by member

* `Shape.Reads`: what the fields of a record make of the values they are given.
* `Shape.take`, `Shape.fill`: what a member and what all members of an object do to a draft.
* `member_entry`, `members_entries`: the reader does so, whatever the spaces and the spelling.
* `record_object`: so an object is read as what its members make of a blank draft.
-/

namespace PolicyDesk.Json.Shape

variable {Field Draft : Type} {shape : Shape Field Draft}

/-- Each field of the record makes of a value what `put` says, whatever follows it. -/
def Reads (shape : Shape Field Draft) (put : Field → Content → Draft → Option Draft) : Prop :=
  ∀ (f : Field) (d : Draft) (gap : Gap) (v : Value) (s : List Glyph), EndsNumber s →
    (shape.read f d (gap.chars.map .char ++ (v.text.map .char ++ s))).toOption =
      (put f v.content d).map fun e => (e, s)

/-- What a member does to a draft. Its name has to be a string; an unknown member is passed over, and a
    field that the draft has must not come again. -/
def take (shape : Shape Field Draft) (put : Field → Content → Draft → Option Draft) (d : Draft)
    (e : Entry Value) : Option Draft :=
  (spelled? e.name).bind fun name =>
    match shape.field? name with
    | none => some d
    | some f => if shape.isSet f d then none else put f e.value.content d

/-- What the members do to a draft, one after another. -/
def fill (shape : Shape Field Draft) (put : Field → Content → Draft → Option Draft) :
    Draft → List (Entry Value) → Option Draft
  | d, [] => some d
  | d, e :: es => (shape.take put d e).bind fun d => fill shape put d es

/-! ## One member -/

theorem colon_gap (gap : Gap) (s : List Glyph) :
    colon (gap.chars.map .char ++ .char ':' :: s) = .ok s := by
  rw [colon, skipSpace_token gap (by decide)]
  rfl

/-- A member is read as it is taken. -/
theorem member_entry {put : Field → Content → Draft → Option Draft} (reads : shape.Reads put) (d : Draft)
    (e : Entry Value) {s : List Glyph} (hs : EndsNumber s) :
    (shape.member d ((spelling e.name).map .char ++ (.char '"' :: (e.beforeColon.chars.map .char ++
      (.char ':' :: (e.afterColon.chars.map .char ++ (e.value.text.map .char ++ s))))))).toOption =
      (shape.take put d e).map fun d => (d, s) := by
  have read := fun r => string_spelling e.name r
  have skip := skipValue_text e.value e.afterColon hs
  have valued := fun f => reads f d e.afterColon e.value s hs
  have colon := colon_gap e.beforeColon
    (e.afterColon.chars.map .char ++ (e.value.text.map .char ++ s))
  unfold member take spelled?
  change (Except.bind _ _).toOption = _
  rw [toOption_bind, read, Option.bind_map, Option.bind_map]
  cases meaning e.name with
  | none => rfl
  | some name =>
    simp only [Option.bind_some, Function.comp_apply]
    cases shape.field? (String.ofList name) with
    | none =>
      simp only [bind, Except.bind, colon, skip]
      rfl
    | some f =>
      simp only
      split
      · rfl
      · simp only [bind, Except.bind, colon]
        exact valued f

/-! ## All members -/

section

variable {first : Bool} {d : Draft} {s t : List Glyph}

theorem nextName_close {rest : List Glyph} (h : skipSpace s = .char '\x7d' :: rest) :
    nextName first s = .ok none := by
  unfold nextName
  rw [h]
  rfl

theorem nextName_first {rest : List Glyph} (h : skipSpace s = .char '"' :: rest) :
    nextName true s = .ok (some rest) := by
  unfold nextName
  rw [h]
  rfl

theorem nextName_comma {rest q : List Glyph} (h : skipSpace s = .char ',' :: rest)
    (h' : skipSpace rest = .char '"' :: q) : nextName false s = .ok (some q) := by
  unfold nextName
  rw [h]
  simp [h']

theorem members_none (h : nextName first s = .ok none) : shape.members first d s = .ok (d, s) := by
  rw [members]
  split <;> simp_all

theorem members_some (h : nextName first s = .ok (some t)) :
    (shape.members first d s).toOption =
      (shape.member d t).toOption.bind fun p => (shape.members false p.1 p.2).toOption := by
  conv => lhs; rw [members]
  split
  · rename_i heq
    rw [h] at heq
    cases heq
  · rename_i heq
    rw [h] at heq
    cases heq
  · rename_i t' heq
    rw [h] at heq
    cases heq
    split
    · rename_i heq
      rw [heq]
      rfl
    · rename_i heq
      simp only [heq, toOption_ok, Option.bind_some]

end

variable {put : Field → Content → Draft → Option Draft}

theorem objectEnd_gap (gap : Gap) (s : List Glyph) :
    objectEnd (gap.chars.map .char ++ .char '\x7d' :: s) = s := by
  rw [objectEnd, skipSpace_token gap (by decide)]
  rfl

/-- What is left when the members have been read: the draft, and what follows the closing brace. -/
def behind (p : Draft × List Glyph) : Draft × List Glyph := (p.1, objectEnd p.2)

/-- The members behind the first one are read as they fill the draft. The induction is on the members. -/
theorem members_moreEntries (reads : shape.Reads put) (entries : List (Entry Value)) (d : Draft)
    (gap : Gap) (s : List Glyph) :
    (shape.members false d
      (gap.chars.map .char ++ ((moreEntries entries).map .char ++ .char '\x7d' :: s))).toOption.map behind =
      (shape.fill put d entries).map fun d => (d, s) := by
  induction entries generalizing d gap with
  | nil =>
    have close := skipSpace_token gap (c := '\x7d') (by decide) s
    rw [moreEntries, List.map_nil, List.nil_append, members_none (nextName_close close), toOption_ok,
      Option.map_some, behind, objectEnd_gap]
    rfl
  | cons e entries ih =>
    have ends := endsNumber_gap e.after (endsNumber_moreEntries entries s)
    have member := fun d => member_entry reads d e ends
    have comma := skipSpace_token gap (c := ',') (by decide)
    have quote := skipSpace_token e.before (c := '"') (by decide)
    simp only [moreEntries, List.map_cons, List.map_append, List.cons_append, List.append_assoc]
      at member ⊢
    rw [members_some (nextName_comma (comma _) (quote _)), member, fill]
    cases shape.take put d e with
    | none => rfl
    | some d => exact ih d e.after

/-- **The members of an object are read as they fill the draft.** -/
theorem members_entries (reads : shape.Reads put) (entries : List (Entry Value)) (d : Draft) (gap : Gap)
    (s : List Glyph) :
    (shape.members true d
      (gap.chars.map .char ++ ((entriesText entries).map .char ++ .char '\x7d' :: s))).toOption.map behind =
      (shape.fill put d entries).map fun d => (d, s) := by
  cases entries with
  | nil =>
    have close := skipSpace_token gap (c := '\x7d') (by decide) s
    rw [entriesText, List.map_nil, List.nil_append, members_none (nextName_close close), toOption_ok,
      Option.map_some, behind, objectEnd_gap]
    rfl
  | cons e entries =>
    have ends := endsNumber_gap e.after (endsNumber_moreEntries entries s)
    have member := fun d => member_entry reads d e ends
    have quote : ∀ t, skipSpace (gap.chars.map .char ++ (e.before.chars.map .char ++ .char '"' :: t)) =
        .char '"' :: t := by
      intro t
      rw [skipSpace_gap]
      exact skipSpace_token e.before (by decide) t
    simp only [entriesText, List.map_cons, List.map_append, List.cons_append, List.append_assoc]
      at member ⊢
    rw [members_some (nextName_first (quote _)), member, fill]
    cases shape.take put d e with
    | none => rfl
    | some d => exact members_moreEntries reads entries d e.after s

/-- **An object is read as what its members make of a blank draft**, and what follows it is left. -/
theorem record_object {α : Type} (reads : shape.Reads put) (make : Draft → Except Cause α) (before gap : Gap)
    (entries : List (Entry Value)) (s : List Glyph) :
    (shape.record make
      (before.chars.map .char ++ ((Value.object gap entries).text.map .char ++ s))).toOption =
      ((shape.fill put shape.blank entries).bind fun d => (make d).toOption).map fun a => (a, s) := by
  have start := skipSpace_value before (.object gap entries) s
  have filled := members_entries reads entries shape.blank gap s
  simp only [Value.text, List.map_cons, List.map_append, List.map_nil, List.cons_append, List.nil_append,
    List.append_assoc] at start ⊢
  unfold record
  rw [start]
  generalize gap.chars.map Glyph.char ++ ((entriesText entries).map .char ++ .char '\x7d' :: s) = t at *
  simp only
  cases hm : shape.members true shape.blank t with
  | error e =>
    rw [hm] at filled
    cases hf : shape.fill put shape.blank entries with
    | none => rfl
    | some d =>
      rw [hf] at filled
      cases filled
  | ok p =>
    rw [hm] at filled
    cases hf : shape.fill put shape.blank entries with
    | none =>
      rw [hf] at filled
      cases filled
    | some d =>
      rw [hf] at filled
      have same : p.1 = d := congrArg Prod.fst (Option.some.inj filled)
      have rest : objectEnd p.2 = s := congrArg Prod.snd (Option.some.inj filled)
      simp only [Except.bind, complete, same, Option.bind_some]
      cases make d with
      | error c => rfl
      | ok a =>
        simp only [rest]
        rfl

end PolicyDesk.Json.Shape
