import Mathlib.Tactic.Choose
import Mathlib.Tactic.SplitIfs
import PolicyDesk.Policy.Document
import PolicyDesk.Proofs.Json.Objects

/-!
# How a policy is read from an object

* `PolicyField.Kind`, `PolicyField.names`, `PolicyField.default?`, `PolicyField.read?`: the type of a field,
  the names it has in objects, its value when it is missing, and what it makes of a value.
* `contents`, `become?`: what the members of an object say of a field, and what the field becomes.
* `shape_reads`: each field reads what it makes of a value.
* `fill_eq_some_iff`: a draft is filled with what the members say of its fields one by one.
* `readInside_eq_ok_iff`, `parse_eq_ok_iff`: so is a policy, whatever the order of the members.
-/

namespace PolicyDesk

open Json (Content Entry Value Gap spelled? toOption_map toOption_bind toOption_eq_some_iff)

/-! ## The fields -/

namespace PolicyField

/-- The type of a field. -/
abbrev Kind : PolicyField → Type
  | id => UInt64
  | number => String
  | kind => String
  | premium => Binary64
  | start => Date
  | finish => Date
  | active => Bool
  | customer => UInt32

/-- The names of a field in objects. -/
def names : PolicyField → List String
  | active => ["isActive", "active"]
  | f => [f.name]

/-- The value of a field that is missing or `null`; the dates have none. -/
def default? : (f : PolicyField) → Option f.Kind
  | id => some 0
  | number => some ""
  | kind => some ""
  | premium => some .zero
  | start => none
  | finish => none
  | active => some false
  | customer => some 0

end PolicyField

/-- A date: a text in one of its forms, or an integer of 64 bits that counts milliseconds. -/
def Json.Content.date? : Content → Option Date
  | .text t => t.bind fun t => (Date.read t).toOption
  | .number n =>
    n.integer?.bind fun ms =>
      if -0x8000000000000000 ≤ ms ∧ ms < 0x8000000000000000 then Date.ofMillis? ms else none
  | _ => none

/-- What a field makes of a value. -/
def PolicyField.read? : (f : PolicyField) → Content → Option f.Kind
  | id, c => (c.optional (Content.unsigned? (UInt64.size - 1))).map fun n => UInt64.ofNat (n.getD 0)
  | number, c => (c.optional Content.text?).map fun t => t.getD ""
  | kind, c => (c.optional Content.text?).map fun t => t.getD ""
  | premium, c => (c.optional Content.real?).map fun x => x.getD .zero
  | start, c => c.date?
  | finish, c => c.date?
  | active, c => (c.optional Content.boolean?).map fun b => b.getD false
  | customer, c => (c.optional (Content.unsigned? (UInt32.size - 1))).map fun n => UInt32.ofNat (n.getD 0)

/-- A field of a policy. -/
def Policy.get (p : Policy) : (f : PolicyField) → f.Kind
  | .id => p.id
  | .number => p.number
  | .kind => p.kind
  | .premium => p.premium
  | .start => p.start
  | .finish => p.finish
  | .active => p.active
  | .customer => p.customer

/-! ## The objects -/

namespace Json

/-- Whether the member has one of the names of the field. -/
def Entry.isFor (f : PolicyField) (e : Entry Value) : Bool := e.title?.any (· ∈ f.names)

/-- What the members of a field say, in their order. -/
def contents (f : PolicyField) (entries : List (Entry Value)) : List Content :=
  (entries.filter (Entry.isFor f)).map fun e => e.value.content

/-- What a field becomes when the members say so: its default if it is missing, and nothing if it is there
    twice. -/
def become? (f : PolicyField) : List Content → Option f.Kind
  | [] => f.default?
  | [c] => f.read? c
  | _ => none

end Json

/-! ## Drafts, field by field -/

namespace Policy

namespace Draft

/-- A field of a draft. -/
def get (d : Draft) : (f : PolicyField) → Option f.Kind
  | .id => d.id
  | .number => d.number
  | .kind => d.kind
  | .premium => d.premium
  | .start => d.start
  | .finish => d.finish
  | .active => d.active
  | .customer => d.customer

/-- The draft with a field filled. -/
def set (d : Draft) : (f : PolicyField) → f.Kind → Draft
  | .id, a => { d with id := some a }
  | .number, a => { d with number := some a }
  | .kind, a => { d with kind := some a }
  | .premium, a => { d with premium := some a }
  | .start, a => { d with start := some a }
  | .finish, a => { d with finish := some a }
  | .active, a => { d with active := some a }
  | .customer, a => { d with customer := some a }

/-- The draft with the given fields. -/
def ofFields (g : (f : PolicyField) → Option f.Kind) : Draft :=
  ⟨g .id, g .number, g .kind, g .premium, g .start, g .finish, g .active, g .customer⟩

/-- What a value does to the draft as a value of a field. -/
def put (f : PolicyField) (c : Content) (d : Draft) : Option Draft := (f.read? c).map (d.set f)

@[simp]
theorem get_set_same (d : Draft) (f : PolicyField) (a : f.Kind) : (d.set f a).get f = some a := by
  cases f <;> rfl

theorem get_set_ne (d : Draft) {f g : PolicyField} (a : f.Kind) (h : g ≠ f) :
    (d.set f a).get g = d.get g := by
  cases f <;> cases g <;> first | rfl | exact absurd rfl h

@[simp]
theorem get_ofFields (g : (f : PolicyField) → Option f.Kind) (f : PolicyField) :
    (ofFields g).get f = g f := by
  cases f <;> rfl

theorem eq_of_get {d d' : Draft} (h : ∀ f, d.get f = d'.get f) : d = d' := by
  obtain ⟨id, number, kind, premium, start, finish, active, customer⟩ := d
  obtain ⟨id', number', kind', premium', start', finish', active', customer'⟩ := d'
  have h₁ := h .id
  have h₂ := h .number
  have h₃ := h .kind
  have h₄ := h .premium
  have h₅ := h .start
  have h₆ := h .finish
  have h₇ := h .active
  have h₈ := h .customer
  simp only [get] at h₁ h₂ h₃ h₄ h₅ h₆ h₇ h₈
  subst h₁ h₂ h₃ h₄ h₅ h₆ h₇ h₈
  rfl

theorem get_blank (f : PolicyField) : blank.get f = none := by
  cases f <;> rfl

theorem isSet_eq (d : Draft) (f : PolicyField) : d.isSet f = (d.get f).isSome := by
  cases f <;> rfl

/-- A draft is the policy whose fields it has; only the dates have no default. -/
theorem make_eq_ok_iff (d : Draft) (p : Policy) :
    d.make = .ok p ↔ ∀ f, (d.get f).or f.default? = some (p.get f) := by
  obtain ⟨id, number, kind, premium, start, finish, active, customer⟩ := d
  obtain ⟨id', number', kind', premium', start', finish', active', customer'⟩ := p
  constructor
  · intro h f
    unfold make at h
    simp only at h
    split at h
    · cases h
    · cases h
    · cases h
      cases f <;> simp [get, PolicyField.default?, Policy.get, Option.or_some]
  · intro h
    have h₁ := h .id
    have h₂ := h .number
    have h₃ := h .kind
    have h₄ := h .premium
    have h₅ := h .start
    have h₆ := h .finish
    have h₇ := h .active
    have h₈ := h .customer
    simp only [get, PolicyField.default?, Policy.get, Option.or_none, Option.or_some, Option.some.injEq]
      at h₁ h₂ h₃ h₄ h₅ h₆ h₇ h₈
    subst h₁ h₂ h₃ h₄ h₅ h₆ h₇ h₈
    rfl

/-! ## Filling a draft -/

/-- What the members make of a field of a draft: what they say if it is not filled and they say it once. -/
def settle? (f : PolicyField) : Option f.Kind → List Content → Option (Option f.Kind)
  | a, [] => some a
  | none, [c] => (f.read? c).map some
  | _, _ => none

theorem settle?_some_cons {f : PolicyField} (a : f.Kind) (c : Content) (cs : List Content) :
    settle? f (some a) (c :: cs) = none := by
  cases cs <;> rfl

theorem settle?_none_cons {f : PolicyField} (c : Content) (cs : List Content) :
    settle? f none (c :: cs) = (f.read? c).bind fun a => settle? f (some a) cs := by
  cases cs with
  | nil => cases h : f.read? c <;> simp [settle?, h]
  | cons c' cs => cases h : f.read? c <;> simp [settle?]

end Draft

/-! ## The reader of a policy -/

theorem fieldOfName?_eq_some_iff {name : String} {f : PolicyField} :
    fieldOfName? name = some f ↔ name ∈ f.names := by
  have known : ∀ g : PolicyField, ∀ n ∈ g.names, fieldOfName? n = some g := by
    intro g
    cases g <;> decide
  constructor
  · intro h
    unfold fieldOfName? at h
    split_ifs at h with h₁ h₂ h₃ h₄ h₅ h₆ h₇ h₈
    all_goals
      cases h
      simp_all [PolicyField.names, PolicyField.name]
  · exact known f name

theorem readInto_value {α : Type} {value : List Glyph → Except Json.Fault (α × List Glyph)}
    {read : Content → Option α} {v : Value} {s : List Glyph}
    (h : (value (v.text.map .char ++ s)).toOption = (read v.content).map fun a => (a, s))
    (put : Option α → Draft) (gap : Gap) :
    (readInto value put (gap.chars.map .char ++ (v.text.map .char ++ s))).toOption =
      (v.content.optional read).map fun a => (put a, s) := by
  rw [readInto, toOption_map, Json.optional_value h gap, Option.map_map]
  rfl

theorem dated_toOption (rest : List Glyph) (e : Except String Date) :
    (dated rest e).toOption = e.toOption.map fun day => (day, rest) := by
  cases e <;> rfl

theorem dateOfMillis_toOption (ms : Int) : (dateOfMillis ms).toOption = Date.ofMillis? ms := by
  unfold dateOfMillis
  cases Date.ofMillis? ms <;> rfl

/-- What a date makes of a number: an integer of 64 bits counts milliseconds. -/
theorem datedNumber (n : Json.Numeral) (s : List Glyph) :
    (n.number.toOption.bind fun x => (match x with
      | .natural n =>
        if n < 0x8000000000000000 then dated s (dateOfMillis n) else .error (.unplaced noDate s)
      | .negative n => dated s (dateOfMillis (-(n : Int)))
      | .real _ => .error (.unplaced noDate s) : Except Json.Fault (Date × List Glyph)).toOption) =
      (Content.number n).date?.map fun day => (day, s) := by
  have large : Json.wordMax = 0xFFFFFFFFFFFFFFFF := rfl
  simp only [Content.date?]
  obtain ⟨k, integer, -, kept⟩ | ⟨k, integer, pos, least, kept⟩ | ⟨out, kept⟩ := Json.number_cases n
  · rw [integer, kept, Json.toOption_ok, Option.bind_some, Option.bind_some]
    simp only
    by_cases fits : k < 0x8000000000000000
    · rw [if_pos fits, if_pos (by omega), dated_toOption, dateOfMillis_toOption]
    · rw [if_neg fits, if_neg (by omega)]
      rfl
  · rw [integer, kept, Json.toOption_ok, Option.bind_some, Option.bind_some]
    simp only
    rw [if_pos (by omega), dated_toOption, dateOfMillis_toOption]
  · have nothing : (n.integer?.bind fun ms =>
        if -0x8000000000000000 ≤ ms ∧ ms < 0x8000000000000000 then Date.ofMillis? ms else none) =
        none := by
      cases hi : n.integer? with
      | none => rfl
      | some i =>
        have := out i hi
        exact if_neg (by omega)
    rw [nothing, kept]
    cases n.real <;> rfl

/-- A date is read as its text or its number says. -/
theorem readDate_value (room : Nat) (v : Value) (gap : Gap) {s : List Glyph} (hs : Json.EndsNumber s) :
    (readDate room (gap.chars.map .char ++ (v.text.map .char ++ s))).toOption =
      v.content.date?.map fun day => (day, s) := by
  obtain ⟨c, t, starts, front, behind⟩ := Json.skipSpace_starts v gap s
  have number := Json.startsNumber_value starts t
  unfold readDate
  rw [behind]
  by_cases isText : ∃ ls, v = .string ls
  · obtain ⟨ls, rfl⟩ := isText
    have read := Json.string_spelling ls s
    cases starts
    simp only [Value.text, List.map_cons, List.map_append, List.map_nil, List.cons_append,
      List.append_assoc, List.nil_append, List.cons.injEq, true_and] at front
    rw [← front]
    change (Except.bind _ _).toOption = _
    rw [toOption_bind, read]
    simp only [Value.content, Content.date?, spelled?]
    cases Json.meaning ls with
    | none => rfl
    | some text => exact dated_toOption s (Date.read (String.ofList text))
  · have noQuote : c ≠ '"' := by
      rintro rfl
      cases v with
      | string ls => exact isText ⟨ls, rfl⟩
      | boolean b => cases b <;> cases starts
      | number n => obtain h | h := starts <;> cases h
      | _ => cases starts
    split
    · rename_i heq
      cases heq
      exact absurd rfl noQuote
    · split
      · rename_i h
        obtain ⟨n, rfl⟩ := number.mp h
        have read := Json.number_figure n hs
        rw [Value.text] at front
        rw [front] at read
        change (Except.bind _ _).toOption = _
        rw [toOption_bind, read, Option.bind_map]
        exact datedNumber n.numeral s
      · rename_i h
        have nothing : v.content.date? = none := by
          cases v with
          | string ls => exact absurd ⟨ls, rfl⟩ isText
          | number n => exact absurd (number.mpr ⟨n, rfl⟩) h
          | _ => rfl
        rw [nothing]
        change (Except.bind _ _).toOption = _
        rw [toOption_bind]
        cases Json.skipValue (.strict room) (.char c :: t) <;> rfl

/-- **Each field reads what it makes of a value.** -/
theorem shape_reads (room : Nat) : (shape room).Reads Draft.put := by
  intro f d gap v s hs
  have unsigned : ∀ (expected : String) {most : Nat}, most ≤ Json.wordMax →
      (Json.unsigned expected most (v.text.map .char ++ s)).toOption =
        (v.content.unsigned? most).map fun n => (n, s) :=
    fun expected _ word => Json.unsigned_value expected word v Gap.none hs
  have text := Json.text_value v Gap.none s
  have day := readDate_value room v gap hs
  change (Draft.read room f d _).toOption = _
  cases f with
  | id =>
    rw [Draft.read, readInto_value (unsigned "u64" (Nat.le_refl _))]
    simp [Draft.put, PolicyField.read?, Function.comp_def, Draft.set]
  | number =>
    rw [Draft.read, readInto_value text]
    simp [Draft.put, PolicyField.read?, Function.comp_def, Draft.set]
  | kind =>
    rw [Draft.read, readInto_value text]
    simp [Draft.put, PolicyField.read?, Function.comp_def, Draft.set]
  | premium =>
    rw [Draft.read, readInto_value (Json.real_value v Gap.none hs)]
    simp [Draft.put, PolicyField.read?, Function.comp_def, Draft.set]
  | start =>
    rw [Draft.read, readDateInto, toOption_map, day]
    simp [Draft.put, PolicyField.read?, Function.comp_def, Draft.set]
  | finish =>
    rw [Draft.read, readDateInto, toOption_map, day]
    simp [Draft.put, PolicyField.read?, Function.comp_def, Draft.set]
  | active =>
    rw [Draft.read, readInto_value (Json.boolean_value v Gap.none s)]
    simp [Draft.put, PolicyField.read?, Function.comp_def, Draft.set]
  | customer =>
    rw [Draft.read, readInto_value (unsigned "u32" (by decide))]
    simp [Draft.put, PolicyField.read?, Function.comp_def, Draft.set]

/-! ## What a run over the members leaves -/

theorem contents_cons (f : PolicyField) (e : Entry Value) (es : List (Entry Value)) :
    Json.contents f (e :: es) =
      if e.isFor f then e.value.content :: Json.contents f es else Json.contents f es := by
  unfold Json.contents
  rw [List.filter_cons]
  split <;> rfl

/-- What is said of a field depends on what the members say, and not on how they are written. -/
theorem contents_of_said {es es' : List (Entry Value)} (same : es.map Entry.said = es'.map Entry.said)
    (f : PolicyField) : Json.contents f es = Json.contents f es' := by
  have said : ∀ es : List (Entry Value), Json.contents f es =
      ((es.map Entry.said).filter fun m => m.1.any (· ∈ f.names)).map Prod.snd := by
    intro es
    rw [List.filter_map, List.map_map]
    rfl
  rw [said es, said es', same]

theorem named_of_said {es es' : List (Entry Value)} (same : es.map Entry.said = es'.map Entry.said) :
    (∀ e ∈ es, e.title?.isSome) ↔ ∀ e ∈ es', e.title?.isSome := by
  have named : ∀ es : List (Entry Value), (∀ e ∈ es, e.title?.isSome) ↔
      ∀ m ∈ es.map Entry.said, m.1.isSome := by
    intro es
    rw [List.forall_mem_map]
    rfl
  rw [named es, named es', same]

theorem isFor_of_title {e : Entry Value} {name : String} (title : e.title? = some name) (f : PolicyField) :
    e.isFor f = decide (name ∈ f.names) := by
  rw [Entry.isFor, title]
  rfl

/-- A name stands for one field at most. -/
theorem names_disjoint {name : String} {f g : PolicyField} (hf : name ∈ f.names) (hg : name ∈ g.names) :
    g = f := by
  have h₁ := fieldOfName?_eq_some_iff.mpr hf
  have h₂ := fieldOfName?_eq_some_iff.mpr hg
  rw [h₁] at h₂
  exact (Option.some.inj h₂).symm

/-- A member of a field changes what is said of this field only. -/
theorem contents_cons_of_mem {e : Entry Value} {name : String} (title : e.title? = some name)
    {f : PolicyField} (mem : name ∈ f.names) (g : PolicyField) (es : List (Entry Value)) :
    Json.contents g (e :: es) =
      if g = f then e.value.content :: Json.contents g es else Json.contents g es := by
  rw [contents_cons, isFor_of_title title]
  by_cases same : g = f
  · rw [if_pos same, if_pos (by simpa [same] using mem)]
  · have other : name ∉ g.names := fun h => same (names_disjoint mem h)
    rw [if_neg same, if_neg (by simpa using other)]

theorem contents_cons_of_not_mem {e : Entry Value} {name : String} (title : e.title? = some name)
    (g : PolicyField) (none : name ∉ g.names) (es : List (Entry Value)) :
    Json.contents g (e :: es) = Json.contents g es := by
  rw [contents_cons, isFor_of_title title, if_neg (by simpa using none)]

/-- **Filling a draft.** It succeeds with the draft whose fields are what the members make of them one by
    one. The induction is on the members, and the draft grows with it. -/
theorem fill_eq_some_iff (room : Nat) (es : List (Entry Value)) (d d' : Draft) :
    (shape room).fill Draft.put d es = some d' ↔
      (∀ e ∈ es, e.title?.isSome) ∧
        ∀ f, Draft.settle? f (d.get f) (Json.contents f es) = some (d'.get f) := by
  induction es generalizing d with
  | nil =>
    simp only [Json.Shape.fill, Json.contents, List.filter_nil, List.map_nil, Draft.settle?,
      Option.some.injEq, List.not_mem_nil, false_implies, implies_true, true_and]
    constructor
    · rintro rfl f
      rfl
    · exact Draft.eq_of_get
  | cons e es ih =>
    simp only [Json.Shape.fill, List.forall_mem_cons]
    cases title : e.title? with
    | none =>
      have refused : (shape room).take Draft.put d e = none := by
        rw [Json.Shape.take, ← Entry.title?, title]
        rfl
      rw [refused]
      simp
    | some name =>
      rw [Json.Shape.take, ← Entry.title?, title, Option.bind_some,
        show (shape room).field? name = fieldOfName? name from rfl]
      cases field : fieldOfName? name with
      | none =>
        have unknown : ∀ f, Json.contents f (e :: es) = Json.contents f es := by
          intro f
          refine contents_cons_of_not_mem title f (fun mem => ?_) es
          rw [fieldOfName?_eq_some_iff.mpr mem] at field
          cases field
        simp only [Option.bind_some, Option.isSome_some, true_and, unknown]
        exact ih d
      | some f =>
        have mem := fieldOfName?_eq_some_iff.mp field
        have said := fun g => contents_cons_of_mem title mem g es
        have own := said f
        rw [if_pos rfl] at own
        simp only [Option.isSome_some, true_and]
        rw [show (shape room).isSet f d = (d.get f).isSome from Draft.isSet_eq d f]
        cases held : d.get f with
        | some a =>
          -- the member comes a second time
          simp only [Option.isSome_some, if_true, Option.bind_none]
          constructor
          · intro h
            cases h
          · rintro ⟨-, h⟩
            have twice := h f
            rw [own, held, Draft.settle?_some_cons] at twice
            cases twice
        | none =>
          simp only [Option.isSome_none, Bool.false_eq_true, if_false, Draft.put]
          cases read : f.read? e.value.content with
          | none =>
            simp only [Option.map_none, Option.bind_none]
            constructor
            · intro h
              cases h
            · rintro ⟨-, h⟩
              have unread := h f
              rw [own, held, Draft.settle?_none_cons, read] at unread
              cases unread
          | some a =>
            rw [Option.map_some, Option.bind_some, ih (d.set f a)]
            have step : ∀ g, Draft.settle? g ((d.set f a).get g) (Json.contents g es) =
                Draft.settle? g (d.get g) (Json.contents g (e :: es)) := by
              intro g
              by_cases same : g = f
              · subst same
                rw [Draft.get_set_same, own, held, Draft.settle?_none_cons, read, Option.bind_some]
              · rw [Draft.get_set_ne d a same, said g, if_neg same]
            simp only [step]

/-! ## Which texts are policies -/

/-- **An object is read as the policy that it denotes**, wherever it stands, and what follows it is left. -/
theorem readInside_eq_ok_iff (depth : Nat) (before gap : Gap) (entries : List (Entry Value))
    (s r : List Glyph) (p : Policy) :
    readInside depth (before.chars.map .char ++ ((Value.object gap entries).text.map .char ++ s)) =
      .ok (p, r) ↔
      r = s ∧ (∀ e ∈ entries, e.title?.isSome) ∧
        ∀ f, Json.become? f (Json.contents f entries) = some (p.get f) := by
  have read := Json.Shape.record_object (shape_reads (depthLimit - 1 - depth)) Draft.make before gap
    entries s
  rw [← toOption_eq_some_iff, readInside, read]
  -- a field becomes its default where the draft has none
  have become : ∀ (f : PolicyField) (cs : List Content) (a : f.Kind),
      Json.become? f cs = some a ↔
        ∃ o, Draft.settle? f none cs = some o ∧ o.or f.default? = some a := by
    intro f cs a
    match cs with
    | [] => simp [Json.become?, Draft.settle?]
    | [c] => cases h : f.read? c <;> simp [Json.become?, Draft.settle?, h]
    | c :: c' :: cs => simp [Json.become?, Draft.settle?]
  simp only [Option.map_eq_some_iff, Option.bind_eq_some_iff, Prod.mk.injEq]
  constructor
  · rintro ⟨_, ⟨d, filled, made⟩, rfl, rfl⟩
    obtain ⟨named, settled⟩ := (fill_eq_some_iff _ entries _ d).mp filled
    have fields := (Draft.make_eq_ok_iff d _).mp (toOption_eq_some_iff.mp made)
    refine ⟨rfl, named, fun f => (become f _ _).mpr ⟨d.get f, ?_, fields f⟩⟩
    have := settled f
    rwa [show (shape (depthLimit - 1 - depth)).blank.get f = none from Draft.get_blank f] at this
  · rintro ⟨rfl, named, fields⟩
    have each := fun f => (become f _ _).mp (fields f)
    choose held settled using each
    refine ⟨p, ⟨Draft.ofFields held, ?_, ?_⟩, rfl, rfl⟩
    · refine (fill_eq_some_iff _ entries _ _).mpr ⟨named, fun f => ?_⟩
      rw [Draft.get_ofFields, show (shape (depthLimit - 1 - depth)).blank.get f = none from
        Draft.get_blank f]
      exact (settled f).1
    · refine toOption_eq_some_iff.mpr ((Draft.make_eq_ok_iff _ p).mpr fun f => ?_)
      rw [Draft.get_ofFields]
      exact (settled f).2

/-- **A text that is one object is read as the policy that the object denotes.** -/
theorem parse_eq_ok_iff (o : Json.ObjectText) (p : Policy) :
    parse (o.text.map .char) = .ok p ↔
      (∀ e ∈ o.entries, e.title?.isSome) ∧
        ∀ f, Json.become? f (Json.contents f o.entries) = some (p.get f) := by
  have inside := readInside_eq_ok_iff 0 o.before o.gap o.entries (o.after.chars.map .char)
  have spaces : Json.skipSpace (o.after.chars.map .char) = [] := by
    have := Json.skipSpace_gap o.after []
    rwa [List.append_nil] at this
  have parsed : parse (o.text.map .char) = .ok p ↔ (read (o.text.map .char)).toOption = some p := by
    rw [parse]
    cases read (o.text.map .char) <;> simp [Except.mapError]
  rw [parsed, read, toOption_bind, Json.ObjectText.text, List.map_append, List.map_append]
  constructor
  · intro h
    obtain ⟨⟨q, r⟩, hread, hfinish⟩ := Option.bind_eq_some_iff.mp h
    obtain ⟨rfl, denoted⟩ := (inside r q).mp (toOption_eq_some_iff.mp hread)
    rw [Json.finish, spaces] at hfinish
    cases hfinish
    exact denoted
  · intro h
    have hread := (inside _ p).mpr ⟨rfl, h⟩
    rw [hread, Json.toOption_ok, Option.bind_some, Json.finish, spaces]
    rfl

end Policy

end PolicyDesk
