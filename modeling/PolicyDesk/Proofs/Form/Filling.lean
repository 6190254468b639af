import PolicyDesk.Web.FormBody

/-!
# Which form names and values fill in

* `FormBody.valuesOf`: the values that come with a name. They do not depend on where other names stand.
* `PolicyForm.FilledBy`: names and values fill in a form: each field comes once at most, in any place, and
  other names say nothing.
* `collect_lookup`: what is collected in a field.
* `ofPairs_filledBy`: so the form is the one that is filled in.
-/

namespace PolicyDesk

/-- The values that come with a name. -/
def FormBody.valuesOf (name : String) (pairs : List (String × String)) : List String :=
  (pairs.filter (·.1 == name)).map (·.2)

namespace PolicyForm

open FormBody (valuesOf)

/-- The fields that hold a text, with what they hold. -/
def texts (form : PolicyForm) : List (PolicyField × String) :=
  [(.number, form.number), (.kind, form.kind), (.premium, form.premium), (.start, form.start),
    (.finish, form.finish), (.customer, form.customer)]

/-- The names and values fill in the form. An empty text may be left out; the box comes only if it is ticked.
    Nothing is said about names that are no fields of the form. -/
structure FilledBy (form : PolicyForm) (pairs : List (String × String)) : Prop where
  text : ∀ entry ∈ form.texts,
    valuesOf entry.1.name pairs = [entry.2] ∨ valuesOf entry.1.name pairs = [] ∧ entry.2 = ""
  box : valuesOf PolicyField.active.name pairs = form.active.toList

instance (form : PolicyForm) (pairs : List (String × String)) : Decidable (form.FilledBy pairs) :=
  decidable_of_iff
    ((∀ entry ∈ form.texts,
        valuesOf entry.1.name pairs = [entry.2] ∨ valuesOf entry.1.name pairs = [] ∧ entry.2 = "") ∧
      valuesOf PolicyField.active.name pairs = form.active.toList)
    ⟨fun h => ⟨h.1, h.2⟩, fun h => ⟨h.text, h.box⟩⟩

/-- The fields of the form. -/
def formFields : List PolicyField := [.number, .kind, .premium, .start, .finish, .customer, .active]

variable {name value : String} {field : PolicyField} {given : List (PolicyField × String)}
  {pairs : List (String × String)}

theorem field?_eq_some_iff : field? name = some field ↔ field ∈ formFields ∧ field.name = name := by
  have distinct : ∀ f ∈ formFields, ∀ g ∈ formFields, f.name = g.name → f = g := by decide
  have listed : field? name = formFields.find? (·.name == name) := rfl
  constructor
  · intro h
    rw [listed] at h
    exact ⟨List.mem_of_find?_eq_some h, by simpa using List.find?_some h⟩
  · rintro ⟨mem, rfl⟩
    cases found : formFields.find? (·.name == field.name) with
    | none => simpa using List.find?_eq_none.mp found field mem
    | some f =>
      have same : f.name = field.name := by simpa using List.find?_some found
      rw [listed, found, distinct f (List.mem_of_find?_eq_some found) field mem same]

theorem valuesOf_cons_self (name value : String) (pairs : List (String × String)) :
    valuesOf name ((name, value) :: pairs) = value :: valuesOf name pairs := by
  simp [valuesOf]

theorem valuesOf_cons_ne {other : String} (h : other ≠ name) :
    valuesOf name ((other, value) :: pairs) = valuesOf name pairs := by
  simp [valuesOf, h]

/-- **What is collected in a field** is what was given before, or else the value that comes with its name,
    provided that no field comes twice. -/
theorem collect_lookup
    (once : ∀ f ∈ formFields, (given.lookup f).toList.length + (valuesOf f.name pairs).length ≤ 1) :
    ∃ all, collect given pairs = .ok all ∧
      ∀ f ∈ formFields, all.lookup f = (given.lookup f).or (valuesOf f.name pairs).head? := by
  induction pairs generalizing given with
  | nil => exact ⟨given, rfl, fun f _ => by simp [valuesOf]⟩
  | cons pair pairs ih =>
    obtain ⟨name, value⟩ := pair
    cases known : field? name with
    | none =>
      -- no field has this name, so nothing changes for any of them
      have other : ∀ f ∈ formFields, valuesOf f.name ((name, value) :: pairs) = valuesOf f.name pairs := by
        intro f hf
        refine valuesOf_cons_ne fun same => ?_
        rw [field?_eq_some_iff.mpr ⟨hf, same.symm⟩] at known
        cases known
      obtain ⟨all, collected, fields⟩ := ih fun f hf => other f hf ▸ once f hf
      refine ⟨all, ?_, fun f hf => by rw [other f hf, fields f hf]⟩
      rw [collect, known]
      exact collected
    | some field =>
      obtain ⟨mem, rfl⟩ := field?_eq_some_iff.mp known
      have here := once field mem
      rw [valuesOf_cons_self, List.length_cons] at here
      have fresh : given.lookup field = none := by
        cases earlier : given.lookup field with
        | none => rfl
        | some old =>
          rw [earlier, Option.toList_some, List.length_singleton] at here
          omega
      have last : valuesOf field.name pairs = [] := List.length_eq_zero_iff.mp (by omega)
      have other : ∀ f ∈ formFields, f ≠ field →
          ((field, value) :: given).lookup f = given.lookup f ∧
            valuesOf f.name ((field.name, value) :: pairs) = valuesOf f.name pairs := by
        intro f hf ne
        refine ⟨by rw [List.lookup_cons, beq_false_of_ne ne], valuesOf_cons_ne fun same => ne ?_⟩
        exact Option.some.inj ((field?_eq_some_iff.mpr ⟨hf, same.symm⟩).symm.trans known)
      have self : ((field, value) :: given).lookup field = some value := List.lookup_cons_self
      have more : ∀ f ∈ formFields,
          (((field, value) :: given).lookup f).toList.length + (valuesOf f.name pairs).length ≤ 1 := by
        intro f hf
        by_cases same : f = field
        · rw [same, self, last]
          exact Nat.le_refl 1
        · have kept := other f hf same
          rw [kept.1, ← kept.2]
          exact once f hf
      obtain ⟨all, collected, fields⟩ := ih more
      refine ⟨all, ?_, fun f hf => ?_⟩
      · rw [collect, known]
        simp only [fresh, Option.isSome_none, Bool.false_eq_true, if_false]
        exact collected
      · rw [fields f hf]
        by_cases same : f = field
        · rw [same, self, fresh, valuesOf_cons_self]
          rfl
        · have kept := other f hf same
          rw [kept.1, kept.2]

/-- **Names and values are read as the form that they fill in**, in whatever order they come. -/
theorem ofPairs_filledBy {form : PolicyForm} (h : form.FilledBy pairs) : ofPairs pairs = .ok form := by
  have once : ∀ f ∈ formFields, ((([] : List (PolicyField × String)).lookup f).toList.length +
      (valuesOf f.name pairs).length ≤ 1) := by
    have text : ∀ entry ∈ form.texts, (valuesOf entry.1.name pairs).length ≤ 1 := by
      intro entry mem
      obtain given | ⟨missing, -⟩ := h.text entry mem
      · rw [given]
        exact Nat.le_refl 1
      · rw [missing]
        exact Nat.zero_le 1
    have box : (valuesOf PolicyField.active.name pairs).length ≤ 1 := by
      rw [h.box]
      cases form.active with
      | none => exact Nat.zero_le 1
      | some v => exact Nat.le_refl 1
    simp only [texts, List.forall_mem_cons] at text
    simp only [formFields, List.forall_mem_cons, List.lookup_nil, Option.toList_none, List.length_nil, Nat.zero_add]
    exact ⟨text.1, text.2.1, text.2.2.1, text.2.2.2.1, text.2.2.2.2.1, text.2.2.2.2.2.1, box,
      fun _ none => by cases none⟩
  obtain ⟨all, collected, fields⟩ := collect_lookup once
  have text : ∀ entry ∈ form.texts, entry.1 ∈ formFields → (all.lookup entry.1).getD "" = entry.2 := by
    intro entry mem known
    rw [fields _ known]
    obtain given | ⟨missing, empty⟩ := h.text entry mem
    · rw [given]
      rfl
    · rw [missing, empty]
      rfl
  have box : all.lookup .active = form.active := by
    rw [fields .active (by decide), h.box]
    cases form.active <;> rfl
  simp only [texts, List.forall_mem_cons] at text
  obtain ⟨number, kind, premium, start, finish, customer, -⟩ := text
  rw [ofPairs, collected]
  simp only [Except.map, ofFields, number (by decide), kind (by decide), premium (by decide), start (by decide),
    finish (by decide), customer (by decide), box]

end PolicyForm

end PolicyDesk
