import PolicyDesk.Proofs.Policy.Grammar

/-!
# Which objects are policies

* `ObjectText.Acceptable`: the conditions under which an object text is a policy.
* `ObjectText.Denotes`: which policy it is, field by field.
* `ObjectText.Rewriting`: another order of the members, a further unknown member, other spaces, another
  spelling of names and values.
* `acceptable_objects_are_policies`: exactly the acceptable objects are read, as the policy they denote, and
  a rewriting of the object does not matter.
-/

namespace PolicyDesk

namespace Json.ObjectText

/-- **The conditions under which an object text is a policy.** Every name is a string. No field is there
    twice, under whichever of its names. Both dates are there. What is there for a field is of its type, or
    `null` if the field has a default. -/
structure Acceptable (o : ObjectText) : Prop where
  named : ∀ e ∈ o.entries, e.title?.isSome
  once : ∀ f, (contents f o.entries).length ≤ 1
  start : contents .start o.entries ≠ []
  finish : contents .finish o.entries ≠ []
  typed : ∀ f, ∀ c ∈ contents f o.entries, (f.read? c).isSome

/-- Which policy an object text is: what is there for a field, or its default, is what the policy has. -/
structure Denotes (o : ObjectText) (p : Policy) : Prop where
  named : ∀ e ∈ o.entries, e.title?.isSome
  fields : ∀ f, become? f (contents f o.entries) = some (p.get f)

/-- A change of the text that does not matter to a reader of policies. The spaces are left open in each of
    them. -/
inductive Rewriting (o o' : ObjectText) : Prop
  /-- The members come in another order. -/
  | order (same : o.entries.Perm o'.entries)
  /-- There is a further member, with a name that is no field's and any value. -/
  | unknown (e : Entry Value) (name : String) (title : e.title? = some name)
      (free : ∀ f : PolicyField, name ∉ f.names) (more : o'.entries = e :: o.entries)
  /-- The names and the values are spelled in another way. -/
  | spelling (same : o.entries.map Entry.said = o'.entries.map Entry.said)

/-! ## Fields that have a value -/

theorem become?_isSome_iff (f : PolicyField) (cs : List Content) :
    (become? f cs).isSome ↔
      cs.length ≤ 1 ∧ (cs = [] → f.default?.isSome) ∧ ∀ c ∈ cs, (f.read? c).isSome := by
  match cs with
  | [] => simp [become?]
  | [c] => simp [become?]
  | c :: c' :: cs => simp [become?]

/-- Only the dates have no default. -/
theorem default?_isSome_iff (f : PolicyField) : f.default?.isSome ↔ f ≠ .start ∧ f ≠ .finish := by
  cases f <;> simp [PolicyField.default?]

/-- The policy with the given fields. -/
def policyOf (g : (f : PolicyField) → f.Kind) : Policy :=
  ⟨g .id, g .number, g .kind, g .premium, g .start, g .finish, g .active, g .customer⟩

theorem get_policyOf (g : (f : PolicyField) → f.Kind) (f : PolicyField) : (policyOf g).get f = g f := by
  cases f <;> rfl

/-- An object is acceptable if and only if it denotes a policy. -/
theorem acceptable_iff (o : ObjectText) : o.Acceptable ↔ ∃ p, o.Denotes p := by
  constructor
  · rintro ⟨named, once, start, finish, typed⟩
    have some : ∀ f, (become? f (contents f o.entries)).isSome := by
      intro f
      refine (become?_isSome_iff f _).mpr ⟨once f, fun missing => ?_, typed f⟩
      refine (default?_isSome_iff f).mpr ⟨?_, ?_⟩
      · rintro rfl
        exact start missing
      · rintro rfl
        exact finish missing
    refine ⟨policyOf fun f => (become? f (contents f o.entries)).get (some f), named, fun f => ?_⟩
    rw [get_policyOf, Option.some_get]
  · rintro ⟨p, named, fields⟩
    have each : ∀ f, (become? f (contents f o.entries)).isSome := by
      intro f
      rw [fields f]
      rfl
    have split := fun f => (become?_isSome_iff f _).mp (each f)
    refine ⟨named, fun f => (split f).1, fun missing => ?_, fun missing => ?_, fun f => (split f).2.2⟩
    · exact absurd rfl ((default?_isSome_iff _).mp ((split .start).2.1 missing)).1
    · exact absurd rfl ((default?_isSome_iff _).mp ((split .finish).2.1 missing)).2

/-! ## Rewriting -/

theorem become?_perm (f : PolicyField) {cs cs' : List Content} (same : cs.Perm cs') :
    become? f cs = become? f cs' := by
  match cs, cs', same.length_eq with
  | [], [], _ => rfl
  | [c], [c'], _ =>
    rw [List.singleton_perm_singleton] at same
    rw [same]
  | _ :: _ :: _, _ :: _ :: _, _ => rfl

theorem contents_perm (f : PolicyField) {es es' : List (Entry Value)} (same : es.Perm es') :
    (contents f es).Perm (contents f es') :=
  (same.filter _).map _

/-- A rewriting denotes the same policy. -/
theorem Rewriting.denotes_iff {o o' : ObjectText} (h : o.Rewriting o') (p : Policy) :
    o.Denotes p ↔ o'.Denotes p := by
  have transfer : ((∀ e ∈ o.entries, e.title?.isSome) ↔ ∀ e ∈ o'.entries, e.title?.isSome) →
      (∀ f, become? f (contents f o.entries) = become? f (contents f o'.entries)) →
      (o.Denotes p ↔ o'.Denotes p) := by
    intro named become
    constructor
    · rintro ⟨n, fields⟩
      exact ⟨named.mp n, fun f => (become f).symm.trans (fields f)⟩
    · rintro ⟨n, fields⟩
      exact ⟨named.mpr n, fun f => (become f).trans (fields f)⟩
  cases h with
  | order same =>
    refine transfer ⟨fun h e he => ?_, fun h e he => ?_⟩ fun f => become?_perm f (contents_perm f same)
    · exact h e (same.mem_iff.mpr he)
    · exact h e (same.mem_iff.mp he)
  | unknown e name title free more =>
    refine transfer ?_ fun f => ?_
    · rw [more, List.forall_mem_cons, title]
      simp
    · rw [more, Policy.contents_cons_of_not_mem title f (free f)]
  | spelling same =>
    refine transfer (Policy.named_of_said same) fun f => ?_
    rw [Policy.contents_of_said same f]

end Json.ObjectText

open Json (ObjectText)

/-- **Exactly the acceptable objects are policies, and nothing else about the text matters.** For every text
    that is one JSON object, with any spaces, spellings, order and nesting: it is read if and only if it is
    acceptable; it is read as the policy that it denotes; and another order of the members, a further unknown
    member, other spaces and other spellings make no difference. -/
theorem acceptable_objects_are_policies (o : ObjectText) :
    ((∃ p, Policy.parse (o.text.map .char) = .ok p) ↔ o.Acceptable) ∧
      (∀ p, Policy.parse (o.text.map .char) = .ok p ↔ o.Denotes p) ∧
      ∀ o' : ObjectText, o.Rewriting o' →
        ∀ p, Policy.parse (o.text.map .char) = .ok p ↔ Policy.parse (o'.text.map .char) = .ok p := by
  have denotes : ∀ (o : ObjectText) (p : Policy), Policy.parse (o.text.map .char) = .ok p ↔ o.Denotes p := by
    intro o p
    rw [Policy.parse_eq_ok_iff]
    exact ⟨fun h => ⟨h.1, h.2⟩, fun h => ⟨h.named, h.fields⟩⟩
  refine ⟨?_, denotes o, fun o' same p => ?_⟩
  · rw [o.acceptable_iff]
    exact exists_congr (denotes o)
  · rw [denotes o p, denotes o' p]
    exact same.denotes_iff p

end PolicyDesk
