import PolicyDesk.Policy.Document
import PolicyDesk.Proofs.Amount.Wire
import PolicyDesk.Proofs.Text.Blank

/-!
# Complete policies and what their documents say

* `Policy.Complete`: number and type are filled in; `check_eq_ok_iff`: this is what the check asks for.
* `Policy.written?`: what the document of a policy says in a field.
* `written_id`, `written_premium`: the identifier is left out exactly if it is zero, and the premium is
  always a number.
-/

namespace PolicyDesk.Policy

/-- Number and type are filled in. -/
structure Complete (p : Policy) : Prop where
  number : ∃ c ∈ p.number.toList, Text.isBlank c = false
  kind : ∃ c ∈ p.kind.toList, Text.isBlank c = false

theorem check_eq_ok_iff {p : Policy} : p.check = .ok () ↔ p.Complete := by
  unfold check
  constructor
  · intro h
    split at h
    · cases h
    · rename_i number
      split at h
      · cases h
      · rename_i kind
        exact ⟨Text.isBlankText_eq_false_iff.mp (Bool.eq_false_iff.mpr number),
          Text.isBlankText_eq_false_iff.mp (Bool.eq_false_iff.mpr kind)⟩
  · rintro ⟨number, kind⟩
    rw [Text.isBlankText_eq_false_iff.mpr number, Text.isBlankText_eq_false_iff.mpr kind]
    rfl

instance (p : Policy) : Decidable p.Complete := decidable_of_iff (p.check = .ok ()) check_eq_ok_iff

/-- What the document says in a field, if it says anything. -/
def written? (p : Policy) (field : PolicyField) : Option (List Char) :=
  (p.members.find? (·.name == field.name)).map (·.value)

/-- The identifier is left out exactly if it is zero. -/
theorem written_id (p : Policy) :
    p.written? .id = if p.id = 0 then none else some (Text.natural p.id.toNat) := by
  by_cases h : p.id = 0
  · simp [written?, members, isNew, PolicyField.name, h]
  · simp [written?, members, isNew, PolicyField.name, h]

theorem written_premium (p : Policy) : p.written? .premium = some p.premium.wire := by
  by_cases h : p.id = 0
  · simp [written?, members, isNew, PolicyField.name, h]
  · simp [written?, members, isNew, PolicyField.name, h]

/-- The document has a number for the premium, and never `null`. -/
theorem premium_isNumeral (p : Policy) :
    ∃ text n, p.written? .premium = some text ∧
      Json.numeral .endInValue (text.map .char) = .ok (n, []) := by
  have h := p.premium.wire_isNumeral .endInValue Json.endsNumber_nil
  rw [List.append_nil] at h
  exact ⟨p.premium.wire, p.premium.numeral, p.written_premium, h⟩

end PolicyDesk.Policy
