import PolicyDesk.Desk.Actions
import PolicyDesk.Proofs.Service.Plan

/-!
# Which record is in the form

What each action at the desk does to the policy in the form, whatever the service answers.

* `applyTo_id`: a form names no record; it keeps the identifier of the policy it is put into.
* `load_selected`: a load leaves the form alone.
* `add_selected`, `update_selected`: the form stays or is cleared.
* `delete_selected`: the form stays, unless its own record was deleted.
* `pick_selected`: the form stays, or shows the record that was picked.
-/

namespace PolicyDesk

/-- A form names no record. -/
theorem PolicyForm.applyTo_id (form : PolicyForm) (p : Policy) : (form.applyTo p).1.id = p.id := by
  unfold applyTo
  simp only
  split
  · rfl
  · split
    · rfl
    · split
      · rfl
      · split <;> rfl

theorem Policy.draft_id (day : Date) : (draft day).id = 0 := rfl

namespace Desk

variable {β : Type}
variable (service : (c : Call) → Except ServiceError c.Answer)

/-- A call that fails leaves the form alone. -/
theorem asking_selected {d : Desk} {call : Call} {change : Desk → call.Answer → Desk}
    {value : call.Answer → β} {p : Policy}
    (changed : ∀ a, (change { d with lastError := none } a).selected = p) :
    ((d.asking call change value).answered service).1.selected = d.selected ∨
      ((d.asking call change value).answered service).1.selected = p := by
  unfold asking
  rw [Plan.answered_ask, Plan.answered_done]
  cases service call with
  | error e =>
    left
    rfl
  | ok a =>
    right
    exact changed a

theorem load_selected (d : Desk) : (d.load.answered service).1.selected = d.selected :=
  or_self_iff.mp (asking_selected service fun _ => rfl)

theorem add_selected (today : Date) (d : Desk) :
    ((d.add today).answered service).1.selected = d.selected ∨
      ((d.add today).answered service).1.selected = .draft today := by
  unfold add
  split
  · left
    rfl
  · exact asking_selected service fun _ => rfl

theorem update_selected (today : Date) (d : Desk) :
    ((d.update today).answered service).1.selected = d.selected ∨
      ((d.update today).answered service).1.selected = .draft today := by
  unfold update
  simp only
  split
  · left
    rfl
  · exact asking_selected service fun _ => rfl

theorem delete_selected (today : Date) (id : UInt64) (d : Desk) :
    ((d.delete today id).answered service).1.selected = d.selected ∨
      (d.selected.id = id ∧ ((d.delete today id).answered service).1.selected = .draft today) := by
  by_cases h : d.selected.id = id
  · have ends : ((d.delete today id).answered service).1.selected = d.selected ∨
        ((d.delete today id).answered service).1.selected = .draft today :=
      asking_selected service fun _ => if_pos h
    exact ends.imp_right fun cleared => ⟨h, cleared⟩
  · left
    exact or_self_iff.mp (asking_selected service fun _ => if_neg h)

theorem pick_selected (id : UInt64) (d : Desk) :
    (d.pick id).1.selected = d.selected ∨ (d.pick id).1.selected.id = id := by
  unfold pick
  split
  · left
    rfl
  · rename_i p found
    have own : p.id = id := by simpa using List.find?_some found
    right
    exact own

end Desk

end PolicyDesk
