import PolicyDesk.Desk.Actions
import PolicyDesk.Proofs.Service.Machine
import PolicyDesk.Proofs.Service.Request

/-!
# What the desk sends

* `add_requests`, `update_requests`: storing and replacing the policy in the form, one request each if the
  policy passes its checks and none if it does not.
* `perform_makes`: whatever is done at the desk, one call is made at most; only complete policies are sent, and
  only a stored policy is replaced, under its own identifier.
* `Desk.machine`: the desk as a machine, for runs.
-/

namespace PolicyDesk.Desk

variable {d : Desk} {today : Date} {collection : Url}

/-- Whether the policy in the form can replace a stored one. -/
theorem checkStored_eq_ok_iff {p : Policy} : checkStored p = .ok () ↔ p.id ≠ 0 ∧ p.Complete := by
  unfold checkStored Policy.isNew
  by_cases h : p.id = 0
  · simp [h]
  · simp [h, Policy.check_eq_ok_iff]

theorem add_requests (delivery : Delivery) : (d.add today).requests collection delivery =
    if d.selected.Complete then [(Call.create d.selected).request collection] else [] := by
  unfold add
  split
  · rename_i checked
    rw [if_neg fun complete => by cases checked.symm.trans (Policy.check_eq_ok_iff.mpr complete)]
    rfl
  · rename_i checked
    rw [if_pos (Policy.check_eq_ok_iff.mp checked)]
    rfl

theorem update_requests (delivery : Delivery) : (d.update today).requests collection delivery =
    if d.selected.id ≠ 0 ∧ d.selected.Complete then
      [(Call.update d.selected.id d.selected).request collection]
    else [] := by
  unfold update
  simp only
  split
  · rename_i checked
    rw [if_neg fun fit => by cases checked.symm.trans (checkStored_eq_ok_iff.mpr fit)]
    rfl
  · rename_i checked
    rw [if_pos (checkStored_eq_ok_iff.mp checked)]
    rfl

theorem asking_makes {β : Type} {good : Call → Prop} {call : Call} (h : good call)
    (change : Desk → call.Answer → Desk) (value : call.Answer → β) :
    (d.asking call change value).Makes good 1 :=
  .one h _

theorem load_makes {good : Call → Prop} (h : good .list) (d : Desk) : d.load.Makes good 1 :=
  asking_makes h _ _

theorem delete_makes {good : Call → Prop} {id : UInt64} (h : good (.delete id)) (today : Date) (d : Desk) :
    (d.delete today id).Makes good 1 :=
  asking_makes h _ _

theorem add_makes (aims : UInt64 → Prop) (today : Date) (d : Desk) : (d.add today).Makes (Call.Fit aims) 1 := by
  unfold add
  split
  · exact .done
  · rename_i checked
    exact asking_makes (Policy.check_eq_ok_iff.mp checked) _ _

theorem update_makes (today : Date) (d : Desk) : (d.update today).Makes (Call.Fit (· ≠ 0)) 1 := by
  unfold update
  simp only
  split
  · exact .done
  · rename_i checked
    obtain ⟨stored, complete⟩ := checkStored_eq_ok_iff.mp checked
    exact asking_makes ⟨rfl, stored, complete⟩ _ _

/-- **Whatever is done at the desk**, one call is made at most; only complete policies are sent, and only a stored
    policy is replaced, under its own identifier. -/
theorem perform_makes (d : Desk) (today : Date) (a : Action) : (d.perform today a).Makes (Call.Fit (· ≠ 0)) 1 := by
  cases a <;> rw [perform]
  case load => exact (load_makes trivial d).map _
  case add => exact (add_makes _ today d).map _
  case update => exact (update_makes today d).map _
  case delete id => exact (delete_makes trivial today d).map _
  -- the others ask nothing
  all_goals exact .done

/-- The desk takes an action together with the date of the day. -/
def machine : Machine Desk (Date × Action) (Except DeskError (Option UInt64)) := fun d i =>
  d.perform i.1 i.2

theorem machine_makes (d : Desk) (i : Date × Action) : (machine d i).Makes (Call.Fit (· ≠ 0)) 1 := by
  rw [machine]
  exact perform_makes d i.1 i.2

end PolicyDesk.Desk
