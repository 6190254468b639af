import PolicyDesk.Desk.Actions
import PolicyDesk.Proofs.Service.Plan

/-!
# Every action happens entirely or not at all

An action at the desk may fail in many places: the policy in the form is incomplete, no reply comes, the
service refuses, its answer cannot be read, the list has no such policy, or a field of the form cannot be
read after others have been taken over. Wherever it fails, it changes nothing but the error shown.

* `Desk.Settled`: what an action may leave behind, given the desk before it: with an error the desk as it was
  except for the error shown, without one a desk that shows none.
* `settle_settled`, `asking_settled`: ending an action, and ending it with the answer to a call, settles it.
* `load_settled` to `edit_settled`, `perform_settled`: so every action is settled, whatever the service
  answers.
* `action_is_atomic`: the same for whatever may happen to the request of an action on its way.
-/

namespace PolicyDesk

/-- A text with something in front is not empty. -/
theorem append_ne_empty {s : String} (t : String) (h : s ≠ "") : s ++ t ≠ "" := fun e =>
  h (String.append_eq_empty_iff.mp e).1

theorem ServiceError.message_ne_empty (e : ServiceError) : e.message ≠ "" := by
  cases e with
  | transport fault => exact append_ne_empty _ (by decide)
  | notFound id => exact append_ne_empty _ (by decide)
  | refused status message =>
    exact append_ne_empty _ (append_ne_empty _ (append_ne_empty _ (by decide)))
  | undecodable reason => exact append_ne_empty _ (by decide)

theorem PolicyField.name_ne_empty (field : PolicyField) : field.name ≠ "" := by
  cases field <;> decide

theorem ValidationError.message_ne_empty (e : ValidationError) : e.message ≠ "" := by
  cases e with
  | missing field => exact append_ne_empty _ field.name_ne_empty
  | invalid field reason => exact append_ne_empty _ (append_ne_empty _ field.name_ne_empty)

/-- An error always has something to say, so that the page shows it. -/
theorem DeskError.message_ne_empty (e : DeskError) : e.message ≠ "" := by
  cases e with
  | service e => exact e.message_ne_empty
  | validation e => exact e.message_ne_empty
  | notListed id => exact append_ne_empty _ (by decide)
  | busy => decide

namespace Desk

/-- What an action may leave behind, with its result. -/
structure Settled {α : Type} (d : Desk) (after : After α) : Prop where
  /-- An error changes nothing but the error shown, and it is shown. -/
  of_error : ∀ e, after.2 = .error e → after.1 = { d with lastError := some e.message } ∧ e.message ≠ ""
  /-- A success leaves no error. -/
  of_ok : ∀ a, after.2 = .ok a → after.1.lastError = none

variable {α β : Type} {d : Desk}

theorem failing_settled (d : Desk) (e : DeskError) : d.Settled (d.failing e : After β) where
  of_error _ h := by
    cases h
    exact ⟨rfl, e.message_ne_empty⟩
  of_ok _ h := by cases h

theorem settle_settled {change : Desk → α → Desk} (value : α → β) (r : Except DeskError α)
    (quiet : ∀ d a, (change d a).lastError = d.lastError) : d.Settled (d.settle change value r) := by
  cases r with
  | error e => exact failing_settled d e
  | ok a => exact ⟨fun _ h => (by cases h), fun _ _ => quiet _ a⟩

theorem asking_settled {call : Call} {change : Desk → call.Answer → Desk} (value : call.Answer → β)
    (service : (c : Call) → Except ServiceError c.Answer)
    (quiet : ∀ d a, (change d a).lastError = d.lastError) :
    d.Settled ((d.asking call change value).answered service) :=
  settle_settled value _ quiet

/-- Going on with what an action has to tell leaves the desk as it is. -/
theorem Settled.mapResult {after : After α} (h : d.Settled after) (f : α → β) :
    d.Settled (after.1, after.2.map f) := by
  obtain ⟨after, r⟩ := after
  cases r with
  | error e =>
    refine ⟨fun e' he => ?_, fun _ he => by cases he⟩
    cases he
    exact h.of_error e rfl
  | ok a => exact ⟨fun _ he => (by cases he), fun _ _ => h.of_ok a rfl⟩

/-- An action that cannot fail only has to clear the error. -/
theorem Settled.of_lastError {after : Desk} {a : α} (h : after.lastError = none) :
    d.Settled (after, .ok a) :=
  ⟨fun _ he => (by cases he), fun _ _ => h⟩

/-! ## The actions -/

variable (service : (c : Call) → Except ServiceError c.Answer)

theorem load_settled (d : Desk) : d.Settled (d.load.answered service) :=
  asking_settled _ service fun _ _ => rfl

theorem add_settled (today : Date) (d : Desk) : d.Settled ((d.add today).answered service) := by
  unfold add
  split
  · exact failing_settled d _
  · exact asking_settled _ service fun _ _ => rfl

theorem update_settled (today : Date) (d : Desk) : d.Settled ((d.update today).answered service) := by
  unfold update
  simp only
  split
  · exact failing_settled d _
  · exact asking_settled _ service fun _ _ => rfl

theorem delete_settled (today : Date) (id : UInt64) (d : Desk) :
    d.Settled ((d.delete today id).answered service) :=
  asking_settled _ service fun _ _ => rfl

theorem pick_settled (id : UInt64) (d : Desk) : d.Settled (d.pick id) := by
  unfold pick
  split
  · exact failing_settled d _
  · exact settle_settled _ _ fun _ _ => rfl

/-- The policy that a form has filled in half way is dropped with the error. -/
theorem edit_settled (form : PolicyForm) (d : Desk) : d.Settled (d.edit form) := by
  unfold edit
  split
  · exact failing_settled d _
  · exact settle_settled _ _ fun _ _ => rfl

/-- **Whatever the service answers, an action is settled.** -/
theorem perform_settled (today : Date) (d : Desk) (a : Action) :
    d.Settled ((d.perform today a).answered service) := by
  cases a with
  | load =>
    rw [perform, Plan.answered_map]
    exact (load_settled service d).mapResult _
  | add =>
    rw [perform, Plan.answered_map]
    exact (add_settled service today d).mapResult _
  | update =>
    rw [perform, Plan.answered_map]
    exact (update_settled service today d).mapResult _
  | delete id =>
    rw [perform, Plan.answered_map]
    exact (delete_settled service today id d).mapResult _
  | pick id => exact (pick_settled id d).mapResult _
  | edit form => exact (edit_settled form d).mapResult _
  | select p => exact .of_lastError rfl
  | reset => exact .of_lastError rfl

/-- **Every action is atomic.** Whatever happens to its request on the way, and whatever reply comes: an
    action that fails leaves list and form as they were and shows its error, which is never empty; one
    that succeeds leaves no error. Putting a policy into the form cannot fail and never touches the list. -/
theorem action_is_atomic (today : Date) (d : Desk) (collection : Url) (delivery : Delivery) :
    (∀ a : Action, d.Settled ((d.perform today a).run collection delivery)) ∧
      (∀ p : Policy, (d.select p).lastError = none ∧ (d.select p).policies = d.policies) ∧
      (d.reset today).lastError = none ∧ (d.reset today).policies = d.policies :=
  ⟨fun a => perform_settled _ today d a, fun _ => ⟨rfl, rfl⟩, rfl, rfl⟩

end Desk

end PolicyDesk
