import PolicyDesk.Desk.Basic

/-!
# What can be done at the desk

* `load`, `add`, `update`, `delete`: actions that ask the service. What the service answers is taken over into
  the list.
* `pick`, `select`, `reset`, `edit`: actions on the edit form alone.
* `Action`, `perform`: all of them as one type, for runs of several actions.

`today` is the date of a blank policy.
-/

namespace PolicyDesk.Desk

/-- Asks the service and ends the action with its answer. -/
def asking {β : Type} (d : Desk) (call : Call) (change : Desk → call.Answer → Desk)
    (value : call.Answer → β) : Plan (After β) :=
  .ask call fun r => .done (d.settle change value (r.mapError .service))

/-- Takes over all policies that the service has. -/
def load (d : Desk) : Plan (After Unit) :=
  d.asking .list (fun d (ps : List Policy) => { d with policies := ps }) fun _ => ()

/-- Stores the policy in the form as a new one. -/
def add (today : Date) (d : Desk) : Plan (After UInt64) :=
  match d.selected.check with
  | .error e => .done (d.failing (.validation e))
  | .ok () =>
    d.asking (.create d.selected)
      (fun d (p : Policy) => { d with policies := d.policies ++ [p], selected := .draft today })
      fun (p : Policy) => p.id

/-- Puts a policy in the place of the first with the identifier, or at the end if there is none. -/
def put (id : UInt64) (p : Policy) : List Policy → List Policy
  | [] => [p]
  | q :: qs => if q.id = id then p :: qs else q :: put id p qs

/-- Whether the policy in the form can replace a stored one. -/
def checkStored (p : Policy) : Except ValidationError Unit :=
  if p.isNew then .error (.missing .id) else p.check

/-- Replaces the stored policy by the one in the form. -/
def update (today : Date) (d : Desk) : Plan (After Unit) :=
  let id := d.selected.id
  match checkStored d.selected with
  | .error e => .done (d.failing (.validation e))
  | .ok () =>
    d.asking (.update id d.selected)
      (fun d (p : Policy) => { d with policies := put id p d.policies, selected := .draft today })
      fun _ => ()

/-- Removes a policy. If it is in the form, the form is cleared. -/
def delete (today : Date) (id : UInt64) (d : Desk) : Plan (After Unit) :=
  d.asking (.delete id)
    (fun d _ =>
      { d with
        policies := d.policies.filter (·.id != id)
        selected := if d.selected.id = id then .draft today else d.selected })
    fun _ => ()

/-- Puts a listed policy into the form. -/
def pick (id : UInt64) (d : Desk) : After Unit :=
  match d.find? id with
  | none => d.failing (.notListed id)
  | some p => d.settle (fun d p => { d with selected := p }) (fun _ => ()) (.ok p)

/-- Puts any policy into the form. -/
def select (p : Policy) (d : Desk) : Desk := { d with selected := p, lastError := none }

/-- Puts a blank policy into the form. -/
def reset (today : Date) (d : Desk) : Desk := d.select (.draft today)

/-- Takes over the fields of a form, all of them or none. -/
def edit (form : PolicyForm) (d : Desk) : After Unit :=
  match form.applyTo d.selected with
  | (_, some e) => d.failing (.validation e)
  | (p, none) => d.settle (fun d p => { d with selected := p }) (fun _ => ()) (.ok p)

/-- What can be done. -/
inductive Action where
  | load
  | add
  | update
  | delete (id : UInt64)
  | pick (id : UInt64)
  | edit (form : PolicyForm)
  | select (policy : Policy)
  | reset
  deriving DecidableEq, Repr

/-- The result of an action that has nothing to tell. -/
def silently (after : After Unit) : After (Option UInt64) := (after.1, after.2.map fun _ => none)

/-- Carries out an action. Only adding a policy tells something: the identifier that the policy has
got. -/
def perform (today : Date) (d : Desk) : Action → Plan (After (Option UInt64))
  | .load => d.load.map silently
  | .add => (d.add today).map fun after => (after.1, after.2.map some)
  | .update => (d.update today).map silently
  | .delete id => (d.delete today id).map silently
  | .pick id => .done (silently (d.pick id))
  | .edit form => .done (silently (d.edit form))
  | .select p => .done (d.select p, .ok none)
  | .reset => .done (d.reset today, .ok none)

end PolicyDesk.Desk
