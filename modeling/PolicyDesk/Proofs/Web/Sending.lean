import PolicyDesk.Proofs.Desk.Sending
import PolicyDesk.Web.Server
import PolicyDesk.Web.Site

/-!
# What the page sends

* `submitting_of_read`, `submitting_of_fault`: a form that can be read is put into the form of the desk first, and
  one that cannot ends the action.
* `add_requests`, `update_requests`: so a posted form sends one request if it can be read and the policy it
  makes passes its checks, and none otherwise.
* `answer_makes`: whatever a browser asks for, one call is made at most; only complete policies are sent, and only
  a stored policy is replaced, under its own identifier. `start_makes`: before that, the policies may be loaded.
* `Web.machine`: the page as a machine, for runs.
-/

namespace PolicyDesk.Web

variable {d : Desk} {today : Date} {collection : Url} {α : Type}

namespace Action

variable {form : PolicyForm} {p : Policy}

/-- The desk with the policy that a form makes in its own form. -/
theorem edit_of_read (h : form.applyTo d.selected = (p, none)) :
    d.edit form = ({ d with selected := p, lastError := none }, .ok ()) := by
  unfold Desk.edit
  rw [h]
  rfl

theorem edit_of_fault {e : ValidationError} (h : form.applyTo d.selected = (p, some e)) :
    d.edit form = d.failing (.validation e) := by
  unfold Desk.edit
  rw [h]

theorem submitting_of_read {next : Desk → Plan (Desk.After α)} (h : form.applyTo d.selected = (p, none)) :
    submitting form next d = (next { d with selected := p, lastError := none }).map Prod.fst := by
  unfold submitting
  rw [edit_of_read h]

theorem submitting_of_fault {next : Desk → Plan (Desk.After α)} {e : ValidationError}
    (h : form.applyTo d.selected = (p, some e)) :
    submitting form next d = .done { d with lastError := some (DeskError.validation e).message } := by
  unfold submitting
  rw [edit_of_fault h]
  rfl

theorem add_requests (h : form.applyTo d.selected = (p, none)) (delivery : Delivery) :
    ((add form).perform today d).requests collection delivery =
      if p.Complete then [(Call.create p).request collection] else [] := by
  rw [perform, submitting_of_read h, Plan.requests_map, Desk.add_requests]

theorem update_requests (h : form.applyTo d.selected = (p, none)) (delivery : Delivery) :
    ((update form).perform today d).requests collection delivery =
      if p.id ≠ 0 ∧ p.Complete then [(Call.update p.id p).request collection] else [] := by
  rw [perform, submitting_of_read h, Plan.requests_map, Desk.update_requests]

theorem add_requests_of_fault {e : ValidationError} (h : form.applyTo d.selected = (p, some e))
    (delivery : Delivery) : ((add form).perform today d).requests collection delivery = [] := by
  rw [perform, submitting_of_fault h, Plan.requests_done]

theorem update_requests_of_fault {e : ValidationError} (h : form.applyTo d.selected = (p, some e))
    (delivery : Delivery) : ((update form).perform today d).requests collection delivery = [] := by
  rw [perform, submitting_of_fault h, Plan.requests_done]

theorem submitting_makes {good : Call → Prop} {next : Desk → Plan (Desk.After α)} (form : PolicyForm) (d : Desk)
    (makes : ∀ edited, (next edited).Makes good 1) : (submitting form next d).Makes good 1 := by
  unfold submitting
  split
  · exact (makes _).map _
  · exact .done

theorem perform_makes (d : Desk) (today : Date) (a : Action) : (a.perform today d).Makes (Call.Fit (· ≠ 0)) 1 := by
  cases a <;> rw [perform]
  case refresh => exact (Desk.load_makes trivial d).map _
  case add form => exact submitting_makes form d (Desk.add_makes _ today)
  case update form => exact submitting_makes form d (Desk.update_makes today)
  case delete id => exact (Desk.delete_makes trivial today d).map _
  case select id => split <;> exact .done
  -- the others ask nothing
  all_goals exact .done

end Action

/-- **Whatever a browser asks for**, one call is made at most; only complete policies are sent, and only a stored
    policy is replaced, under its own identifier. -/
theorem answer_makes (site : Site) (held : Bool) (d : Desk) (v : Visit) :
    (site.answer held d v).Makes (Call.Fit (· ≠ 0)) 1 := by
  unfold Site.answer
  split
  · exact .done
  · exact .done
  · split
    · exact .done
    · exact (Action.perform_makes d site.today _).map _

/-- The first load makes one call at most. -/
theorem start_makes (today : Date) (setup : Setup) : (Server.start today setup).Makes (Call.Fit (· ≠ 0)) 1 := by
  rw [Server.start]
  split
  · exact (Desk.load_makes trivial _).map _
  · exact .done

theorem answer_requests_of_act {site : Site} {held : Bool} {v : Visit} {a : Action} (h : v.verdict = .act a)
    (delivery : Delivery) :
    (site.answer held d v).requests collection delivery =
      if held then [] else (a.perform site.today d).requests collection delivery := by
  unfold Site.answer
  rw [h]
  cases held with
  | true => rfl
  | false => exact Plan.requests_map _ _ _ _

/-- What comes to the page: how it is run at the moment, whether another action holds the desk, and the
    request of a browser. -/
structure Arrival where
  site : Site
  held : Bool
  visit : Visit

/-- The page takes whatever browsers ask for. -/
def machine : Machine Desk Arrival Response := fun d i => i.site.answer i.held d i.visit

theorem machine_makes (d : Desk) (i : Arrival) : (machine d i).Makes (Call.Fit (· ≠ 0)) 1 := by
  rw [machine]
  exact answer_makes i.site i.held d i.visit

end PolicyDesk.Web
