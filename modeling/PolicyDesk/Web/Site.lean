import PolicyDesk.Desk.Actions
import PolicyDesk.Web.Visit

/-!
# The desk on the web

* `Action.perform`: what an action does to the desk.
* `Site.answer`: the desk after a request, and the answer. An action that is carried out sends the browser
  back to the page, whether it succeeds or fails; the page tells.

The desk is held by one action at a time. While it is held no other action starts, and the page says so;
everything else is answered as ever.
-/

namespace PolicyDesk.Web

namespace Action

/-- Takes over a form, and goes on if that succeeds. -/
def submitting {α : Type} (form : PolicyForm) (next : Desk → Plan (Desk.After α)) (d : Desk) : Plan Desk :=
  match d.edit form with
  | (edited, .ok ()) => (next edited).map Prod.fst
  | (refused, .error _) => .done refused

/-- What an action does to the desk. -/
def perform (today : Date) (d : Desk) : Action → Plan Desk
  | refresh => d.load.map Prod.fst
  | add form => submitting form (Desk.add today) d
  | update form => submitting form (Desk.update today) d
  | new => .done (d.reset today)
  | select id =>
    match d.find? id with
    | some p => .done (d.select p)
    | none => .done (d.pick id).1
  | edit id => .done (d.pick id).1
  | delete id => (d.delete today id).map Prod.fst

end Action

/-- What is shown while another action holds the desk. -/
def busyView (d : Desk) : Page.View := { Page.View.ofDesk d with error := some DeskError.busy.message }

/-- How the desk is run. -/
structure Site where
  /-- The date of a blank policy. -/
  today : Date
  /-- Whether the template of the page is there. -/
  template : Bool

/-- The desk after a request, and the answer. -/
def Site.answer (site : Site) (held : Bool) (d : Desk) (v : Visit) : Plan (Desk × Response) :=
  match v.verdict with
  | .plain r => .done (d, r)
  | .page headOnly =>
    let r := Response.ofView site.template 200 (.ofDesk d)
    .done (d, if headOnly then r.headed else r)
  | .act a =>
    if held then .done (d, .ofView site.template 409 (busyView d))
    else (a.perform site.today d).map fun after => (after, .back)

end PolicyDesk.Web
