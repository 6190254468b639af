import PolicyDesk.Proofs.Page.Finding
import PolicyDesk.Proofs.Web.Page

/-!
# The page tells what came of the latest action

The page drops the result of an action and goes by the error that is kept at the desk. Requests that lead to no
action, and those that come while the desk is held, do not touch it.

* `Action.attempt`: an action with its result; `perform_eq`: the page does the same and drops the result.
* `Desk.Tells`: the desk keeps the error that an action ended with, or none; `attempt_tells`.
* `Arrival.outcome?`, `outcomes`: what came of the actions that were carried out, in order.
* `told`: what the page should tell after these; `next_lastError`, `after_lastError`: what the desk keeps after a
  request, and after a run.
* `banner_tells_the_latest_outcome`: so the page shows the failure of the latest action, or no error.
-/

namespace PolicyDesk

open Page (alerts escape)

/-! ## Results -/

/-- The error that an action ended with, if it failed. -/
def failure? {α : Type} : Except DeskError α → Option DeskError
  | .error e => some e
  | .ok _ => none

namespace Desk

variable {α : Type} {d : Desk}

/-- The desk keeps the message of the error that an action ended with, or no error if it succeeded. -/
def Tells (after : After α) : Prop := after.1.lastError = (failure? after.2).map DeskError.message

theorem Settled.tells {after : After α} (h : d.Settled after) : Tells after := by
  obtain ⟨after, result⟩ := after
  cases result with
  | error e =>
    have kept := (h.of_error e rfl).1
    exact congrArg Desk.lastError kept
  | ok a => exact h.of_ok a rfl

end Desk

namespace Web

/-- Takes over a form, and goes on if that succeeds; with the result. -/
def Action.submit {α : Type} (form : PolicyForm) (next : Desk → Plan (Desk.After α)) (d : Desk) :
    Plan (Desk.After Unit) :=
  match d.edit form with
  | (edited, .ok ()) => (next edited).map fun after => (after.1, after.2.map fun _ => ())
  | (refused, .error e) => .done (refused, .error e)

/-- An action with its result. -/
def Action.attempt (today : Date) (d : Desk) : Action → Plan (Desk.After Unit)
  | refresh => d.load
  | add form => submit form (Desk.add today) d
  | update form => submit form (Desk.update today) d
  | new => .done (d.reset today, .ok ())
  | select id =>
    match d.find? id with
    | some p => .done (d.select p, .ok ())
    | none => .done (d.pick id)
  | edit id => .done (d.pick id)
  | delete id => d.delete today id

variable {d : Desk} {today : Date} {collection : Url} {i : Arrival}

theorem Action.submitting_eq {α : Type} (form : PolicyForm) (next : Desk → Plan (Desk.After α)) (d : Desk) :
    submitting form next d = (submit form next d).map Prod.fst := by
  unfold submitting submit
  cases d.edit form with
  | mk edited result =>
    cases result with
    | ok _ =>
      simp only
      rw [Plan.map_map]
      rfl
    | error e => rfl

/-- The page does the same, and drops the result. -/
theorem Action.perform_eq (today : Date) (d : Desk) (a : Action) :
    a.perform today d = (a.attempt today d).map Prod.fst := by
  cases a with
  | refresh | new | edit | delete => rfl
  | add form => exact submitting_eq form (Desk.add today) d
  | update form => exact submitting_eq form (Desk.update today) d
  | select id =>
    rw [perform, attempt]
    cases d.find? id with
    | some p => rfl
    | none => rfl

section

variable (service : (c : Call) → Except ServiceError c.Answer)

theorem Action.submit_tells {α : Type} {next : Desk → Plan (Desk.After α)} (form : PolicyForm)
    (settled : ∀ e : Desk, e.Settled ((next e).answered service)) :
    Desk.Tells ((submit form next d).answered service) := by
  have taken := Desk.edit_settled form d
  unfold submit
  split
  · rw [Plan.answered_map]
    exact ((settled _).mapResult _).tells
  · rename_i refused e edits
    rw [edits] at taken
    rw [Plan.answered_done]
    exact taken.tells

/-- **After an action the desk tells its outcome.** -/
theorem Action.attempt_tells (a : Action) : Desk.Tells ((a.attempt today d).answered service) := by
  cases a with
  | refresh =>
    rw [attempt]
    exact (Desk.load_settled service d).tells
  | add form =>
    rw [attempt]
    exact submit_tells service form (Desk.add_settled service today)
  | update form =>
    rw [attempt]
    exact submit_tells service form (Desk.update_settled service today)
  | new =>
    rw [attempt, Plan.answered_done]
    rfl
  | select id =>
    rw [attempt]
    cases d.find? id with
    | some p => rfl
    | none => exact (Desk.pick_settled id d).tells
  | edit id =>
    rw [attempt, Plan.answered_done]
    exact (Desk.pick_settled id d).tells
  | delete id =>
    rw [attempt]
    exact (Desk.delete_settled service today id d).tells

end

/-! ## Requests -/

/-- What came of the action that a request had carried out, if it had one carried out. -/
def Arrival.outcome? (collection : Url) (d : Desk) (i : Arrival) (delivery : Delivery) :
    Option (Except DeskError Unit) :=
  match i.visit.verdict with
  | .act a => if i.held then none else some ((a.attempt i.site.today d).run collection delivery).2
  | _ => none

/-- An action is carried out exactly if the browser is sent back to the page. -/
theorem status_eq_iff (delivery : Delivery) :
    ((machine d i).run collection delivery).2.status = 303 ↔ (i.outcome? collection d delivery).isSome := by
  by_cases asked : ∃ a, i.visit.verdict = .act a
  · obtain ⟨a, posted⟩ := asked
    rw [machine, answer_of_act posted, Arrival.outcome?, posted]
    cases i.held with
    | true =>
      have refused : (Response.ofView i.site.template 409 (busyView d)).status ≠ 303 := ofView_status (by decide)
      simpa [Plan.run] using refused
    | false => simp [Plan.run, Response.back]
  · have quiet : ∀ a, i.visit.verdict ≠ .act a := fun a posted => asked ⟨a, posted⟩
    obtain ⟨r, status, answered⟩ : ∃ r : Response, r.status ≠ 303 ∧
        ∀ held, i.site.answer held d i.visit = .done (d, r) := answer_of_no_act quiet
    have none : i.outcome? collection d delivery = none := by
      unfold Arrival.outcome?
      split
      · exact absurd ‹_› (quiet _)
      · rfl
    rw [machine, answered, none]
    simpa [Plan.run] using status

/-- **What the desk keeps after a request**: the outcome of its action, or what it kept before. -/
theorem next_lastError (delivery : Delivery) : (machine.next collection d i delivery).lastError =
    match i.outcome? collection d delivery with
    | some result => (failure? result).map DeskError.message
    | none => d.lastError := by
  unfold Machine.next machine Site.answer Arrival.outcome? Plan.run
  cases i.visit.verdict with
  | plain r => rfl
  | page headOnly => rfl
  | act a =>
    cases i.held with
    | true => rfl
    | false =>
      simp only [Bool.false_eq_true, if_false, Plan.answered_map, Action.perform_eq]
      exact Action.attempt_tells _ a

/-! ## Runs -/

/-- What the page should tell after actions with these results, if it told this before them: the error of the latest
    action if that has failed. -/
def told (before : Option String) (results : List (Except DeskError Unit)) : Option String :=
  match results.getLast? with
  | some result => (failure? result).map DeskError.message
  | none => before

/-- What came of the actions that were carried out in a run, in order. -/
def outcomes (collection : Url) : Desk → List (Arrival × Delivery) → List (Except DeskError Unit)
  | _, [] => []
  | d, (i, delivery) :: steps =>
    (i.outcome? collection d delivery).toList ++ outcomes collection (machine.next collection d i delivery) steps

/-- **What the desk keeps after a run**: the latest outcome, or what it kept before if nothing was carried out. -/
theorem after_lastError (steps : List (Arrival × Delivery)) :
    (machine.after collection d steps).lastError = told d.lastError (outcomes collection d steps) := by
  induction steps generalizing d with
  | nil => rfl
  | cons step steps ih =>
    obtain ⟨i, delivery⟩ := step
    have kept := ih (d := machine.next collection d i delivery)
    rw [Machine.after, kept, told, told, outcomes, List.getLast?_append]
    cases later : (outcomes collection (machine.next collection d i delivery) steps).getLast? with
    | some result => rfl
    | none =>
      rw [next_lastError]
      cases i.outcome? collection d delivery <;> rfl

/-! ## The page -/

/-- The browser asks for the page. -/
structure Visit.AsksForPage (v : Visit) : Prop where
  method : v.method = "GET"
  path : pathOf v.target.toList = ['/']

theorem verdict_of_asksForPage {v : Visit} (h : v.AsksForPage) : v.verdict = .page false := by
  have route : Route.ofPath? ['/'] = some .page := by decide
  unfold Visit.verdict
  rw [h.path, route]
  simp only [Visit.looksAt, h.method, if_true]

/-- **The page of the desk** is what a browser gets that asks for it, whether the desk is held or not. -/
theorem answer_of_asksForPage (h : i.visit.AsksForPage) (template : i.site.template = true) :
    machine d i = .done (d, .html 200 (Page.View.ofDesk d).text) := by
  rw [machine, Site.answer, verdict_of_asksForPage h, Response.ofView, template]
  rfl

/-- The errors on the page of a desk. -/
theorem alerts_ofDesk (d : Desk) : alerts (Page.View.ofDesk d).text.toList =
    (d.lastError.filter (!·.isEmpty)).toList.map fun e => escape e.toList :=
  Page.alerts_text _

/-- **The banner tells the latest outcome.** Requests come to the page of any desk, whatever they ask for, whether the
    desk is held or not, and whatever is answered to what they send. Then the desk keeps no empty error if it kept none
    before. A browser that asks for the page gets it, with the error that the latest action failed with, escaped, and
    with no error if it succeeded; as long as there was no action, with the error of before, if any. A desk that has
    just been opened has none. An action is carried out exactly if its request is answered with the redirect, so that
    all other requests have no say in it. -/
theorem banner_tells_the_latest_outcome (collection : Url) (before : Desk) (steps : List (Arrival × Delivery)) :
    let d := machine.after collection before steps
    (before.lastError ≠ some "" → d.lastError ≠ some "") ∧
    (∀ view : Arrival, view.visit.AsksForPage → view.site.template = true → ∃ body,
      machine d view = .done (d, .html 200 body) ∧
      alerts body.toList = (told (before.lastError.filter (!·.isEmpty)) (outcomes collection before steps)).toList.map
        fun e => escape e.toList) ∧
    (∀ today : Date, (Desk.opened today).lastError = none) ∧
    ∀ (d : Desk) (i : Arrival) (delivery : Delivery),
      ((machine d i).run collection delivery).2.status = 303 ↔ (i.outcome? collection d delivery).isSome := by
  intro d
  have kept : d.lastError = told before.lastError (outcomes collection before steps) := after_lastError steps
  refine ⟨fun tells => after_errorTells tells steps, fun view asked template => ⟨_,
    answer_of_asksForPage asked template, ?_⟩, fun _ => rfl, fun _ _ _ => status_eq_iff _⟩
  rw [alerts_ofDesk, kept, told, told]
  cases (outcomes collection before steps).getLast? with
  | none => rfl
  | some result =>
    cases result with
    | ok _ => rfl
    | error e =>
      have filled : e.message.isEmpty = false := by simpa [String.isEmpty_eq_false_iff] using e.message_ne_empty
      simp only [failure?, Option.map_some, Option.filter_some, filled]
      rfl

/-- The first load has failed. Then a record is selected that is not listed, a post comes while the desk is held, and
    another one with an identifier that is no number. The page shows why nothing was selected, although the desk is
    held again, and no longer why nothing was loaded. -/
theorem banner_tells_what_is_not_listed :
    let collection : Url := ⟨.http, [], [], .name "host".toList, none, ⟨[], "policies".toList⟩, none, none⟩
    let asks (method target : String) (held : Bool) : Arrival := ⟨⟨.epoch, true⟩, held, ⟨method, target, none, []⟩⟩
    let steps := [(asks "POST" "/policies/7/select" false, Delivery.dropped),
      (asks "POST" "/policies/new" true, .dropped), (asks "POST" "/policies/x/select" false, .dropped)]
    let before := (Server.start .epoch ⟨.ofAddress "", "", 0, true⟩).run collection .unreachable
    let d := machine.after collection before steps
    let view := asks "GET" "/" true
    before.lastError.isSome ∧ view.visit.AsksForPage ∧ view.site.template = true ∧
      ∃ body, machine d view = .done (d, .html 200 body) ∧
        alerts body.toList = ["Insurance Policy not found: 7".toList] := by
  intro collection asks steps before d view
  have asked : view.visit.AsksForPage := ⟨rfl, by decide +kernel⟩
  obtain ⟨body, answered, shown⟩ := (banner_tells_the_latest_outcome collection before steps).2.1 view asked rfl
  have latest : (told (before.lastError.filter (!·.isEmpty)) (outcomes collection before steps)).toList.map
      (fun e => escape e.toList) = ["Insurance Policy not found: 7".toList] := by decide +kernel
  exact ⟨by decide +kernel, asked, rfl, body, answered, shown.trans latest⟩

end Web

end PolicyDesk
