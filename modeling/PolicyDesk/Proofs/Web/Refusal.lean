import PolicyDesk.Proofs.Page.Finding
import PolicyDesk.Proofs.Web.Selection

/-!
# Answers other than the redirect

Whatever a browser asks for, the redirect to the page is the only sign that something was done.

* `Visit.Accepted`: the request is a post to the path of an action, and the identifier in the path or the
  form in the body can be read; `verdict_eq_act_iff`: exactly these requests lead to an action.
* `answer_of_no_act`: all others are answered the same whether the desk is held or not, and change nothing.
* `RefusedAsBusy`: the answer to an action while another one holds the desk.
* `other_answers_change_nothing`: any other answer than the redirect leaves the desk as it was and asks the
  service nothing; a held desk redirects nobody, refuses actions, and answers everything else as ever.
-/

namespace PolicyDesk.Web

variable {v : Visit} {site : Site} {d : Desk} {held : Bool} {a : Action}

/-! ## Which requests lead to an action -/

/-- The action that a post to the path asks for. Where the path has an identifier it can be read, and so can
    the form where one is needed. -/
def Visit.Reads (v : Visit) (a : Action) : Route → Prop
  | .page | .health => False
  | .refresh => a = .refresh
  | .new => a = .new
  | .add => ∃ form, v.form = .ok form ∧ a = .add form
  | .update => ∃ form, v.form = .ok form ∧ a = .update form
  | .select text => ∃ id, identifier text = .ok id ∧ a = .select id
  | .edit text => ∃ id, identifier text = .ok id ∧ a = .edit id
  | .delete text => ∃ id, identifier text = .ok id ∧ a = .delete id

/-- The request is accepted as one for the action. -/
def Visit.Accepted (v : Visit) (a : Action) : Prop :=
  v.method = "POST" ∧ ∃ route, v.route? = some route ∧ v.Reads a route

theorem looksAt_ne_act {verdict : Bool → Verdict} (quiet : ∀ headOnly, verdict headOnly ≠ .act a) :
    v.looksAt verdict ≠ .act a := by
  unfold Visit.looksAt
  split
  · exact quiet false
  · split
    · exact quiet true
    · intro h
      cases h

theorem asksFor_eq_act_iff {asked : Except Rejection Action} :
    v.asksFor asked = .act a ↔ v.method = "POST" ∧ asked = .ok a := by
  unfold Visit.asksFor
  split
  · rename_i post
    cases asked <;> simp [Verdict.ofAction, post]
  · rename_i other
    simp [other]

theorem asksFor_map_eq_act_iff {α : Type} {read : Except Rejection α} {make : α → Action} :
    v.asksFor (read.map make) = .act a ↔ v.method = "POST" ∧ ∃ b, read = .ok b ∧ a = make b := by
  rw [asksFor_eq_act_iff]
  cases read with
  | error r => simp [Except.map]
  | ok b => simp [Except.map, eq_comm]

/-- **A request leads to an action** exactly if it is accepted as one for it. -/
theorem verdict_eq_act_iff : v.verdict = .act a ↔ v.Accepted a := by
  unfold Visit.Accepted Visit.verdict Visit.route?
  cases Route.ofPath? (pathOf v.target.toList) with
  | none => simp
  | some route =>
    have known : (∃ r, some route = some r ∧ v.Reads a r) ↔ v.Reads a route := by simp
    rw [known]
    cases route with
    | page =>
      have quiet : v.looksAt .page ≠ .act a := looksAt_ne_act fun _ h => by cases h
      exact ⟨fun h => absurd h quiet, fun h => h.2.elim⟩
    | health =>
      have quiet : v.looksAt (fun headOnly =>
          .plain (if headOnly then (Response.plain 200 "OK").headed else .plain 200 "OK")) ≠ .act a :=
        looksAt_ne_act fun _ h => by cases h
      exact ⟨fun h => absurd h quiet, fun h => h.2.elim⟩
    | refresh | new =>
      refine asksFor_eq_act_iff.trans (and_congr_right fun _ => ?_)
      simp [Visit.Reads, eq_comm]
    | add | update | select | edit | delete => exact asksFor_map_eq_act_iff

/-! ## How they are answered -/

theorem rejection_status (r : Rejection) : r.response.status ≠ 303 := by
  cases r <;> simp [Rejection.response, Response.plain]

/-- The desk page is never a redirect. -/
theorem ofView_status {template : Bool} {status : Nat} {view : Page.View} (h : status ≠ 303) :
    (Response.ofView template status view).status ≠ 303 := by
  unfold Response.ofView
  split
  · exact h
  · decide

theorem verdict_plain_status {r : Response} (h : v.verdict = .plain r) : r.status ≠ 303 := by
  have looked : ∀ verdict : Bool → Verdict, (∀ headOnly r, verdict headOnly = .plain r → r.status ≠ 303) →
      v.looksAt verdict = .plain r → r.status ≠ 303 := by
    intro verdict quiet h
    unfold Visit.looksAt at h
    split at h
    · exact quiet false r h
    · split at h
      · exact quiet true r h
      · cases h
        decide
  have asked : ∀ action, v.asksFor action = .plain r → r.status ≠ 303 := by
    intro action h
    unfold Visit.asksFor at h
    split at h
    · cases action with
      | error e =>
        cases h
        exact rejection_status e
      | ok a => cases h
    · cases h
      decide
  unfold Visit.verdict at h
  cases hr : Route.ofPath? (pathOf v.target.toList) with
  | none =>
    rw [hr] at h
    cases h
    decide
  | some route =>
    rw [hr] at h
    cases route with
    | page => exact looked _ (fun _ _ h => by cases h) h
    | health =>
      refine looked _ (fun headOnly r h => ?_) h
      cases h
      cases headOnly <;> decide
    | refresh | new | add | update | select | edit | delete => exact asked _ h

/-- **A request that leads to no action** changes nothing and asks nothing, and its answer, which is no
    redirect, is the same whether the desk is held or not. -/
theorem answer_of_no_act (quiet : ∀ a, v.verdict ≠ .act a) :
    ∃ r, r.status ≠ 303 ∧ ∀ held, site.answer held d v = .done (d, r) := by
  cases posted : v.verdict with
  | plain r =>
    refine ⟨r, verdict_plain_status posted, fun held => ?_⟩
    unfold Site.answer
    rw [posted]
  | page headOnly =>
    let r := Response.ofView site.template 200 (.ofDesk d)
    refine ⟨if headOnly then r.headed else r, ?_, fun held => ?_⟩
    · have shown : r.status ≠ 303 := ofView_status (by decide)
      cases headOnly <;> exact shown
    · unfold Site.answer
      rw [posted]
  | act a => exact absurd posted (quiet a)

/-- An action is refused because another one holds the desk: with the page of the desk as it is, in which the
    banner of the refusal stands where that of the last error would stand. Without its template there is no
    page. -/
structure RefusedAsBusy (site : Site) (d : Desk) (r : Response) : Prop where
  page : site.template = true → ∃ below,
    (Page.View.ofDesk d).pieces = Page.top :: (Page.banner d.lastError ++ below) ∧
    r = .html 409 (Page.render (Page.top :: (Page.banner (some DeskError.busy.message) ++ below)))
  /-- Whatever the page is made of, the one error that is found in its text is the refusal. -/
  alert : site.template = true → ∃ body, r = .html 409 body ∧
    Page.alerts body.toList = [Page.escape DeskError.busy.message.toList]
  noPage : site.template = false → r = noTemplate.response ∧ r.status = 500

theorem busyView_refused (site : Site) (d : Desk) :
    RefusedAsBusy site d (.ofView site.template 409 (busyView d)) where
  page template := by
    let view := Page.View.ofDesk d
    refine ⟨Page.gap :: (Page.table view.policies ++ .markup (Page.lines ["", "", "    <h3>"]) ::
      (Page.heading view.selected ++ Page.form view.selected)), ?_, ?_⟩
    · simp [Page.View.pieces, view, Page.View.ofDesk]
    · simp [Response.ofView, template, busyView, Page.View.text, Page.View.pieces, view, Page.View.ofDesk]
  alert template := by
    refine ⟨(busyView d).text, by rw [Response.ofView, template]; rfl, ?_⟩
    have filled : DeskError.busy.message.isEmpty = false := by decide
    have error : (busyView d).error = some DeskError.busy.message := rfl
    rw [Page.alerts_text, error, Option.filter_some, filled]
    rfl
  noPage missing := by
    rw [Response.ofView, missing]
    exact ⟨rfl, rfl⟩

/-- An action asks the service only if the desk is free, and the browser is then redirected. -/
theorem answer_of_act (posted : v.verdict = .act a) :
    site.answer held d v =
      if held then .done (d, .ofView site.template 409 (busyView d))
      else (a.perform site.today d).map fun after => (after, .back) := by
  unfold Site.answer
  rw [posted]

/-- **Any other answer than the redirect means that nothing happened.** Whatever a browser asks for and
    whatever the service answers: if the answer is not the redirect, the desk is as it was and the service has
    been asked nothing; the redirect always leads to the page. While another action holds the desk nobody is
    redirected: a request that would lead to an action is refused as busy, and every other one is answered as
    if the desk were free. -/
theorem other_answers_change_nothing (collection : Url) (site : Site) (held : Bool) (d : Desk) (v : Visit)
    (delivery : Delivery) :
    let plan := site.answer held d v
    let after := plan.run collection delivery
    (after.2.status ≠ 303 → after.1 = d ∧ plan.requests collection delivery = []) ∧
    (after.2.status = 303 → after.2.location = some "/") ∧
    (held = true → after.2.status ≠ 303 ∧
      ((∃ a, v.Accepted a) → RefusedAsBusy site d after.2) ∧
      ((¬ ∃ a, v.Accepted a) → plan = site.answer false d v)) := by
  intro plan after
  by_cases asked : ∃ a, v.Accepted a
  · obtain ⟨a, accepted⟩ := asked
    have answered : plan = _ := answer_of_act (verdict_eq_act_iff.mpr accepted)
    cases held with
    | true =>
      have refused : after = (d, .ofView site.template 409 (busyView d)) := by
        rw [show after = plan.run collection delivery from rfl, answered]
        rfl
      have status : after.2.status ≠ 303 := by
        rw [refused]
        exact ofView_status (by decide)
      refine ⟨fun _ => ⟨by rw [refused], by rw [answered]; rfl⟩, fun h => absurd h status, fun _ =>
        ⟨status, fun _ => ?_, fun none => absurd ⟨a, accepted⟩ none⟩⟩
      rw [refused]
      exact busyView_refused site d
    | false =>
      have redirected : after.2 = .back := by
        rw [show after = plan.run collection delivery from rfl, answered, Plan.run]
        simp
      refine ⟨fun h => absurd (by rw [redirected]; rfl) h, fun _ => by rw [redirected]; rfl, fun h => ?_⟩
      cases h
  · have quiet : ∀ a, v.verdict ≠ .act a := fun a h => asked ⟨a, verdict_eq_act_iff.mp h⟩
    obtain ⟨r, status, answered⟩ : ∃ r, r.status ≠ 303 ∧ ∀ held, site.answer held d v = .done (d, r) :=
      answer_of_no_act quiet
    have plain : plan = .done (d, r) := answered held
    have same : after = (d, r) := by
      rw [show after = plan.run collection delivery from rfl, plain]
      rfl
    rw [same]
    refine ⟨fun _ => ⟨rfl, by rw [plain]; rfl⟩, fun h => absurd h status, fun _ =>
      ⟨status, fun h => absurd h asked, fun _ => ?_⟩⟩
    rw [plain, answered false]

end PolicyDesk.Web
