import PolicyDesk.Proofs.Form.Filling
import PolicyDesk.Proofs.Web.FormText
import PolicyDesk.Proofs.Web.Saving

/-!
# The page does what the desk does

A request to the page that is carried out is a run of actions at the desk: one action, or for a posted form
the taking over of the form and, if that succeeds, the sending of the policy it makes.

* `Desk.submission`: what a posted form has done at the desk.
* `ActsAs`: a request does what actions at the desk do.
* `Visit.Brings`: the body of a request fills in a form.
* `perform_eq_of_single`, `submitting_eq`: what each action of the page is at the desk.
* `page_acts_as_the_desk`: so every request for an action acts as its actions at the desk.
-/

namespace PolicyDesk

/-- What a posted form has done at the desk: the form is taken over, and if that succeeds the policy it makes is
    sent. -/
def Desk.submission (d : Desk) (form : PolicyForm) (send : Desk.Action) : List Desk.Action :=
  match (d.edit form).2 with
  | .ok () => [.edit form, send]
  | .error _ => [.edit form]

namespace Web

/-- The body is announced as a form, is not too long, and its names and values fill in the form. -/
structure Visit.Brings (v : Visit) (form : PolicyForm) : Prop where
  announced : v.announcesForm = true
  short : v.body.length ≤ longestBody
  filled : form.FilledBy (FormBody.pairs v.body)

/-- What actions at the desk do in a row on one day, all with the same answer. -/
def deskSteps (today : Date) (delivery : Delivery) (actions : List Desk.Action) :
    List ((Date × Desk.Action) × Delivery) :=
  actions.map fun a => ((today, a), delivery)

/-- A request does what the actions do, one after the other, at the desk itself. Whatever is answered, the same
    is sent, the desk is the same afterwards, and the browser is sent back to the page. -/
structure ActsAs (collection : Url) (d : Desk) (i : Arrival) (actions : List Desk.Action) : Prop where
  sends : ∀ delivery, (machine d i).requests collection delivery =
    (Desk.machine.log collection d (deskSteps i.site.today delivery actions)).flatten
  leaves : ∀ delivery, machine.next collection d i delivery =
    Desk.machine.after collection d (deskSteps i.site.today delivery actions)
  answers : ∀ delivery, ((machine d i).run collection delivery).2.status = 303 ∧
    ((machine d i).run collection delivery).2.location = some "/"

variable {collection : Url} {d : Desk} {i : Arrival} {a : Action} {form : PolicyForm} {today : Date}

theorem Visit.form_of_brings {v : Visit} (h : v.Brings form) : v.form = .ok form := by
  rw [Visit.form, h.announced, if_neg (by decide), if_neg (Nat.not_lt.mpr h.short),
    PolicyForm.ofPairs_filledBy h.filled]
  rfl

/-! ## What the actions of the page are at the desk -/

theorem fst_comp_silently : Prod.fst ∘ Desk.silently = Prod.fst := rfl

/-- The page looks a record up in two ways, which come to the same. -/
theorem perform_select (id : UInt64) : (Action.select id).perform today d = .done (d.pick id).1 := by
  rw [Action.perform]
  split
  · rename_i p found
    rw [Desk.pick, found]
    rfl
  · rfl

/-- Except for posted forms, an action of the page is one action at the desk. -/
theorem perform_eq_of_single (today : Date) (d : Desk) :
    Action.refresh.perform today d = (d.perform today .load).map Prod.fst ∧
    Action.new.perform today d = (d.perform today .reset).map Prod.fst ∧
    ∀ id,
      (Action.delete id).perform today d = (d.perform today (.delete id)).map Prod.fst ∧
      (Action.select id).perform today d = (d.perform today (.pick id)).map Prod.fst ∧
      (Action.edit id).perform today d = (d.perform today (.pick id)).map Prod.fst := by
  refine ⟨?_, rfl, fun id => ⟨?_, perform_select id, rfl⟩⟩
  · rw [Action.perform, Desk.perform, Plan.map_map, fst_comp_silently]
  · rw [Action.perform, Desk.perform, Plan.map_map, fst_comp_silently]

/-! ## From plans to runs -/

theorem redirected (accepted : i.visit.Accepted a) (free : i.held = false) (delivery : Delivery) :
    ((machine d i).run collection delivery).2.status = 303 ∧
      ((machine d i).run collection delivery).2.location = some "/" := by
  have back : ((machine d i).run collection delivery).2 = .back := by
    rw [machine, answer_of_act (verdict_eq_act_iff.mpr accepted), free]
    simp [Plan.run]
  rw [back]
  exact ⟨rfl, rfl⟩

theorem actsAs_single {b : Desk.Action} (accepted : i.visit.Accepted a) (free : i.held = false)
    (same : a.perform i.site.today d = (d.perform i.site.today b).map Prod.fst) :
    ActsAs collection d i [b] where
  sends delivery := by
    rw [requests_of_accepted accepted free, same, Plan.requests_map]
    simp [deskSteps, Machine.log, Desk.machine]
  leaves delivery := by
    rw [next_of_accepted accepted free, same, Plan.run, Plan.answered_map]
    rfl
  answers := redirected accepted free

/-- A form that cannot be taken over is all that is done; one that can is followed by the sending. -/
theorem actsAs_submission {α : Type} (next : Desk → Plan (Desk.After α)) {send : Desk.Action}
    (accepted : i.visit.Accepted a) (free : i.held = false)
    (submits : a.perform i.site.today d = Action.submitting form next d)
    (same : ∀ e, (next e).map Prod.fst = (e.perform i.site.today send).map Prod.fst) :
    ActsAs collection d i (d.submission form send) := by
  -- taking over the form asks nothing, whatever comes of it
  have plain : Desk.machine d (i.site.today, .edit form) = .done (Desk.silently (d.edit form)) := by
    rw [Desk.machine, Desk.perform]
  have edits : ∀ delivery, Desk.machine.next collection d (i.site.today, .edit form) delivery = (d.edit form).1 := by
    intro delivery
    rw [Machine.next, plain, Plan.run, Plan.answered_done, Desk.silently]
  have quiet : ∀ delivery, (Desk.machine d (i.site.today, .edit form)).requests collection delivery = [] := by
    intro delivery
    rw [plain, Plan.requests_done]
  unfold Desk.submission
  cases taken : d.edit form with
  | mk edited result =>
    rw [taken] at edits
    cases result with
    | ok _ =>
      have plan : a.perform i.site.today d = (edited.perform i.site.today send).map Prod.fst := by
        rw [submits, Action.submitting, taken]
        exact same edited
      constructor
      · intro delivery
        rw [requests_of_accepted accepted free, plan]
        simp only [Plan.requests_map, deskSteps, List.map_cons, List.map_nil, Machine.log, quiet, edits,
          List.flatten_cons, List.flatten_nil, List.nil_append, List.append_nil]
        rfl
      · intro delivery
        rw [next_of_accepted accepted free, plan]
        simp only [Plan.run, Plan.answered_map, deskSteps, List.map_cons, List.map_nil, Machine.after, edits]
        rfl
      · exact redirected accepted free
    | error e =>
      have plan : a.perform i.site.today d = .done edited := by
        rw [submits, Action.submitting, taken]
      constructor
      · intro delivery
        rw [requests_of_accepted accepted free, plan]
        simp [deskSteps, Machine.log, quiet]
      · intro delivery
        rw [next_of_accepted accepted free, plan]
        simp [Plan.run, deskSteps, Machine.after, edits]
      · exact redirected accepted free

/-- **The page acts as the desk.** However names and values are spelled, they arrive as they are. While nobody
    else holds the desk, a form posted to the collection or as an update is taken over and, if that succeeds,
    the policy it makes is added or updated; and a post to any other path of an action does this action. The
    identifier in a path may be any decimal spelling. Whatever is answered, the desk is the same afterwards as
    if this had been done at the desk itself, the same is sent, and the browser is sent back to the page. -/
theorem page_acts_as_the_desk (collection : Url) (d : Desk) (i : Arrival) (free : i.held = false) :
    (∀ fields pairs, FormBody.Spells fields pairs → FormBody.pairs (FormBody.bodyText fields) = pairs) ∧
    (∀ form, i.visit.Brings form →
      (i.visit.PostsTo "/policies" → ActsAs collection d i (d.submission form .add)) ∧
      (i.visit.PostsTo "/policies/update" → ActsAs collection d i (d.submission form .update))) ∧
    (i.visit.PostsTo "/policies/refresh" → ActsAs collection d i [.load]) ∧
    (i.visit.PostsTo "/policies/new" → ActsAs collection d i [.reset]) ∧
    ∀ digits id, DecimalOf digits id →
      (i.visit.PostsTo (recordPath digits "delete") → ActsAs collection d i [.delete id]) ∧
      (i.visit.PostsTo (recordPath digits "select") → ActsAs collection d i [.pick id]) ∧
      (i.visit.PostsTo (recordPath digits "edit") → ActsAs collection d i [.pick id]) := by
  obtain ⟨refresh, new, record⟩ := perform_eq_of_single i.site.today d
  refine ⟨fun _ _ => FormBody.pairs_bodyText, fun form brings => ⟨fun posts => ?add, fun posts => ?update⟩,
    fun posts => actsAs_single (accepted_refresh posts) free refresh,
    fun posts => actsAs_single (accepted_new posts) free new, fun digits id decimal => ?record⟩
  case add =>
    refine actsAs_submission (Desk.add i.site.today) (accepted_form_add posts (Visit.form_of_brings brings)) free
      (by rw [Action.perform]) fun e => ?_
    rw [Desk.perform, Plan.map_map]
    rfl
  case update =>
    refine actsAs_submission (Desk.update i.site.today)
      (accepted_form_update posts (Visit.form_of_brings brings)) free (by rw [Action.perform]) fun e => ?_
    rw [Desk.perform, Plan.map_map, fst_comp_silently]
  case record =>
    obtain ⟨selects, edits, deletes⟩ := accepted_on_record (v := i.visit) decimal
    obtain ⟨delete, select, edit⟩ := record id
    exact ⟨fun posts => actsAs_single (deletes posts) free delete,
      fun posts => actsAs_single (selects posts) free select,
      fun posts => actsAs_single (edits posts) free edit⟩

/-- A form with its fields in another order, percent and plus signs, a name that is no field and comes twice, and
    no customer, is posted to a desk that has just been opened: it is taken over, and the policy is added. -/
theorem spelled_form_acts_as_the_desk :
    let collection : Url := ⟨.http, [], [], .name "host".toList, none, ⟨[], "policies".toList⟩, none, none⟩
    let form : PolicyForm := ⟨"Größe&=1", "A+ B", "1e2", "2024-01-01", "2024-12-31", "", some "on"⟩
    let body := "isActive=on&x=1&policyNumber=Gr%C3%B6%C3%9fe%26%3d1&policyType=A%2B+B&x=2&" ++
      "endDate=2024-12-31&premiumAmount=1e2&startDate=2024-01-01"
    let i : Arrival := ⟨⟨.epoch, true⟩, false, ⟨"POST", "/policies?from=page", some formType, Text.utf8 body.toList⟩⟩
    i.held = false ∧ i.visit.PostsTo "/policies" ∧ i.visit.Brings form ∧
      (Desk.opened .epoch).submission form .add = [.edit form, .add] ∧
      ActsAs collection (.opened .epoch) i [.edit form, .add] := by
  intro collection form body i
  have posts : i.visit.PostsTo "/policies" := ⟨rfl, by decide⟩
  have brings : i.visit.Brings form := ⟨by decide, by decide +kernel, by decide +kernel⟩
  have taken : (Desk.opened .epoch).submission form .add = [.edit form, .add] := by decide +kernel
  refine ⟨rfl, posts, brings, taken, ?_⟩
  rw [← taken]
  exact ((page_acts_as_the_desk collection (.opened .epoch) i rfl).2.1 form brings).1 posts

end Web

end PolicyDesk
