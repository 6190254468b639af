import PolicyDesk.Page.Layout
import PolicyDesk.Proofs.Desk.Selection
import PolicyDesk.Proofs.Text.Digits
import PolicyDesk.Proofs.Web.Sending

/-!
# Which record a posted form acts on

All clients share one desk, and a posted form names no record: it acts on the record that is in the form of
the desk when it is handled.

* `Page.View.Shows`: the record that a page says its form is for.
* `Action.moves`, `Arrival.moves`: whether a request can put another record into the form of the desk.
* `next_id`, `after_id`: a request that cannot, and a run of such requests, leaves the record in the form.
* `PostsActOn`: a form that is posted now acts on the record with the identifier.
* `form_acts_on_the_record_selected`: it acts on the selected record, whatever other clients did; and that is
  the record its page showed unless another client has moved the selection.
-/

namespace PolicyDesk

/-! ## What the page shows -/

/-- The page says that its form is for a new policy, or for the record with the identifier. -/
def Page.View.Shows (v : View) : Option UInt64 → Prop
  | none => heading v.selected = [.markup "New Policy"]
  | some id => heading v.selected = [.markup "Edit Policy #", number id.toNat]

instance (v : Page.View) : (shown : Option UInt64) → Decidable (v.Shows shown)
  | none => inferInstanceAs (Decidable (_ = _))
  | some _ => inferInstanceAs (Decidable (_ = _))

theorem Page.number_injective {m n : Nat} (h : number m = number n) : m = n := by
  unfold number at h
  injection h with h
  exact Text.natural_injective (String.ofList_injective h)

theorem Page.heading_of_new {d : Desk} (h : d.selected.id = 0) :
    heading (View.ofDesk d).selected = [.markup "New Policy"] := by
  have isNew : (View.ofDesk d).selected.isNew = true := beq_iff_eq.mpr h
  unfold heading
  rw [if_pos isNew]

theorem Page.heading_of_stored {d : Desk} (h : d.selected.id ≠ 0) :
    heading (View.ofDesk d).selected = [.markup "Edit Policy #", number d.selected.id.toNat] := by
  have isStored : ¬ (View.ofDesk d).selected.isNew = true := fun isNew => h (beq_iff_eq.mp isNew)
  unfold heading
  rw [if_neg isStored]
  rfl

/-- The page shows the record that is selected; zero stands for a new policy. -/
theorem Page.View.Shows.selected {d : Desk} {shown : Option UInt64} (h : (ofDesk d).Shows shown) :
    d.selected.id = shown.getD 0 := by
  by_cases hnew : d.selected.id = 0
  · cases shown with
    | none => exact hnew
    | some id =>
      rw [Shows, heading_of_new hnew] at h
      injection h with _ h
      cases h
  · cases shown with
    | none =>
      rw [Shows, heading_of_stored hnew] at h
      injection h with _ h
      cases h
    | some id =>
      rw [Shows, heading_of_stored hnew] at h
      injection h with _ h
      injection h with h _
      exact UInt64.toNat_inj.mp (Page.number_injective h)

namespace Web

/-! ## Requests that leave the selection alone -/

/-- Whether an action can put another record into the form while the given one is in it. Zero stands for a
    new policy. The form is cleared when its policy has been sent or deleted, and for a new policy. -/
def Action.moves (shown : UInt64) : Action → Bool
  | refresh => false
  | add _ | update _ | new => shown != 0
  | select id | edit id => id != shown
  | delete id => id == shown && shown != 0

/-- Whether a request can. One that is turned away or comes while the desk is held cannot. -/
def Arrival.moves (shown : UInt64) (i : Arrival) : Bool :=
  match i.visit.verdict with
  | .act a => !i.held && a.moves shown
  | _ => false

variable {d : Desk} {today : Date} {collection : Url} {form : PolicyForm}
variable (service : (c : Call) → Except ServiceError c.Answer)

/-- What a form makes keeps the identifier of the selected policy. -/
theorem read_id {p : Policy} (read : form.applyTo d.selected = (p, none)) : p.id = d.selected.id := by
  have kept := form.applyTo_id d.selected
  rw [read] at kept
  exact kept

/-- A posted form leaves the record or clears the form. -/
theorem Action.submitting_id {α : Type} {next : Desk → Plan (Desk.After α)}
    (ends : ∀ e, ((next e).answered service).1.selected = e.selected ∨
      ((next e).answered service).1.selected = .draft today) :
    ((submitting form next d).answered service).selected.id = d.selected.id ∨
      ((submitting form next d).answered service).selected.id = 0 := by
  rcases read : form.applyTo d.selected with ⟨p, _ | e⟩
  · rw [submitting_of_read read, Plan.answered_map]
    rcases ends { d with selected := p, lastError := none } with stays | cleared
    · left
      rw [stays]
      exact read_id read
    · right
      rw [cleared, Policy.draft_id]
  · left
    rw [submitting_of_fault read, Plan.answered_done]

theorem Action.pick_id {id : UInt64} (same : id = d.selected.id) :
    (d.pick id).1.selected.id = d.selected.id := by
  rcases Desk.pick_selected id d with stays | own
  · rw [stays]
  · exact own.trans same

/-- An action that cannot move the selection leaves the record in the form. -/
theorem Action.perform_id {a : Action} (quiet : a.moves d.selected.id = false) :
    ((a.perform today d).answered service).selected.id = d.selected.id := by
  cases a with
  | refresh =>
    rw [perform, Plan.answered_map, Desk.load_selected]
  | add form =>
    have zero : d.selected.id = 0 := by simpa [moves] using quiet
    rw [perform]
    rcases submitting_id service (Desk.add_selected service today) with kept | cleared
    · exact kept
    · rw [cleared, zero]
  | update form =>
    have zero : d.selected.id = 0 := by simpa [moves] using quiet
    rw [perform]
    rcases submitting_id service (Desk.update_selected service today) with kept | cleared
    · exact kept
    · rw [cleared, zero]
  | new =>
    have zero : d.selected.id = 0 := by simpa [moves] using quiet
    rw [perform, Plan.answered_done, zero]
    exact Policy.draft_id today
  | select id =>
    have same : id = d.selected.id := by simpa [moves] using quiet
    rw [perform]
    split
    · rename_i p found
      have own : p.id = id := by simpa using List.find?_some found
      rw [Plan.answered_done]
      exact own.trans same
    · rw [Plan.answered_done]
      exact pick_id same
  | edit id =>
    have same : id = d.selected.id := by simpa [moves] using quiet
    rw [perform, Plan.answered_done]
    exact pick_id same
  | delete id =>
    rw [perform, Plan.answered_map]
    rcases Desk.delete_selected service today id d with stays | ⟨own, cleared⟩
    · rw [stays]
    · have zero : d.selected.id = 0 := by simpa [moves, own] using quiet
      rw [cleared, zero, Policy.draft_id]

theorem next_id {i : Arrival} (delivery : Delivery) (quiet : i.moves d.selected.id = false) :
    (machine.next collection d i delivery).selected.id = d.selected.id := by
  unfold Arrival.moves at quiet
  unfold Machine.next machine Site.answer Plan.run
  split
  · rw [Plan.answered_done]
  · rw [Plan.answered_done]
  · rename_i a posted
    rw [posted] at quiet
    cases held : i.held with
    | true => rfl
    | false =>
      simp only [held, Bool.not_false, Bool.true_and] at quiet
      simp only [Bool.false_eq_true, if_false, Plan.answered_map]
      exact Action.perform_id _ quiet

/-- **Requests that cannot move the selection leave the record in the form**, in any order and whatever is
    answered. -/
theorem after_id (steps : List (Arrival × Delivery))
    (quiet : ∀ step ∈ steps, step.1.moves d.selected.id = false) :
    (machine.after collection d steps).selected.id = d.selected.id := by
  induction steps generalizing d with
  | nil => rfl
  | cons step steps ih =>
    obtain ⟨i, delivery⟩ := step
    have kept : (machine.next collection d i delivery).selected.id = d.selected.id :=
      next_id delivery (quiet (i, delivery) List.mem_cons_self)
    have rest := ih (d := machine.next collection d i delivery) fun step h => by
      rw [kept]
      exact quiet step (List.mem_cons_of_mem _ h)
    exact rest.trans kept

/-! ## Posted forms -/

/-- The path that a browser asks for. -/
def Visit.route? (v : Visit) : Option Route := Route.ofPath? (pathOf v.target.toList)

/-- A form that is posted now acts on the record with the identifier, whatever its fields hold. Posted to the
    collection it stores a policy with this identifier, which is left out if it is zero; posted as an update
    it replaces this record and no other. -/
structure PostsActOn (collection : Url) (d : Desk) (id : UInt64) : Prop where
  add : ∀ (i : Arrival) (delivery : Delivery), i.visit.route? = some .add →
    ∀ r ∈ (machine d i).requests collection delivery,
    r.method = .post ∧ r.url = collection.anonymous.withoutFragment ∧
      ∃ p, p.id = id ∧ r.Carries p ∧ p.written? .id = if id = 0 then none else some (Text.natural id.toNat)
  update : ∀ (i : Arrival) (delivery : Delivery), i.visit.route? = some .update →
    ∀ r ∈ (machine d i).requests collection delivery,
    r.method = .put ∧ id ≠ 0 ∧ r.url = (collection.item id).anonymous.withoutFragment ∧
      ∃ p, p.id = id ∧ r.Carries p ∧ p.written? .id = some (Text.natural id.toNat)

theorem Visit.asksFor_form {v : Visit} {make : PolicyForm → Action} {a : Action}
    (h : v.asksFor (v.form.map make) = .act a) : ∃ form, a = make form := by
  unfold asksFor at h
  split at h
  · cases read : v.form with
    | error r =>
      rw [read] at h
      cases h
    | ok form =>
      rw [read] at h
      cases h
      exact ⟨form, rfl⟩
  · cases h

/-- What a request sends is what its action sends. -/
theorem mem_answer_requests {i : Arrival} {delivery : Delivery} {r : Request}
    (h : r ∈ (machine d i).requests collection delivery) :
    ∃ a, i.visit.verdict = .act a ∧ r ∈ (a.perform i.site.today d).requests collection delivery := by
  unfold machine at h
  cases posted : i.visit.verdict with
  | plain answer =>
    unfold Site.answer at h
    rw [posted] at h
    cases h
  | page headOnly =>
    unfold Site.answer at h
    rw [posted] at h
    cases h
  | act a =>
    rw [answer_requests_of_act posted] at h
    split at h
    · cases h
    · exact ⟨a, rfl, h⟩

theorem posts_act_on_selected (collection : Url) (d : Desk) : PostsActOn collection d d.selected.id where
  add i delivery path r h := by
    obtain ⟨a, posted, h⟩ := mem_answer_requests h
    have routed : i.visit.verdict = i.visit.asksFor (i.visit.form.map .add) := by
      unfold Visit.verdict
      rw [Visit.route?] at path
      rw [path]
    obtain ⟨form, rfl⟩ := Visit.asksFor_form (routed.symm.trans posted)
    rcases read : form.applyTo d.selected with ⟨p, _ | e⟩
    · rw [Action.add_requests read] at h
      split at h
      · rename_i complete
        rw [List.mem_singleton.mp h, ← read_id read]
        exact ⟨rfl, rfl, p, rfl, Call.request_carries rfl complete, p.written_id⟩
      · cases h
    · rw [Action.add_requests_of_fault read] at h
      cases h
  update i delivery path r h := by
    obtain ⟨a, posted, h⟩ := mem_answer_requests h
    have routed : i.visit.verdict = i.visit.asksFor (i.visit.form.map .update) := by
      unfold Visit.verdict
      rw [Visit.route?] at path
      rw [path]
    obtain ⟨form, rfl⟩ := Visit.asksFor_form (routed.symm.trans posted)
    rcases read : form.applyTo d.selected with ⟨p, _ | e⟩
    · rw [Action.update_requests read] at h
      split at h
      · rename_i fit
        obtain ⟨stored, complete⟩ := fit
        rw [List.mem_singleton.mp h, ← read_id read]
        refine ⟨rfl, stored, rfl, p, rfl, Call.request_carries rfl complete, ?_⟩
        rw [p.written_id, if_neg stored]
      · cases h
    · rw [Action.update_requests_of_fault read] at h
      cases h

/-- **A posted form acts on the record that is selected when it is handled**, whatever other clients have
    done since its page was made. That is the record the page showed, unless one of their requests has moved
    the selection: by putting another record into the form, or, if the page showed a stored record, by
    clearing the form. -/
theorem form_acts_on_the_record_selected (collection : Url) (d : Desk) (between : List (Arrival × Delivery)) :
    let now := machine.after collection d between
    (∀ page : Arrival, page.visit.verdict = .page false →
      machine d page = .done (d, .ofView page.site.template 200 (.ofDesk d))) ∧
    PostsActOn collection now now.selected.id ∧
    ∀ shown, (Page.View.ofDesk d).Shows shown → (∀ step ∈ between, step.1.moves (shown.getD 0) = false) →
      PostsActOn collection now (shown.getD 0) := by
  intro now
  refine ⟨?page, posts_act_on_selected collection now, ?shown⟩
  case page =>
    intro page asked
    unfold machine Site.answer
    rw [asked]
    rfl
  case shown =>
    intro shown shows quiet
    rw [← shows.selected] at quiet ⊢
    have kept : now.selected.id = d.selected.id := after_id between quiet
    rw [← kept]
    exact posts_act_on_selected collection now

/-- A form does not always reach the record its page showed. The desk has loaded two records. A page shows
    a new policy; then another client puts record 7 into the form, and what the page posts is stored with
    the identifier 7. Likewise a page that shows record 7 replaces record 8. -/
theorem form_may_reach_another_record :
    let asks (target body : String) : Arrival :=
      ⟨⟨.epoch, true⟩, false, ⟨"POST", target, some formType, Text.utf8 body.toList⟩⟩
    let rows := "[\x7b\"policyId\":7,\"startDate\":0,\"endDate\":0\x7d," ++
      "\x7b\"policyId\":8,\"startDate\":0,\"endDate\":0\x7d]"
    let row (id : UInt64) : Policy := ⟨id, "", "", .zero, .epoch, .epoch, false, 0⟩
    let loaded : Desk := ⟨[row 7, row 8], .draft .epoch, none⟩
    let fields := "policyNumber=N&policyType=T&premiumAmount=0&startDate=2024-01-01&endDate=2024-12-31"
    let document (id : String) := "\x7b\"policyId\":" ++ id ++ ",\"policyNumber\":\"N\"," ++
      "\"policyType\":\"T\",\"premiumAmount\":0.0,\"startDate\":\"2024-01-01\"," ++
      "\"endDate\":\"2024-12-31\",\"isActive\":false,\"customerId\":0\x7d"
    let collection : Url := ⟨.http, [], [], .name "host".toList, none, ⟨[], "policies".toList⟩, none, none⟩
    let sent (d : Desk) (i : Arrival) :=
      ((machine d i).requests collection .dropped).map fun r => (r.method, r.url.toText, r.body)
    let seven := machine.after collection loaded [(asks "/policies/7/select" "", .dropped)]
    let eight := machine.after collection seven [(asks "/policies/8/select" "", .dropped)]
    machine.after collection (.opened .epoch)
        [(asks "/policies/refresh" "", .reply ⟨200, Text.utf8 rows.toList, true⟩)] = loaded ∧
    ((Page.View.ofDesk loaded).Shows none ∧
      sent seven (asks "/policies" fields) = [(.post, "http://host/policies", document "7")]) ∧
    (Page.View.ofDesk seven).Shows (some 7) ∧
      sent eight (asks "/policies/update" fields) = [(.put, "http://host/policies/8", document "8")] := by
  decide +kernel

end Web

end PolicyDesk
