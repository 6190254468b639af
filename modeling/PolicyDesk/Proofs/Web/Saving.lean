import PolicyDesk.Proofs.Form.Untouched
import PolicyDesk.Proofs.Policy.Roundtrip
import PolicyDesk.Proofs.Web.FormText
import PolicyDesk.Proofs.Web.Paths

/-!
# Saving a policy that nobody has changed

The policies are loaded, one of them is put into the form, and the form is sent back as the page shows it.

* `Policy.Savable`: the policies that can be saved as they are.
* `Visit.PostsForm`, `Reply.Lists`: what the browser and the service do.
* `accepted_edit`, `accepted_update`: what these requests ask for.
* `next_refresh`, `next_edit`: the desk after each of them; `Opened.after`: the desk after both.
* `untouched_form_sends_what_was_read`: what is sent is the document of the policy as it was read.
* `LongPremium.untouched_form_may_change_the_premium`: this need not be the document that was loaded.
-/

namespace PolicyDesk

open Text (natural)

/-- A stored policy with number and type filled in, without blanks around them. -/
structure Policy.Savable (p : Policy) : Prop extends p.Trimmed where
  stored : p.id ≠ 0
  some_number : p.number ≠ ""
  some_kind : p.kind ≠ ""

theorem Policy.Savable.complete {p : Policy} (h : p.Savable) : p.Complete := by
  have filled : ∀ s : String, s ≠ "" → Text.trim s = s → ∃ c ∈ s.toList, Text.isBlank c = false := by
    intro s some trimmed
    rw [← Text.isBlankText_eq_false_iff, Text.isBlankText, trimmed]
    simpa using some
  exact ⟨filled _ h.some_number h.number, filled _ h.some_kind h.kind⟩

/-- The service replies to a listing with the documents of the policies, on one line. -/
structure Reply.Lists (r : Reply) (ps : List Policy) : Prop where
  success : Status.isSuccess r.status = true
  bodied : Status.isBodiless r.status = false
  complete : r.complete = true
  body : r.body = Text.utf8 (Json.compactList (ps.map Policy.members))

/-- A request for the list that arrives and is replied to so brings the policies as they are read. -/
theorem Call.result_list {collection : Url} {r : Reply} {ps : List Policy}
    (arrives : (Call.list.arrival? collection (.reply r)).isSome) (lists : r.Lists ps) :
    Call.list.result collection (.reply r) = .ok (ps.map Policy.reread) := by
  unfold arrival? at arrives
  simp only [Option.isSome_ite] at arrives
  obtain ⟨sendable, -⟩ := arrives
  have content : r.content? = some ((Json.compactList (ps.map Policy.members)).map .char) := by
    rw [Reply.content?, lists.bodied, lists.complete, lists.body, Glyph.ofBytes_utf8]
    rfl
  have read : Call.list.ofReply r = .ok (ps.map Policy.reread) := by
    rw [ofReply, lists.success, content]
    simp only [if_true, readAnswer, readBody, Policy.parseList_compactList]
    rfl
  unfold result
  simp only [sendable, Bool.not_true, Bool.false_eq_true, if_false, read]

namespace Web

/-- The path that puts a policy into the form. -/
def editPath (id : UInt64) : String := "/policies/" ++ String.ofList (natural id.toNat) ++ "/edit"

/-- The body is a form with these fields, however it is spelled, and not too long. -/
structure Visit.PostsForm (v : Visit) (fields : List (String × String)) : Prop where
  announced : v.announcesForm = true
  short : v.body.length ≤ longestBody
  body : ∃ fs, v.body = FormBody.bodyText fs ∧ FormBody.Spells fs fields

variable {v : Visit} {d : Desk} {collection : Url}

theorem accepted_edit {id : UInt64} (h : v.PostsTo (editPath id)) : v.Accepted (.edit id) := by
  have same : editPath id = recordPath (natural id.toNat) "edit" := by
    have slash : "/edit" = "/" ++ "edit" := by decide
    rw [editPath, recordPath, slash, ← String.append_assoc]
  exact (accepted_on_record (decimalOf_natural id)).2.1 (same ▸ h)

theorem accepted_update {p : Policy} (h : v.PostsTo "/policies/update")
    (posts : v.PostsForm (Page.Entry.ofPolicy p).fields) : v.Accepted (.update (.ofPolicy p)) := by
  refine accepted_form_update h ?_
  obtain ⟨fs, body, spells⟩ := posts.body
  rw [Visit.form, posts.announced, if_neg (by decide), if_neg (Nat.not_lt.mpr posts.short), body,
    FormBody.pairs_bodyText spells, PolicyForm.ofPairs_fields]
  rfl

/-! ## The desk after each step -/

variable {i : Arrival} {a : Action}

/-- An accepted request is carried out if the desk is free. -/
theorem next_of_accepted (accepted : i.visit.Accepted a) (free : i.held = false) (delivery : Delivery) :
    machine.next collection d i delivery = (a.perform i.site.today d).run collection delivery := by
  rw [Machine.next, machine, answer_of_act (verdict_eq_act_iff.mpr accepted), free]
  simp [Plan.run]

theorem requests_of_accepted (accepted : i.visit.Accepted a) (free : i.held = false) (delivery : Delivery) :
    (machine d i).requests collection delivery = (a.perform i.site.today d).requests collection delivery := by
  rw [machine, answer_requests_of_act (verdict_eq_act_iff.mpr accepted), free]
  rfl

/-- After a refresh the list is what the service has replied. -/
theorem next_refresh {delivery : Delivery} {ps : List Policy} (accepted : i.visit.Accepted .refresh)
    (free : i.held = false) (replied : Call.list.result collection delivery = .ok ps) :
    machine.next collection d i delivery = { d with policies := ps, lastError := none } := by
  have loaded : d.load.run collection delivery = ({ d with policies := ps, lastError := none }, .ok ()) := by
    unfold Plan.run Desk.load Desk.asking
    rw [Plan.answered_ask, Plan.answered_done, replied]
    rfl
  rw [next_of_accepted accepted free, Action.perform, Plan.run, Plan.answered_map, ← Plan.run, loaded]

/-- A listed policy is put into the form. -/
theorem next_edit {id : UInt64} {p : Policy} (accepted : i.visit.Accepted (.edit id)) (free : i.held = false)
    (listed : d.find? id = some p) (delivery : Delivery) :
    machine.next collection d i delivery = { d with selected := p, lastError := none } := by
  have picked : (d.pick id).1 = { d with selected := p, lastError := none } := by
    rw [Desk.pick, listed]
    rfl
  rw [next_of_accepted accepted free, Action.perform, picked]
  rfl

/-! ## The whole way -/

/-- The policies are loaded, and one of them is put into the form, while nobody else holds the desk. -/
structure Opened (collection : Url) (ps : List Policy) (p : Policy) (reply : Reply)
    (refresh edit : Arrival) : Prop where
  free : refresh.held = false ∧ edit.held = false
  refreshes : refresh.visit.PostsTo "/policies/refresh"
  arrives : (Call.list.arrival? collection (.reply reply)).isSome
  lists : reply.Lists ps
  listed : ps.find? (·.id == p.id) = some p
  edits : edit.visit.PostsTo (editPath p.id)

variable {ps : List Policy} {p : Policy} {reply : Reply} {between : Delivery} {refresh edit update : Arrival}

/-- The policy in the form is the listed one as it was read. -/
theorem Opened.after (h : Opened collection ps p reply refresh edit) :
    machine.after collection d [(refresh, .reply reply), (edit, between)] =
      { d with policies := ps.map Policy.reread, selected := p.reread, lastError := none } := by
  have replied := Call.result_list h.arrives h.lists
  have loaded := next_refresh (d := d) (accepted_refresh h.refreshes) h.free.1 replied
  have listed : Desk.find? { d with policies := ps.map Policy.reread, lastError := none } p.id =
      some p.reread := by
    have same : (fun q : Policy => q.id == p.id) ∘ Policy.reread = fun q => q.id == p.id := rfl
    rw [Desk.find?, List.find?_map, same, h.listed]
    rfl
  rw [Machine.after, Machine.after, Machine.after, loaded, next_edit (accepted_edit h.edits) h.free.2 listed]

/-- After that the form is sent back as the page shows it. -/
structure SentBack (collection : Url) (d : Desk) (ps : List Policy) (p : Policy) (reply : Reply)
    (between : Delivery) (refresh edit update : Arrival) : Prop extends
    Opened collection ps p reply refresh edit where
  alone : update.held = false
  saves : update.visit.PostsTo "/policies/update"
  sends : update.visit.PostsForm (Page.View.ofDesk
    (machine.after collection d [(refresh, .reply reply), (edit, between)])).selected.fields

/-- **An untouched form sends the policy as it was read.** Whatever was at the desk before: the policies are
    loaded, one of them is put into the form, and the form is sent back as the page shows it. Then the service
    is asked for the list, for nothing, and to replace this policy by what its document was read as. Dates,
    texts and the premium in the form are read back without loss, so only the reading of the document may
    change anything, and of it only the premium. The body is the document that was loaded exactly if the
    premium is read as itself; this is so if its numeral has a significand of at most `2 ^ 53` and a power of
    ten between `-22` and `22`. -/
theorem untouched_form_sends_what_was_read (savable : p.Savable)
    (h : SentBack collection d ps p reply between refresh edit update) (final : Delivery) :
    ∃ q r, Policy.parse (Glyph.ofString p.document) = .ok q ∧ q = { p with premium := q.premium } ∧
      machine.log collection d [(refresh, .reply reply), (edit, between), (update, final)] =
        [[Call.list.request collection], [], [r]] ∧
      r.method = .put ∧ r.url = (collection.item p.id).anonymous.withoutFragment ∧ r.body = q.document ∧
      (r.body = p.document ↔ q.premium = p.premium) ∧
      (p.premium.numeral.decimal.digits ≤ 2 ^ 53 → -22 ≤ p.premium.numeral.decimal.power →
        p.premium.numeral.decimal.power ≤ 22 → r.body = p.document) := by
  -- the form on the page is that of the policy as it was read, and it is sent as it is
  have accepted : update.visit.Accepted (.update (.ofPolicy p.reread)) := by
    have sends := h.sends
    rw [h.after] at sends
    exact accepted_update h.saves sends
  have listing : (machine d refresh).requests collection (.reply reply) = [Call.list.request collection] := by
    rw [requests_of_accepted (accepted_refresh h.refreshes) h.free.1]
    rfl
  have editing : ∀ d, (machine d edit).requests collection between = [] := by
    intro d
    rw [requests_of_accepted (accepted_edit h.edits) h.free.2]
    rfl
  have replacing : (machine (machine.after collection d [(refresh, .reply reply), (edit, between)])
      update).requests collection final = [(Call.update p.id p.reread).request collection] := by
    let shown : Desk := { d with policies := ps.map Policy.reread, selected := p.reread, lastError := none }
    have complete : p.reread.Complete := ⟨savable.complete.number, savable.complete.kind⟩
    -- taking the form over changes nothing, so the checks pass as they do for the policy itself
    have trimmed : p.reread.Trimmed := ⟨savable.number, savable.kind⟩
    have taken : (PolicyForm.ofPolicy p.reread).applyTo shown.selected = (p.reread, none) :=
      PolicyForm.applyTo_ofPolicy_self trimmed
    rw [requests_of_accepted accepted h.alone, h.after, Action.update_requests taken]
    exact if_pos ⟨savable.stored, complete⟩
  have body : ((Call.update p.id p.reread).request collection).body = p.reread.document := by
    unfold Call.request
    rfl
  refine ⟨p.reread, (Call.update p.id p.reread).request collection, p.parse_document, rfl, ?log, rfl, rfl,
    body, ?same, ?exact⟩
  case log =>
    rw [← replacing, ← listing]
    simp only [Machine.log, Machine.after, editing]
  case same =>
    rw [body]
    exact p.document_reread_iff
  case exact =>
    intro digits low high
    rw [body]
    exact p.document_reread_iff.mpr (Policy.rereadPremium_eq digits low high)

end Web

/-! ## A premium that is not kept -/

namespace LongPremium

open Web

/-- 1234.5000000000007, which has seventeen digits. -/
def premium : Binary64 := ⟨false, 4653144203864309763, by decide⟩

/-- 1234.500000000001, the next amount. -/
def next : Binary64 := ⟨false, 4653144203864309764, by decide⟩

theorem shortest_premium : Decimal.shortest .even premium.rank = ⟨12345000000000007, -13⟩ :=
  Decimal.shortest_of_found (k := 1077) (by decide) (by decide +kernel) (by decide +kernel) (by decide +kernel)
    (by decide)

theorem shortest_next (tie : Tie) : Decimal.shortest tie next.rank = ⟨1234500000000001, -12⟩ :=
  Decimal.shortest_of_found (k := 1077) (by decide) (by decide +kernel) (by decide +kernel)
    (by cases tie <;> decide +kernel) (by decide)

/-- Read from a document the premium is the next amount. -/
theorem rereadPremium_premium : Policy.rereadPremium premium = next := by
  have numeral : premium.numeral = ⟨false, "1234".toList, "5000000000007".toList, none⟩ := by
    unfold Binary64.numeral
    rw [if_neg (by decide), shortest_premium]
    decide +kernel
  rw [Policy.rereadPremium, numeral]
  decide +kernel

/-- Both amounts in writing. -/
theorem texts : premium.wire = "1234.5000000000007".toList ∧ next.wire = "1234.500000000001".toList ∧
    next.plain = "1234.500000000001" := by
  refine ⟨?_, ?_, ?_⟩
  · rw [Binary64.wire, if_neg (by decide), shortest_premium]
    decide +kernel
  · rw [Binary64.wire, if_neg (by decide), shortest_next]
    decide +kernel
  · rw [Binary64.plain, shortest_next]
    decide +kernel

/-- A policy with the premium. -/
def policy (premium : Binary64) : Policy :=
  ⟨1, "P-1", "Auto", premium, ⟨2024, 1, 1, by decide⟩, ⟨2024, 12, 31, by decide⟩, true, 7⟩

/-- A free page is asked to do something. -/
def asks (target : String) (body : List UInt8) : Arrival :=
  ⟨⟨.epoch, true⟩, false, ⟨"POST", target, some formType, body⟩⟩

def refresh : Arrival := asks "/policies/refresh" []

def edit : Arrival := asks "/policies/1/edit" []

/-- The fields that the page shows. -/
def fields : List (String × String) :=
  [("policyNumber", "P-1"), ("policyType", "Auto"), ("premiumAmount", "1234.500000000001"),
    ("startDate", "2024-01-01"), ("endDate", "2024-12-31"), ("customerId", "7"), ("isActive", "true")]

def update : Arrival := asks "/policies/update" (FormBody.bodyText (fields.map FormBody.fieldOf))

def collection : Url := ⟨.http, [], [], .name "host".toList, none, ⟨[], "policies".toList⟩, none, none⟩

/-- The reply to the listing: the policy with the long premium. -/
def reply : Reply := ⟨200, Text.utf8 (Json.compactList [(policy premium).members]), true⟩

theorem opened : Opened collection [policy premium] (policy premium) reply refresh edit where
  free := ⟨rfl, rfl⟩
  refreshes := ⟨rfl, by decide⟩
  arrives := by decide +kernel
  lists := ⟨rfl, rfl, rfl, rfl⟩
  listed := rfl
  edits := ⟨rfl, by decide +kernel⟩

theorem reread_policy : (policy premium).reread = policy next := by
  rw [Policy.reread, show (policy premium).premium = premium from rfl, rereadPremium_premium]
  rfl

theorem sentBack : SentBack collection (.opened .epoch) [policy premium] (policy premium) reply .dropped
    refresh edit update where
  toOpened := opened
  alone := rfl
  saves := ⟨rfl, by decide⟩
  sends := by
    have shown : (Page.Entry.ofPolicy (policy next)).fields = fields := by
      unfold Page.Entry.fields Page.Entry.texts
      rw [show (Page.Entry.ofPolicy (policy next)).exactPremium = _ from texts.2.2]
      decide +kernel
    rw [opened.after, reread_policy]
    refine ⟨by decide, by decide +kernel, fields.map FormBody.fieldOf, rfl, ?_⟩
    change FormBody.Spells _ (Page.Entry.ofPolicy (policy next)).fields
    rw [shown]
    exact FormBody.spells_fieldOf fields

/-- **An untouched form may change the premium.** The service has the policy with the long premium, and gets it
    back with the next amount, although nobody has typed in the form. -/
theorem untouched_form_may_change_the_premium :
    (policy premium).Savable ∧
    SentBack collection (.opened .epoch) [policy premium] (policy premium) reply .dropped refresh edit update ∧
    premium.wire = "1234.5000000000007".toList ∧ next.wire = "1234.500000000001".toList ∧
    ∃ r, machine.log collection (.opened .epoch)
        [(refresh, .reply reply), (edit, .dropped), (update, .dropped)] =
        [[Call.list.request collection], [], [r]] ∧
      r.method = .put ∧ r.body = (policy next).document ∧ r.body ≠ (policy premium).document := by
  have savable : (policy premium).Savable := ⟨⟨by decide, by decide⟩, by decide, by decide, by decide⟩
  obtain ⟨q, r, read, -, log, put, -, body, unchanged, -⟩ :=
    untouched_form_sends_what_was_read savable sentBack .dropped
  have same : q = policy next := by
    rw [← reread_policy]
    exact Except.ok.inj (read.symm.trans (Policy.parse_document _))
  refine ⟨savable, sentBack, texts.1, texts.2.1, r, log, put, by rw [body, same], fun kept => ?_⟩
  have equal := unchanged.mp kept
  rw [same] at equal
  revert equal
  decide

end LongPremium

end PolicyDesk
