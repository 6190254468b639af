import PolicyDesk.Proofs.Console.Sending
import PolicyDesk.Proofs.Web.Sending

/-!
# Nothing incomplete is ever sent

The desk, the page and the console send policies on four paths, and each path has checks of its own: storing
and replacing at the desk, and the two commands of the console. The page goes through the desk.

* `SentIfAccepted`: on each path, what passes the checks is sent, and what fails them causes no request.
* `only_complete_policies_are_sent`: whichever path a policy takes, its number and its type are filled in and
  its premium is a number, and it goes to the collection or to its own item.
-/

namespace PolicyDesk

/-- A policy is sent if it passes its checks, and causes no request if it fails them: at the desk, in a form
    posted to the page, and on a command line. While another action holds the desk, a form is refused. -/
structure SentIfAccepted (collection : Url) : Prop where
  add : ∀ (d : Desk) (today : Date) (delivery : Delivery),
    (Desk.machine d (today, .add)).requests collection delivery =
      if d.selected.Complete then [(Call.create d.selected).request collection] else []
  update : ∀ (d : Desk) (today : Date) (delivery : Delivery),
    (Desk.machine d (today, .update)).requests collection delivery =
      if d.selected.id ≠ 0 ∧ d.selected.Complete then
        [(Call.update d.selected.id d.selected).request collection]
      else []
  formAdd : ∀ (d : Desk) (i : Web.Arrival) (form : PolicyForm) (p : Policy) (delivery : Delivery),
    i.visit.verdict = .act (.add form) → form.applyTo d.selected = (p, none) →
    (Web.machine d i).requests collection delivery =
      if i.held = false ∧ p.Complete then [(Call.create p).request collection] else []
  formUpdate : ∀ (d : Desk) (i : Web.Arrival) (form : PolicyForm) (p : Policy) (delivery : Delivery),
    i.visit.verdict = .act (.update form) → form.applyTo d.selected = (p, none) →
    (Web.machine d i).requests collection delivery =
      if i.held = false ∧ p.id ≠ 0 ∧ p.Complete then [(Call.update p.id p).request collection] else []
  unreadForm : ∀ (d : Desk) (i : Web.Arrival) (form : PolicyForm) (p : Policy) (e : ValidationError)
    (delivery : Delivery),
    i.visit.verdict = .act (.add form) ∨ i.visit.verdict = .act (.update form) →
    form.applyTo d.selected = (p, some e) → (Web.machine d i).requests collection delivery = []
  create : ∀ (f : Console.Fields) (delivery : Delivery),
    (Console.Command.create f).perform.requests collection delivery =
      if (f.policy 0).Complete then [(Call.create (f.policy 0)).request collection] else []
  replace : ∀ (id : UInt64) (f : Console.Fields) (delivery : Delivery),
    (Console.Command.update id f).perform.requests collection delivery =
      if (f.policy id).Complete then [(Call.update id (f.policy id)).request collection] else []

theorem sent_if_accepted (collection : Url) : SentIfAccepted collection where
  add d today delivery := by
    rw [Desk.machine, Desk.perform, Plan.requests_map, Desk.add_requests]
  update d today delivery := by
    rw [Desk.machine, Desk.perform, Plan.requests_map, Desk.update_requests]
  formAdd d i form p delivery posted read := by
    rw [Web.machine, Web.answer_requests_of_act posted, Web.Action.add_requests read]
    cases i.held <;> simp
  formUpdate d i form p delivery posted read := by
    rw [Web.machine, Web.answer_requests_of_act posted, Web.Action.update_requests read]
    cases i.held <;> simp
  unreadForm d i form p e delivery posted fault := by
    rw [Web.machine]
    rcases posted with posted | posted
    · rw [Web.answer_requests_of_act posted, Web.Action.add_requests_of_fault fault, ite_self]
    · rw [Web.answer_requests_of_act posted, Web.Action.update_requests_of_fault fault, ite_self]
  create f delivery := by
    rw [Console.Command.perform]
    exact Console.sending_requests
  replace id f delivery := by
    rw [Console.Command.perform]
    exact Console.sending_requests

theorem Machine.log_proper {σ ι β : Type} {m : Machine σ ι β} {collection : Url} {aims : UInt64 → Prop}
    (makes : ∀ s i, (m s i).Makes (Call.Fit aims) 1) (s : σ) (steps : List (ι × Delivery)) :
    ∀ sent ∈ m.log collection s steps, sent.length ≤ 1 ∧ ∀ r ∈ sent, r.Proper collection aims := by
  apply log_forall
  intro s i delivery
  exact ⟨(makes s i).requests_length_le collection delivery, (makes s i).requests_proper delivery⟩

/-- **Nothing incomplete is ever sent.** In every run of the desk and of the page, from any state and
    whatever is answered, and on every command line: a step sends one request at most; a request that stores
    a policy goes to the collection, one that replaces a policy goes to the item of that policy, and both
    carry a complete policy whose premium is written as a number. The desk and the page replace stored
    policies only, and the console the one that was named. What fails its checks causes no request. -/
theorem only_complete_policies_are_sent [InternationalNames] (collection : Url) :
    (∀ (d : Desk) (steps : List ((Date × Desk.Action) × Delivery)),
      ∀ sent ∈ Desk.machine.log collection d steps,
        sent.length ≤ 1 ∧ ∀ r ∈ sent, r.Proper collection (· ≠ 0)) ∧
    (∀ (d : Desk) (steps : List (Web.Arrival × Delivery)),
      ∀ sent ∈ Web.machine.log collection d steps,
        sent.length ≤ 1 ∧ ∀ r ∈ sent, r.Proper collection (· ≠ 0)) ∧
    (∀ (env : Environment) (words : List String) (delivery : Delivery),
      (Console.sent env words delivery).length ≤ 1 ∧ ∀ r ∈ Console.sent env words delivery,
        ∃ url command, Console.start env words = .ok (url, command) ∧ r.Proper url command.aims) ∧
    SentIfAccepted collection := by
  refine ⟨?desk, ?page, ?console, sent_if_accepted collection⟩
  case desk =>
    intro d steps
    exact Machine.log_proper Desk.machine_makes d steps
  case page =>
    intro d steps
    exact Machine.log_proper Web.machine_makes d steps
  case console =>
    intro env words delivery
    exact ⟨Console.sent_length_le env words delivery, fun _ => Console.sent_proper⟩

end PolicyDesk
