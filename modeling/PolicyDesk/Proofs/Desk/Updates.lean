import PolicyDesk.Proofs.Desk.Coherence
import PolicyDesk.Proofs.Service.Outcomes

/-!
# An update takes over what the service answers

The policy in the form is sent to the service, and the policy of the answer is taken over into the list as it is,
in the place of the first entry with the identifier that was sent.

* `Reply.Tells`: a reply that carries out a call and whose body is read as a policy.
* `put_of_listed`: what `put` does to a list that has the identifier.
* `TakesOver`: a list in which one entry has been replaced so; `takesOver_put`.
* `update_eq_ok`: an update that succeeds has an answer, and takes it over.
* `update_takes_over_the_answer`: so it does whatever the service replies. The identifiers stay as they are
  exactly if the answer has the identifier that was sent.
* `update_may_lose_the_identifier`: no reply is made to have it.
-/

namespace PolicyDesk

/-! ## Answers -/

/-- The reply carries out a call, and its body is read as the policy. -/
structure Reply.Tells (r : Reply) (p : Policy) : Prop where
  success : 200 ≤ r.status ∧ r.status < 300
  whole : ¬r.BreaksOff
  body : Policy.parse (Glyph.ofBytes r.bytes) = .ok p

namespace Call

/-- A call that has an answer has it from a reply. -/
theorem result_eq_ok {collection : Url} {c : Call} {delivery : Delivery} {a : c.Answer}
    (h : c.result collection delivery = .ok a) : ∃ r, delivery = .reply r ∧ c.ofReply r = .ok a := by
  simp only [result] at h
  split at h
  · cases h
  · cases delivery with
    | reply r => exact ⟨r, rfl, h⟩
    | unreachable => cases h
    | dropped => cases h
    | timedOut => cases h

/-- The answer to an update is the policy in the body of the reply. -/
theorem tells_of_ofReply_update {id : UInt64} {sent p : Policy} {r : Reply}
    (h : (update id sent).ofReply r = .ok p) : r.Tells p := by
  have range := success_of_ofReply h
  have answered : Decodes Policy.parse r (.ok p) := h ▸ (ofReply_answered (update id sent) r).accepted range
  have whole : ¬r.BreaksOff := fun off => by cases answered.brokenOff off
  refine ⟨range, whole, ?_⟩
  cases read : Policy.parse (Glyph.ofBytes r.bytes) with
  | ok q => rw [Except.ok.inj (answered.value whole q read)]
  | error reason => cases answered.fault whole reason read

end Call

namespace Desk

/-! ## The list -/

/-- In a list that has the identifier, the first entry with it is replaced and all others stay. -/
theorem put_of_listed {id : UInt64} {rows : List Policy} (listed : ∃ q ∈ rows, q.id = id) :
    ∃ front old back, rows = front ++ old :: back ∧ old.id = id ∧ (∀ q ∈ front, q.id ≠ id) ∧
      ∀ p, put id p rows = front ++ p :: back := by
  induction rows with
  | nil =>
    obtain ⟨q, mem, -⟩ := listed
    cases mem
  | cons first rows ih =>
    by_cases own : first.id = id
    · exact ⟨[], first, rows, rfl, own, fun _ mem => (by cases mem), fun p => if_pos own⟩
    · obtain ⟨q, mem, same⟩ := listed
      have later : q ∈ rows := by
        obtain rfl | later := List.mem_cons.mp mem
        · exact absurd same own
        · exact later
      obtain ⟨front, old, back, rfl, named, others, replaced⟩ := ih ⟨q, later, same⟩
      refine ⟨first :: front, old, back, rfl, named, List.forall_mem_cons.mpr ⟨own, others⟩, fun p => ?_⟩
      rw [put, if_neg own, replaced p]
      rfl

/-- A policy has been taken over into a list in the place of the first entry with the identifier, and no other
    entry has changed. The identifiers are the same, and the policy is found, exactly if it has the identifier
    itself. -/
structure TakesOver (id : UInt64) (p : Policy) (before after : List Policy) : Prop where
  length : after.length = before.length
  first : ∃ front old back, before = front ++ old :: back ∧ old.id = id ∧ (∀ q ∈ front, q.id ≠ id) ∧
    after = front ++ p :: back
  ids : after.map (·.id) = before.map (·.id) ↔ p.id = id
  found : after.find? (·.id == id) = some p ↔ p.id = id

theorem takesOver_put {id : UInt64} {rows : List Policy} (listed : ∃ q ∈ rows, q.id = id) (p : Policy) :
    TakesOver id p rows (put id p rows) := by
  obtain ⟨front, old, back, rfl, named, others, replaced⟩ := put_of_listed listed
  rw [replaced p]
  refine ⟨by simp, ⟨front, old, back, rfl, named, others, rfl⟩, ?ids, ?found⟩
  case ids =>
    have cancelled : (front ++ p :: back).map (·.id) = (front ++ old :: back).map (·.id) ↔ p.id = old.id := by
      simp
    rw [cancelled, named]
  case found =>
    have before : front.find? (·.id == id) = none := List.find?_eq_none.mpr fun q mem => by simpa using others q mem
    rw [List.find?_append, before, Option.none_or]
    constructor
    · intro found
      simpa using List.find?_some found
    · intro own
      exact List.find?_cons_of_pos (by simpa using own)

/-! ## Updates -/

variable {d : Desk} {today : Date}

/-- **An update that succeeds** has been answered, and the answer is in the list. -/
theorem update_eq_ok {service : (c : Call) → Except ServiceError c.Answer}
    (h : ((d.update today).answered service).2 = .ok ()) :
    ∃ p : Policy, service (.update d.selected.id d.selected) = .ok p ∧
      ((d.update today).answered service).1.policies = put d.selected.id p d.policies := by
  unfold update at h ⊢
  simp only at h ⊢
  split at h
  · cases h
  · simp only [asking, Plan.answered_ask, Plan.answered_done] at h ⊢
    cases answered : service (.update d.selected.id d.selected) with
    | error e =>
      rw [answered] at h
      cases h
    | ok p => exact ⟨p, rfl, rfl⟩

/-- **An update takes over the answer.** Some entry of the list has the identifier of the policy in the form, and
    the update succeeds, whatever the service replies. Then the reply tells a policy, and this policy stands in
    the place of the first such entry; the list is as long as before, and all other entries are where they were.
    The identifiers are as before exactly if the policy that was told has the identifier that was sent, and
    exactly then it is found under it. -/
theorem update_takes_over_the_answer (d : Desk) (today : Date) (collection : Url) (delivery : Delivery)
    (listed : ∃ q ∈ d.policies, q.id = d.selected.id)
    (done : ((d.update today).run collection delivery).2 = .ok ()) :
    ∃ r p, delivery = .reply r ∧ r.Tells p ∧
      TakesOver d.selected.id p d.policies ((d.update today).run collection delivery).1.policies := by
  obtain ⟨p, answered, after⟩ := update_eq_ok done
  obtain ⟨r, replied, told⟩ := Call.result_eq_ok answered
  refine ⟨r, p, replied, Call.tells_of_ofReply_update told, ?_⟩
  rw [Plan.run, after]
  exact takesOver_put listed p

/-- Record 8 is updated, and the answer has its identifier: the answer is found under it, and record 7 is where it
    was. -/
theorem update_takes_over_a_kept_identifier :
    let row (id : UInt64) (number : String) : Policy := ⟨id, number, "", .zero, .epoch, .epoch, false, 0⟩
    let d : Desk := ⟨[row 7 "P-7", row 8 "P-8"], { row 8 "P-8" with kind := "T" }, none⟩
    let body := "\x7b\"policyId\":8,\"policyNumber\":\"N\",\"startDate\":0,\"endDate\":0\x7d"
    let reply : Reply := ⟨200, Text.utf8 body.toList, true⟩
    let collection : Url := ⟨.http, [], [], .name "host".toList, none, ⟨[], "policies".toList⟩, none, none⟩
    let after := ((d.update .epoch).run collection (.reply reply)).1
    (∃ q ∈ d.policies, q.id = d.selected.id) ∧ ((d.update .epoch).run collection (.reply reply)).2 = .ok () ∧
      reply.Tells (row 8 "N") ∧ TakesOver 8 (row 8 "N") d.policies after.policies ∧
      after.policies.map (·.id) = [7, 8] ∧ after.find? 8 = some (row 8 "N") := by
  intro row d body reply collection after
  have listed : ∃ q ∈ d.policies, q.id = d.selected.id := ⟨row 8 "P-8", by simp [d], rfl⟩
  have done : ((d.update .epoch).run collection (.reply reply)).2 = .ok () := by decide +kernel
  obtain ⟨r, p, sent, told, taken⟩ := update_takes_over_the_answer d .epoch collection (.reply reply) listed done
  obtain rfl : reply = r := Delivery.reply.inj sent
  have read : Policy.parse (Glyph.ofBytes reply.bytes) = .ok (row 8 "N") := by decide +kernel
  obtain rfl : row 8 "N" = p := Except.ok.inj (read.symm.trans told.body)
  exact ⟨listed, done, told, taken, taken.ids.mpr rfl, taken.found.mpr rfl⟩

/-- The identifier of the answer is not always the one that was sent. Record 7 is updated. If the answer has no
    identifier, the list loses 7 and has a policy without identifier in its place; if it has the identifier of
    record 8, the list has 8 twice. Nothing is found under 7, although the update has succeeded. -/
theorem update_may_lose_the_identifier :
    let row (id : UInt64) : Policy := ⟨id, "N", "T", .zero, .epoch, .epoch, false, 0⟩
    let d : Desk := ⟨[row 7, row 8], row 7, none⟩
    let collection : Url := ⟨.http, [], [], .name "host".toList, none, ⟨[], "policies".toList⟩, none, none⟩
    let updated (answer : String) :=
      (d.update .epoch).run collection (.reply ⟨200, Text.utf8 answer.toList, true⟩)
    let unnamed := updated "\x7b\"startDate\":0,\"endDate\":0\x7d"
    let renamed := updated "\x7b\"policyId\":8,\"startDate\":0,\"endDate\":0\x7d"
    (∃ q ∈ d.policies, q.id = d.selected.id) ∧
      (unnamed.2 = .ok () ∧ unnamed.1.policies.map (·.id) = [0, 8] ∧ unnamed.1.find? 7 = none) ∧
      renamed.2 = .ok () ∧ renamed.1.policies.map (·.id) = [8, 8] ∧ renamed.1.find? 7 = none := by
  decide +kernel

end Desk

end PolicyDesk
