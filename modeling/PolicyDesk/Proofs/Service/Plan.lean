import PolicyDesk.Service.Exchange

/-!
# Plans and their requests

What a plan sends depends on what it is answered. How many calls it makes, and of which kind, can be known
beforehand.

* `Plan.requests`: what a plan sends, whether it arrives or not.
* `Plan.answered_map`, `Plan.requests_map`: going on with the outcome of a plan changes neither the answers
  that it gets nor what it sends.
* `Plan.Makes`: a plan that makes so many calls at most, all of one kind; `Plan.Makes.calls`.
* `Plan.arrivals_sublist`: nothing arrives that was not sent.
-/

namespace PolicyDesk.Plan

variable {α β : Type}

/-- What a plan sends, in order, given what happens to each of its requests. -/
def requests (collection : Url) (d : Delivery) (p : Plan α) : List Request :=
  (p.calls fun c => c.result collection d).map (·.request collection)

/-- The plan makes `n` calls at most, whatever it is answered, and only good ones. -/
inductive Makes (good : Call → Prop) : Nat → Plan α → Prop where
  | done {n : Nat} {a : α} : Makes good n (done a)
  | ask {n : Nat} {c : Call} {next : Except ServiceError c.Answer → Plan α} (first : good c)
      (others : ∀ r, Makes good n (next r)) : Makes good (n + 1) (ask c next)

section

variable (service : (c : Call) → Except ServiceError c.Answer)

@[simp] theorem answered_done (a : α) : (done a).answered service = a := rfl

@[simp] theorem answered_ask (c : Call) (next : Except ServiceError c.Answer → Plan α) :
    (ask c next).answered service = (next (service c)).answered service := rfl

@[simp] theorem calls_done (a : α) : (done a).calls service = [] := rfl

@[simp] theorem calls_ask (c : Call) (next : Except ServiceError c.Answer → Plan α) :
    (ask c next).calls service = c :: (next (service c)).calls service := rfl

@[simp] theorem answered_map (f : α → β) (p : Plan α) :
    (p.map f).answered service = f (p.answered service) := by
  induction p with
  | done a => rfl
  | ask c next ih => exact ih (service c)

@[simp] theorem calls_map (f : α → β) (p : Plan α) : (p.map f).calls service = p.calls service := by
  induction p with
  | done a => rfl
  | ask c next ih => exact congrArg (c :: ·) (ih (service c))

end

@[simp] theorem requests_done (collection : Url) (d : Delivery) (a : α) : (done a).requests collection d = [] := rfl

@[simp] theorem requests_ask (collection : Url) (d : Delivery) (c : Call)
    (next : Except ServiceError c.Answer → Plan α) :
    (ask c next).requests collection d =
      c.request collection :: (next (c.result collection d)).requests collection d := rfl

@[simp] theorem requests_map (collection : Url) (d : Delivery) (f : α → β) (p : Plan α) :
    (p.map f).requests collection d = p.requests collection d := by
  rw [requests, requests, calls_map]

theorem map_map {γ : Type} (f : α → β) (g : β → γ) (p : Plan α) : (p.map f).map g = p.map (g ∘ f) := by
  induction p with
  | done a => rfl
  | ask c next ih => exact congrArg (ask c) (funext ih)

/-! ## How many calls are made -/

namespace Makes

variable {good better : Call → Prop} {n : Nat} {p : Plan α}

theorem one {c : Call} (h : good c) (f : Except ServiceError c.Answer → α) :
    Makes good 1 (.ask c fun r => .done (f r)) :=
  .ask h fun _ => .done

theorem map (h : Makes good n p) (f : α → β) : Makes good n (p.map f) := by
  induction h with
  | done => exact .done
  | ask first _ ih => exact .ask first ih

theorem mono (h : Makes good n p) (weaker : ∀ c, good c → better c) : Makes better n p := by
  induction h with
  | done => exact .done
  | ask first _ ih => exact .ask (weaker _ first) ih

/-- Whatever a plan is answered, it makes no more calls than that, and only good ones. -/
theorem calls (h : Makes good n p) (service : (c : Call) → Except ServiceError c.Answer) :
    (p.calls service).length ≤ n ∧ ∀ c ∈ p.calls service, good c := by
  induction h with
  | done => simp
  | @ask n c next first _ ih =>
    obtain ⟨few, others⟩ := ih (service c)
    exact ⟨Nat.succ_le_succ few, List.forall_mem_cons.mpr ⟨first, others⟩⟩

theorem requests_length_le (h : Makes good n p) (collection : Url) (d : Delivery) :
    (p.requests collection d).length ≤ n := by
  rw [requests, List.length_map]
  exact (h.calls _).1

theorem requests_forall {sound : Request → Prop} {collection : Url} (h : Makes good n p)
    (sends : ∀ c, good c → sound (c.request collection)) (d : Delivery) :
    ∀ r ∈ p.requests collection d, sound r := by
  intro r mem
  obtain ⟨c, made, rfl⟩ := List.mem_map.mp mem
  exact sends c ((h.calls _).2 c made)

end Makes

/-! ## What arrives -/

/-- Nothing arrives at the service that the plan has not sent. -/
theorem arrivals_sublist (collection : Url) (d : Delivery) (p : Plan α) :
    (p.arrivals collection d).Sublist (p.requests collection d) := by
  unfold arrivals requests
  generalize p.calls _ = cs
  induction cs with
  | nil => exact .slnil
  | cons c cs ih =>
    rw [List.filterMap_cons, List.map_cons, Call.arrival?]
    split
    · rename_i lost
      exact ih.cons _
    · rename_i r arrived
      split at arrived
      · cases arrived
        exact ih.cons_cons _
      · cases arrived

/-- If one request is made at most, one that arrives is the only one. -/
theorem Makes.requests_of_arrives {good : Call → Prop} {p : Plan α} (h : p.Makes good 1) {collection : Url}
    {d : Delivery} {r : Request} (arrives : r ∈ p.arrivals collection d) : p.requests collection d = [r] := by
  have mem := (arrivals_sublist collection d p).mem arrives
  have few := h.requests_length_le collection d
  obtain ⟨only, sent⟩ := List.length_eq_one_iff.mp (Nat.le_antisymm few (List.length_pos_of_mem mem))
  rw [sent] at mem ⊢
  rw [List.mem_singleton.mp mem]

end PolicyDesk.Plan
