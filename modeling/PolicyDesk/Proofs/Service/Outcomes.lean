import PolicyDesk.Proofs.Service.Plan

/-!
# What comes of every call

Five calls, any status, any body, and four ways for a reply not to come: what comes of a call is settled by whether
a status arrives, by its range, and by what the call is about.

* `Call.wire`, `Call.Asks`: how each call is sent.
* `Decodes`, `Call.Accepts`: what a reply that carries out a call gives; `Call.Answered`: what any reply gives.
* `Call.heard?`: the reply that arrives, if one does.
* `Call.Outcome`: what is sent and what comes back, however the connection fares.
* `ofReply_answered`, `run_of_heard`, `run_of_unheard`: what comes of a reply, and of none.
* `every_call_has_its_outcome`: so one request is made, and its result is the one that status and body demand.
-/

namespace PolicyDesk

/-! ## How a call is sent -/

/-- The verb of each call, the address that it goes to, and what it carries. -/
def Call.wire (collection : Url) : Call → Method × Url × String
  | list => (.get, collection, "")
  | get id => (.get, collection.item id, "")
  | create p => (.post, collection, p.document)
  | update id p => (.put, collection.item id, p.document)
  | delete id => (.delete, collection.item id, "")

/-- The request of a call. A request never names the user and the fragment of an address. -/
structure Call.Asks (collection : Url) (c : Call) (r : Request) : Prop where
  method : r.method = (c.wire collection).1
  url : r.url = (c.wire collection).2.1.anonymous.withoutFragment
  body : r.body = (c.wire collection).2.2

/-! ## What a reply gives -/

/-- The reply, if there is one. -/
def Delivery.reply? : Delivery → Option Reply
  | reply r => some r
  | unreachable | dropped | timedOut => none

/-- The body of a reply ends before its time. -/
def Reply.BreaksOff (r : Reply) : Prop := Status.isBodiless r.status = false ∧ r.complete = false

/-- The bytes in the body of a reply; none if its status goes without a body. -/
def Reply.bytes (r : Reply) : List UInt8 := if Status.isBodiless r.status then [] else r.body

/-- A reply that carries out a call gives what its bytes are read as. -/
structure Decodes {α : Type} (parse : List Glyph → Except String α) (r : Reply) (result : Except ServiceError α) :
    Prop where
  brokenOff : r.BreaksOff → result = .error (.transport .brokenOff)
  value : ¬r.BreaksOff → ∀ a, parse (Glyph.ofBytes r.bytes) = .ok a → result = .ok a
  fault : ¬r.BreaksOff → ∀ reason, parse (Glyph.ofBytes r.bytes) = .error reason →
    result = .error (.undecodable reason)

namespace Call

/-- What a reply that carries out a call gives. When a record was removed, the body does not matter. -/
def Accepts (r : Reply) : (c : Call) → Except ServiceError c.Answer → Prop
  | list, result => Decodes Policy.parseList r result
  | get _, result => Decodes Policy.parse r result
  | create _, result => Decodes Policy.parse r result
  | update _ _, result => Decodes Policy.parse r result
  | delete _, result => result = .ok ()

/-- The record that a call wants to be there. -/
def wanted? : Call → Option UInt64
  | get id | update id _ | delete id => some id
  | list | create _ => none

/-- What a reply gives: an answer if the call was carried out; that the record is missing, if the call was about
    one; or the status. -/
structure Answered (c : Call) (r : Reply) (result : Except ServiceError c.Answer) : Prop where
  accepted : 200 ≤ r.status ∧ r.status < 300 → c.Accepts r result
  missing : ∀ id, r.status = 404 → c.wanted? = some id → result = .error (.notFound id)
  refused : ¬(200 ≤ r.status ∧ r.status < 300) → ¬(r.status = 404 ∧ c.wanted?.isSome) →
    ∃ message, result = .error (.refused r.status message)

/-- The call alone, with its bare result. -/
def alone (c : Call) : Plan (Except ServiceError c.Answer) := .ask c .done

/-- The reply that arrives, if the request does and there is one. -/
def heard? (collection : Url) (c : Call) (d : Delivery) : Option Reply :=
  if c.alone.arrivals collection d = [] then none else d.reply?

/-- What comes of a call. One request is made, and no other arrives. Without a reply the call fails on the way;
    otherwise the reply decides. -/
structure Outcome (collection : Url) (c : Call) (d : Delivery) : Prop where
  once : ∃ r, c.alone.requests collection d = [r] ∧ c.Asks collection r ∧
    c.alone.arrivals collection d =
      if (c.url collection).anonymous.isSendable ∧ d ≠ .unreachable then [r] else []
  unheard : c.heard? collection d = none → ∃ fault, c.alone.run collection d = .error (.transport fault)
  heard : ∀ r, c.heard? collection d = some r → c.Answered r (c.alone.run collection d)
  success : ∀ a, c.alone.run collection d = .ok a →
    ∃ r, c.heard? collection d = some r ∧ 200 ≤ r.status ∧ r.status < 300

variable {collection : Url} {c : Call} {r : Reply}

theorem request_asks (collection : Url) (c : Call) : c.Asks collection (c.request collection) := by
  cases c <;> exact ⟨rfl, rfl, rfl⟩

theorem wanted?_eq (c : Call) : c.wanted? = c.record? := by
  cases c <;> rfl

/-! ## What a reply decides -/

theorem content?_of_breaksOff (h : r.BreaksOff) : r.content? = none := by
  rw [Reply.content?, h.1, h.2]
  rfl

theorem content?_of_not_breaksOff (h : ¬r.BreaksOff) : r.content? = some (Glyph.ofBytes r.bytes) := by
  rw [Reply.content?, Reply.bytes]
  cases bodiless : Status.isBodiless r.status with
  | true => rfl
  | false =>
    cases complete : r.complete with
    | true => rfl
    | false => exact absurd ⟨bodiless, complete⟩ h

theorem readBody_decodes {α : Type} (parse : List Glyph → Except String α) (r : Reply) :
    Decodes parse r (readBody parse r.content?) where
  brokenOff off := by
    rw [content?_of_breaksOff off]
    rfl
  value whole a read := by
    rw [content?_of_not_breaksOff whole, readBody, read]
    rfl
  fault whole reason read := by
    rw [content?_of_not_breaksOff whole, readBody, read]
    rfl

theorem readAnswer_accepts (c : Call) (r : Reply) : c.Accepts r (c.readAnswer r.content?) := by
  cases c with
  | list => exact readBody_decodes _ r
  | get id => exact readBody_decodes _ r
  | create p => exact readBody_decodes _ r
  | update id p => exact readBody_decodes _ r
  | delete id => rfl

theorem isSuccess_iff {status : Nat} : Status.isSuccess status = true ↔ 200 ≤ status ∧ status < 300 := by
  simp [Status.isSuccess]

/-- **The status decides** what comes of a reply, and the body has its say only where it should. -/
theorem ofReply_answered (c : Call) (r : Reply) : c.Answered r (c.ofReply r) where
  accepted range := by
    rw [ofReply, if_pos (isSuccess_iff.mpr range)]
    exact readAnswer_accepts c r
  missing id status wanted := by
    have refused : ¬Status.isSuccess r.status = true := by rw [status]; decide
    rw [wanted?_eq] at wanted
    rw [ofReply, if_neg refused, refusal, status, wanted]
    rfl
  refused range other := by
    rw [wanted?_eq] at other
    rw [ofReply, if_neg fun success => range (isSuccess_iff.mp success), refusal]
    split
    · rename_i status record
      exact absurd ⟨status, record ▸ rfl⟩ other
    · exact ⟨_, rfl⟩

theorem success_of_ofReply {a : c.Answer} (h : c.ofReply r = .ok a) : 200 ≤ r.status ∧ r.status < 300 := by
  rw [ofReply] at h
  split at h
  · rename_i success
    exact isSuccess_iff.mp success
  · cases h

/-! ## What comes of a call -/

theorem arrivals_alone (collection : Url) (c : Call) (d : Delivery) :
    c.alone.arrivals collection d =
      if (c.url collection).anonymous.isSendable ∧ d ≠ .unreachable then [c.request collection] else [] := by
  rw [alone, Plan.arrivals, Plan.calls_ask, Plan.calls_done, List.filterMap_cons, List.filterMap_nil, arrival?]
  split <;> rename_i arrived <;> split at arrived <;> simp_all

theorem run_alone (collection : Url) (c : Call) (d : Delivery) : c.alone.run collection d = c.result collection d := by
  rw [alone, Plan.run, Plan.answered_ask, Plan.answered_done]

/-- What comes of a call whose address can be named in a request. -/
theorem run_of_sendable (sendable : (c.url collection).anonymous.isSendable = true) (d : Delivery) :
    c.alone.run collection d = match d with
      | .unreachable => .error (.transport (.unreachable (c.url collection).anonymous.toText))
      | .dropped => .error (.transport (.dropped (c.url collection).anonymous.toText))
      | .timedOut => .error (.transport (.timedOut (c.url collection).anonymous.toText))
      | .reply r => c.ofReply r := by
  rw [run_alone]
  cases d <;> simp only [Call.result, sendable, Bool.not_true, Bool.false_eq_true, if_false]

/-- An address that cannot be named in a request is not even tried. -/
theorem run_of_unsendable (unsendable : (c.url collection).anonymous.isSendable = false) (d : Delivery) :
    c.alone.run collection d = .error (.transport (.badTarget (c.url collection).anonymous.toText)) := by
  rw [run_alone]
  simp only [Call.result, unsendable, Bool.not_false, if_true]

theorem heard?_eq_some_iff {d : Delivery} :
    c.heard? collection d = some r ↔ (c.url collection).anonymous.isSendable = true ∧ d = .reply r := by
  unfold heard?
  rw [arrivals_alone]
  generalize (c.url collection).anonymous.isSendable = sendable
  cases sendable <;> cases d <;> simp [Delivery.reply?]

/-- If no reply arrives, the call fails on the way. -/
theorem run_of_unheard {d : Delivery} (h : c.heard? collection d = none) :
    ∃ fault, c.alone.run collection d = .error (.transport fault) := by
  cases sendable : (c.url collection).anonymous.isSendable with
  | false => exact ⟨_, run_of_unsendable sendable d⟩
  | true =>
    have run := run_of_sendable sendable d
    cases d with
    | unreachable => exact ⟨_, run⟩
    | dropped => exact ⟨_, run⟩
    | timedOut => exact ⟨_, run⟩
    | reply r =>
      rw [heard?_eq_some_iff.mpr ⟨sendable, rfl⟩] at h
      cases h

/-- A reply that arrives decides. -/
theorem run_of_heard {d : Delivery} (h : c.heard? collection d = some r) :
    c.alone.run collection d = c.ofReply r := by
  obtain ⟨sendable, rfl⟩ := heard?_eq_some_iff.mp h
  exact run_of_sendable sendable (.reply r)

theorem result_of_heard {d : Delivery} (h : c.heard? collection d = some r) :
    c.result collection d = c.ofReply r := by
  rw [← run_alone, run_of_heard h]

/-- **Every call has its outcome.** Whatever the address on the web, the call, and what happens on the way: one
    request is made, the one of the table. It arrives if it can name its address and a connection can be made. If
    no status arrives, the call fails on the way. A status of success brings what the bytes of the body are read
    as, and for a removed record nothing more; a missing record is missing whatever the body; and every other
    status is an error with this status. -/
theorem every_call_has_its_outcome (collection : Url) (c : Call) (d : Delivery) : c.Outcome collection d where
  once := ⟨c.request collection, rfl, request_asks collection c, arrivals_alone collection c d⟩
  unheard := run_of_unheard
  heard r arrived := by
    rw [run_of_heard arrived]
    exact ofReply_answered c r
  success a ok := by
    cases arrived : c.heard? collection d with
    | none =>
      obtain ⟨fault, failed⟩ := run_of_unheard arrived
      rw [failed] at ok
      cases ok
    | some r =>
      rw [run_of_heard arrived] at ok
      exact ⟨r, rfl, success_of_ofReply ok⟩

end Call

end PolicyDesk
