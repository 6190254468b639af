import PolicyDesk.Service.Call
import PolicyDesk.Service.Complaint

/-!
# What comes of a call

* `Delivery`: what happens to a request on its way, and the reply if there is one.
* `ServiceError`: the ways in which a call can fail.
* `Call.ofReply`: the answer that a reply gives.
* `Call.result`, `Call.arrival?`: the result of a call, and the request that arrives at the service.
* `Plan`: something that may take calls, each of which depends on what came of those before.
-/

namespace PolicyDesk

/-- A final reply of the service. -/
structure Reply where
  /-- At most 999 on the wire. Of the interim replies, those below 200, only 101 is ever the reply to a call. -/
  status : Nat
  body : List UInt8
  /-- Whether the body arrives to its end. -/
  complete : Bool
  deriving DecidableEq, Repr

/-- The body of a reply; `none` if it breaks off. -/
def Reply.content? (r : Reply) : Option (List Glyph) :=
  if Status.isBodiless r.status then some []
  else if r.complete then some (Glyph.ofBytes r.body) else none

/-- What happens to a request. -/
inductive Delivery where
  /-- No connection is made. -/
  | unreachable
  /-- The connection ends before a reply. -/
  | dropped
  /-- No reply comes in time. -/
  | timedOut
  | reply (reply : Reply)
  deriving DecidableEq, Repr

/-- Why no complete reply came. -/
inductive TransportFault where
  /-- The address cannot be put into a request. -/
  | badTarget (target : String)
  | unreachable (target : String)
  | dropped (target : String)
  | timedOut (target : String)
  /-- The body broke off. -/
  | brokenOff
  deriving DecidableEq, Repr

/-- The fault in words. -/
def TransportFault.message : TransportFault → String
  | badTarget target => "HTTP request failed: builder error for url (" ++ target ++ ")"
  | unreachable target => "connection failed: error sending request for url (" ++ target ++ ")"
  | dropped target => "HTTP request failed: error sending request for url (" ++ target ++ ")"
  | timedOut target => "request timed out: error sending request for url (" ++ target ++ ")"
  | brokenOff => "HTTP request failed: error decoding response body"

/-- Why a call failed. -/
inductive ServiceError where
  /-- No complete reply came. -/
  | transport (fault : TransportFault)
  /-- The service does not have the record that the call is about. -/
  | notFound (id : UInt64)
  /-- The service refused. -/
  | refused (status : Nat) (message : String)
  /-- The reply cannot be read. -/
  | undecodable (reason : String)
  deriving DecidableEq, Repr

/-- The complaint that no policy has the identifier. -/
def notFoundMessage (id : UInt64) : String :=
  "Insurance Policy not found: " ++ String.ofList (Text.natural id.toNat)

/-- The error in words. -/
def ServiceError.message : ServiceError → String
  | transport fault => "Policy service request failed: " ++ fault.message
  | notFound id => notFoundMessage id
  | refused status message =>
    "Policy service returned " ++ String.ofList (Text.natural status) ++ ": " ++ message
  | undecodable reason => "Invalid policy service response: Failed to parse response: " ++ reason

/-- Whether the call failed because the record does not exist. -/
def ServiceError.isNotFound : ServiceError → Bool
  | notFound _ => true
  | _ => false

namespace Url

/-- The longest address that a request can name, in bytes. -/
def sendableSize : Nat := 65534

/-- Whether a request can name the address. -/
def isSendable (u : Url) : Bool :=
  u.toText.utf8ByteSize ≤ sendableSize && !u.host.text.any (fun c => "\"\x60\x7b\x7d".toList.contains c)

end Url

namespace Call

/-- Reads a body that has to hold something. -/
def readBody {α : Type} (parse : List Glyph → Except String α) :
    Option (List Glyph) → Except ServiceError α
  | none => .error (.transport .brokenOff)
  | some s => (parse s).mapError .undecodable

/-- The answer in the body of a reply. When a record was removed, the body does not matter. -/
def readAnswer (c : Call) (body : Option (List Glyph)) : Except ServiceError c.Answer :=
  match c with
  | list => readBody Policy.parseList body
  | get _ => readBody Policy.parse body
  | create _ => readBody Policy.parse body
  | update _ _ => readBody Policy.parse body
  | delete _ => .ok ()

/-- The error of a reply that refuses a call. -/
def refusal (c : Call) (r : Reply) : ServiceError :=
  match r.status, c.record? with
  | 404, some id => .notFound id
  | status, _ => .refused status (Complaint.message status (Glyph.lossy (r.content?.getD [])))

/-- The answer that a reply gives. -/
def ofReply (c : Call) (r : Reply) : Except ServiceError c.Answer :=
  if Status.isSuccess r.status then c.readAnswer r.content? else .error (c.refusal r)

/-- The result of a call, given what happens to its request. -/
def result (collection : Url) (c : Call) (d : Delivery) : Except ServiceError c.Answer :=
  let target := (c.url collection).anonymous
  if !target.isSendable then .error (.transport (.badTarget target.toText))
  else
    match d with
    | .unreachable => .error (.transport (.unreachable target.toText))
    | .dropped => .error (.transport (.dropped target.toText))
    | .timedOut => .error (.transport (.timedOut target.toText))
    | .reply r => c.ofReply r

/-- The request that arrives at the service. -/
def arrival? (collection : Url) (c : Call) (d : Delivery) : Option Request :=
  let target := (c.url collection).anonymous
  if target.isSendable ∧ d ≠ .unreachable then some (c.request collection) else none

end Call

/-- Something that may take calls to the service, one after the other. -/
inductive Plan (α : Type) where
  /-- No call is needed any more. -/
  | done (result : α)
  /-- A call is made, and its result decides how to go on. -/
  | ask (call : Call) (next : Except ServiceError call.Answer → Plan α)

namespace Plan

variable {α β : Type}

/-- Goes on with what comes of a plan. -/
def map (f : α → β) : Plan α → Plan β
  | done a => done (f a)
  | ask c next => ask c fun r => (next r).map f

/-- What comes of a plan if the service answers so. -/
def answered (service : (c : Call) → Except ServiceError c.Answer) : Plan α → α
  | done a => a
  | ask c next => (next (service c)).answered service

/-- The calls of a plan, in order, if the service answers so. -/
def calls (service : (c : Call) → Except ServiceError c.Answer) : Plan α → List Call
  | done _ => []
  | ask c next => c :: (next (service c)).calls service

/-- What comes of a plan, given what happens to each of its requests. -/
def run (collection : Url) (d : Delivery) (p : Plan α) : α :=
  p.answered fun c => c.result collection d

/-- The requests of a plan that arrive at the service, in order. -/
def arrivals (collection : Url) (d : Delivery) (p : Plan α) : List Request :=
  (p.calls fun c => c.result collection d).filterMap (·.arrival? collection d)

end Plan

end PolicyDesk
