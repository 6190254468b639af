import PolicyDesk.Address.Url
import PolicyDesk.Policy.Document

/-!
# Asking the service

* `Call`: the five things the service can be asked for.
* `Call.Answer`: what it answers with when all goes well.
* `Call.request`: how a call is sent.
-/

namespace PolicyDesk

/-- What the service can be asked for. -/
inductive Call where
  /-- All policies. -/
  | list
  /-- One policy. -/
  | get (id : UInt64)
  /-- To store a new policy. -/
  | create (policy : Policy)
  /-- To replace a policy. -/
  | update (id : UInt64) (policy : Policy)
  /-- To remove a policy. -/
  | delete (id : UInt64)
  deriving DecidableEq, Repr

/-- The verbs of requests. -/
inductive Method where
  | get
  | post
  | put
  | delete
  deriving DecidableEq, Repr

/-- The verb as requests spell it. -/
def Method.name : Method → String
  | get => "GET"
  | post => "POST"
  | put => "PUT"
  | delete => "DELETE"

/-- A request as it arrives at the service. -/
structure Request where
  method : Method
  /-- The address without user and fragment. -/
  url : Url
  /-- Who asks, if the address names a user. -/
  authorization : Option String
  /-- What the body holds, if there is one. -/
  contentType : Option String
  body : String
  deriving DecidableEq, Repr

namespace Call

/-- What a call is answered with. -/
def Answer : Call → Type
  | list => List Policy
  | get _ => Policy
  | create _ => Policy
  | update _ _ => Policy
  | delete _ => Unit

/-- The verb of a call. -/
def method : Call → Method
  | list => .get
  | get _ => .get
  | create _ => .post
  | update _ _ => .put
  | delete _ => .delete

/-- The record that a call is about, if it is about one that should exist. -/
def record? : Call → Option UInt64
  | list => none
  | get id => some id
  | create _ => none
  | update id _ => some id
  | delete id => some id

/-- The policy that a call sends. -/
def policy? : Call → Option Policy
  | list => none
  | get _ => none
  | create p => some p
  | update _ p => some p
  | delete _ => none

/-- The address that a call goes to. -/
def url (collection : Url) (c : Call) : Url :=
  match c.record? with
  | none => collection
  | some id => collection.item id

/-- How a call is sent. -/
def request (collection : Url) (c : Call) : Request where
  method := c.method
  url := (c.url collection).anonymous.withoutFragment
  authorization := (c.url collection).credentials?.map Credentials.header
  contentType := c.policy?.map fun _ => "application/json"
  body := (c.policy?.map Policy.document).getD ""

end Call

end PolicyDesk
