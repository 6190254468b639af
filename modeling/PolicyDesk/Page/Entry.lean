import PolicyDesk.Policy.Basic

/-!
# A policy as the page shows it

`Entry.ofPolicy` writes every field of a policy as text for the page: the premium with two places for
the table, and with all its digits for the form, so that saving an untouched form keeps it.
-/

namespace PolicyDesk.Page

/-- The texts of one policy. -/
structure Entry where
  id : UInt64
  number : String
  kind : String
  /-- The premium with two places. -/
  premium : String
  /-- The premium with all its digits. -/
  exactPremium : String
  start : String
  finish : String
  active : Bool
  customer : UInt32
  isNew : Bool
  deriving DecidableEq, Repr

/-- The texts of a policy. -/
def Entry.ofPolicy (p : Policy) : Entry where
  id := p.id
  number := p.number
  kind := p.kind
  premium := String.ofList p.premium.twoPlaces
  exactPremium := p.premium.plain
  start := p.start.toText
  finish := p.finish.toText
  active := p.active
  customer := p.customer
  isNew := p.isNew

end PolicyDesk.Page
