import PolicyDesk.Proofs.Policy.Complete
import PolicyDesk.Proofs.Policy.Roundtrip
import PolicyDesk.Proofs.Service.Plan

/-!
# Proper requests

* `Policy.document_contents`: what a document says about the premium and the identifier.
* `Request.Carries`: the body of a request is the document of a complete policy.
* `Request.Proper`: where a request that stores or replaces a policy goes, and what it carries.
* `Call.Fit`: a call whose request is proper; `Call.Fit.proper`, `Plan.Makes.requests_proper`.
-/

namespace PolicyDesk

/-- A document is an object that has one number for the premium, and the identifier unless that is zero. -/
theorem Policy.document_contents (p : Policy) :
    ∃ entries, p.document.toList = (Json.Value.object .none entries).text ∧
      (∃ n, Json.contents .premium entries = [.number n]) ∧
      Json.contents .id entries =
        if p.id = 0 then [] else [.number (Json.naturalNumeral p.id.toNat)] := by
  have said := Json.said_compactEntries p.parts
  refine ⟨Json.compactEntries p.parts, p.document_text, ⟨p.premium.numeral, ?premium⟩, ?id⟩
  case premium =>
    rw [contents_of_parts said, contents_parts, if_neg (by simp)]
    rfl
  case id =>
    rw [contents_of_parts said, contents_parts]
    by_cases new : p.id = 0
    · simp [isNew, new]
    · rw [if_neg (by simp [isNew, new]), if_neg new]
      rfl

/-- The body is the document of a complete policy. It has a number for the premium, and the identifier
    unless that is zero; and it is read back as the policy, but for what rounding does to the premium. -/
structure Request.Carries (r : Request) (p : Policy) : Prop where
  body : r.body = p.document
  complete : p.Complete
  premium : ∃ text n, p.written? .premium = some text ∧
    Json.numeral .endInValue (text.map .char) = .ok (n, [])
  id : p.written? .id = if p.id = 0 then none else some (Text.natural p.id.toNat)
  contents : ∃ entries, r.body.toList = (Json.Value.object .none entries).text ∧
    (∃ n, Json.contents .premium entries = [.number n]) ∧
    Json.contents .id entries = if p.id = 0 then [] else [.number (Json.naturalNumeral p.id.toNat)]
  readBack : ∃ q, Policy.parse (Glyph.ofString r.body) = .ok q ∧ q = { p with premium := q.premium }

/-- A policy is stored at the collection, and replaced at its own item, which has to be among the records
    that are aimed at. -/
structure Request.Proper (collection : Url) (aims : UInt64 → Prop) (r : Request) : Prop where
  post : r.method = .post → r.url = collection.anonymous.withoutFragment ∧ ∃ p, r.Carries p
  put : r.method = .put →
    ∃ p, aims p.id ∧ r.url = (collection.item p.id).anonymous.withoutFragment ∧ r.Carries p

namespace Call

/-- A call that sends complete policies only, and replaces a policy under its own identifier. -/
def Fit (aims : UInt64 → Prop) : Call → Prop
  | create p => p.Complete
  | update id p => p.id = id ∧ aims id ∧ p.Complete
  | list | get _ | delete _ => True

variable {aims : UInt64 → Prop} {collection : Url} {c : Call}

theorem request_body {p : Policy} (sends : c.policy? = some p) : (c.request collection).body = p.document := by
  unfold request
  rw [sends]
  rfl

theorem request_carries {p : Policy} (sends : c.policy? = some p) (h : p.Complete) :
    (c.request collection).Carries p where
  body := request_body sends
  complete := h
  premium := p.premium_isNumeral
  id := p.written_id
  contents := by
    rw [request_body sends]
    exact p.document_contents
  readBack := by
    rw [request_body sends]
    exact ⟨p.reread, p.parse_document, rfl⟩

theorem Fit.proper (h : c.Fit aims) : (c.request collection).Proper collection aims := by
  cases c with
  | create p =>
    constructor
    · intro _
      exact ⟨rfl, p, request_carries rfl h⟩
    · intro put
      cases put
  | update id p =>
    obtain ⟨rfl, aimed, complete⟩ := h
    constructor
    · intro post
      cases post
    · intro _
      exact ⟨p, aimed, rfl, request_carries rfl complete⟩
  | list => constructor <;> intro other <;> cases other
  | get id => constructor <;> intro other <;> cases other
  | delete id => constructor <;> intro other <;> cases other

end Call

theorem Plan.Makes.requests_proper {α : Type} {collection : Url} {aims : UInt64 → Prop} {n : Nat} {p : Plan α}
    (h : p.Makes (Call.Fit aims) n) (d : Delivery) :
    ∀ r ∈ p.requests collection d, r.Proper collection aims :=
  h.requests_forall (fun _ fit => fit.proper) d

end PolicyDesk
