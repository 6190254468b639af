import PolicyDesk.Desk.Actions
import PolicyDesk.Proofs.Desk.Updates
import PolicyDesk.Proofs.Policy.Lists
import PolicyDesk.Proofs.Policy.Roundtrip
import PolicyDesk.Proofs.Service.Outcomes
import PolicyDesk.Proofs.Text.Utf8

/-!
# The list is loaded element by element, all or nothing

What a listing leaves at the desk, if its reply has the texts of some values between brackets. Each text is one
value of any kind, with any brackets, commas and quotes in it, and whether it is a policy is seen from it alone.

* `Json.IsBlank`, `skipSpace_ofBytes_eq_nil_iff`: the bytes that may follow a list.
* `Call.Brings`: a reply of success arrives with this body.
* `load_of_read`, `load_of_unread`: what a listing leaves if the body is read, and if it is not.
* `Desk.Refuses`, `Desk.TakesEach`: the list of before, and the policies of the texts.
* `lists_are_loaded_element_by_element`: so the texts have the last word, and nothing may follow them.
-/

namespace PolicyDesk

/-! ## What may follow a list -/

namespace Json

/-- A byte that may stand between tokens. -/
def IsBlank (b : UInt8) : Prop := b = 0x20 ∨ b = 0x0A ∨ b = 0x09 ∨ b = 0x0D

theorem isSpace_iff {c : Char} : isSpace (.char c) = true ↔ c = ' ' ∨ c = '\n' ∨ c = '\t' ∨ c = '\r' := by
  simp [isSpace, or_assoc]

/-- The spaces among the characters of one byte. -/
theorem isSpace_ascii {b : UInt8} (h : b.toNat < 0x80) : isSpace (.char (Char.ofNat b.toNat)) = true ↔ IsBlank b := by
  have number : ∀ n < 0x80, isSpace (.char (Char.ofNat n)) = true ↔ n = 0x20 ∨ n = 0x0A ∨ n = 0x09 ∨ n = 0x0D := by
    decide
  rw [number b.toNat h]
  simp only [IsBlank, ← UInt8.toNat_inj]
  rfl

/-- A wide glyph is no space. -/
theorem not_isSpace_of_isWide {g : Glyph} (h : g.IsWide) : isSpace g = false := by
  cases g with
  | broken n => rfl
  | char c =>
    have number := h c rfl
    rw [Bool.eq_false_iff]
    intro space
    obtain rfl | rfl | rfl | rfl := isSpace_iff.mp space
    all_goals exact absurd number (by decide)

/-- Bytes are passed over to their end exactly if all of them may stand between tokens. -/
theorem skipSpace_ofBytes_eq_nil_iff (bytes : List UInt8) :
    skipSpace (Glyph.ofBytes bytes) = [] ↔ ∀ b ∈ bytes, IsBlank b := by
  induction bytes with
  | nil => exact ⟨fun _ _ mem => (List.not_mem_nil mem).elim, fun _ => rfl⟩
  | cons b bytes ih =>
    rw [List.forall_mem_cons, ← ih, skipSpace]
    by_cases ascii : b.toNat < 0x80
    · rw [Glyph.ofBytes_ascii ascii, List.dropWhile_cons, ← isSpace_ascii ascii]
      split
      · rename_i space
        simp [space, skipSpace]
      · rename_i other
        simp [other]
    · obtain ⟨g, gs, read, wide⟩ := Glyph.ofBytes_wide ascii bytes
      have notBlank : ¬IsBlank b := by
        rintro (rfl | rfl | rfl | rfl) <;> exact ascii (by decide)
      rw [read, List.dropWhile_cons, not_isSpace_of_isWide wide]
      simp [notBlank]

end Json

/-! ## What a listing leaves -/

/-- A reply of success arrives at the call, and these are the bytes of its body. -/
def Call.Brings (c : Call) (collection : Url) (delivery : Delivery) (body : List UInt8) : Prop :=
  ∃ r, c.heard? collection delivery = some r ∧ (200 ≤ r.status ∧ r.status < 300) ∧ ¬r.BreaksOff ∧ r.bytes = body

namespace Desk

variable {d : Desk} {collection : Url} {delivery : Delivery} {body : List UInt8}

/-- The call has failed because the reply cannot be read, and the list is the one of before. -/
structure Refuses (d : Desk) (after : After Unit) : Prop where
  error : ∃ reason, after.2 = .error (.service (.undecodable reason))
  policies : after.1.policies = d.policies
  selected : after.1.selected = d.selected

/-- The list is now the policies of the texts, if each of them is one; otherwise it is the one of before. -/
structure TakesEach (d : Desk) (ts : List (List Char)) (after : After Unit) : Prop where
  succeeds : after.2 = .ok () ↔ ∀ t ∈ ts, ∃ p, Policy.parse (t.map .char) = .ok p
  taken : after.2 = .ok () → ∃ ps, Policy.ReadAs ts ps ∧ after.1 = { d with policies := ps, lastError := none }
  kept : (∃ t ∈ ts, ∀ p, Policy.parse (t.map .char) ≠ .ok p) → d.Refuses after

theorem load_of_read (brings : Call.list.Brings collection delivery body) {ps : List Policy}
    (read : Policy.parseList (Glyph.ofBytes body) = .ok ps) :
    d.load.run collection delivery = ({ d with policies := ps, lastError := none }, .ok ()) := by
  obtain ⟨r, heard, success, whole, rfl⟩ := brings
  have answered := (Call.ofReply_answered .list r).accepted success
  have result : Call.list.result collection delivery = .ok ps :=
    (Call.result_of_heard heard).trans (answered.value whole ps read)
  unfold Plan.run load asking
  rw [Plan.answered_ask, Plan.answered_done]
  simp only [result]
  rfl

theorem load_of_unread (brings : Call.list.Brings collection delivery body) {reason : String}
    (unread : Policy.parseList (Glyph.ofBytes body) = .error reason) :
    d.Refuses (d.load.run collection delivery) := by
  obtain ⟨r, heard, success, whole, rfl⟩ := brings
  have answered := (Call.ofReply_answered .list r).accepted success
  have result : Call.list.result collection delivery = .error (.undecodable reason) :=
    (Call.result_of_heard heard).trans (answered.fault whole reason unread)
  unfold Plan.run load asking
  rw [Plan.answered_ask, Plan.answered_done]
  simp only [result]
  exact ⟨⟨reason, rfl⟩, rfl, rfl⟩

/-- A reply with the texts between brackets is taken over if it is read as what the texts are on their own. -/
theorem takesEach_of_brings (brings : Call.list.Brings collection delivery body) {ts : List (List Char)}
    (read : ∀ ps, Policy.parseList (Glyph.ofBytes body) = .ok ps ↔ Policy.ReadAs ts ps) :
    d.TakesEach ts (d.load.run collection delivery) := by
  have each := Policy.exists_readAs_iff ts
  cases parsed : Policy.parseList (Glyph.ofBytes body) with
  | ok ps =>
    have texts := (read ps).mp parsed
    have loaded := load_of_read (d := d) brings parsed
    have all := each.mp ⟨ps, texts⟩
    refine ⟨iff_of_true (congrArg Prod.snd loaded) all, fun _ => ⟨ps, texts, congrArg Prod.fst loaded⟩, ?_⟩
    rintro ⟨t, mem, other⟩
    obtain ⟨p, policy⟩ := all t mem
    exact absurd policy (other p)
  | error reason =>
    have refused := load_of_unread (d := d) brings parsed
    have failed : (d.load.run collection delivery).2 ≠ .ok () := by
      obtain ⟨reason, error⟩ := refused.error
      intro done
      rw [error] at done
      cases done
    have none : ¬∃ ps, Policy.ReadAs ts ps := by
      rintro ⟨ps, texts⟩
      rw [(read ps).mpr texts] at parsed
      cases parsed
    exact ⟨iff_of_false failed fun all => none (each.mpr all), fun done => absurd done failed, fun _ => refused⟩

theorem refuses_of_brings (brings : Call.list.Brings collection delivery body)
    (unread : ∀ ps, Policy.parseList (Glyph.ofBytes body) ≠ .ok ps) : d.Refuses (d.load.run collection delivery) := by
  cases parsed : Policy.parseList (Glyph.ofBytes body) with
  | ok ps => exact absurd parsed (unread ps)
  | error reason => exact load_of_unread brings parsed

/-- **A list is loaded element by element, all or nothing.** The reply has the texts of some values between brackets,
    with commas between them. If only spaces follow, the listing succeeds exactly if each text on its own is a
    policy; then the list is these policies in their order, and nothing is left of the list of before. Otherwise
    the reply cannot be read and the list is kept, and so it is if anything else follows, or if a comma stands
    behind the last text. -/
theorem lists_are_loaded_element_by_element (d : Desk) (collection : Url) (delivery : Delivery)
    (ts : List (List Char)) (values : ∀ t ∈ ts, Json.IsValue t) (tail : List UInt8) :
    (Call.list.Brings collection delivery (Text.utf8 (Json.listText ts) ++ tail) →
      ((∀ b ∈ tail, Json.IsBlank b) → d.TakesEach ts (d.load.run collection delivery)) ∧
        ((∃ b ∈ tail, ¬Json.IsBlank b) → d.Refuses (d.load.run collection delivery))) ∧
      ∀ space, Call.list.Brings collection delivery (Text.utf8 (Json.trailingText ts space) ++ tail) →
        d.Refuses (d.load.run collection delivery) := by
  have read : ∀ ps, Policy.parseList (Glyph.ofBytes (Text.utf8 (Json.listText ts) ++ tail)) = .ok ps ↔
      Policy.ReadAs ts ps ∧ ∀ b ∈ tail, Json.IsBlank b := by
    intro ps
    rw [Glyph.ofBytes_utf8_append, Policy.parseList_eq_ok_iff values, Json.skipSpace_ofBytes_eq_nil_iff]
  refine ⟨fun brings => ⟨fun blank => ?_, ?_⟩, fun space brings => ?_⟩
  · exact takesEach_of_brings brings fun ps => (read ps).trans (and_iff_left blank)
  · rintro ⟨b, mem, more⟩
    exact refuses_of_brings brings fun ps parsed => more (((read ps).mp parsed).2 b mem)
  · refine refuses_of_brings brings fun ps parsed => ?_
    obtain ⟨reason, fault⟩ := Policy.parseList_trailingComma values space (Glyph.ofBytes tail)
    rw [Glyph.ofBytes_utf8_append, fault] at parsed
    cases parsed

/-- A policy whose number looks like the end of the list comes twice, with spaces behind the list: it is listed twice.
    Next to a text that is no policy it is not listed at all. -/
theorem listing_takes_each_or_none :
    let p : Policy := ⟨7, "],[\"", "T", .zero, .epoch, .epoch, true, 5⟩
    let d : Desk := ⟨[{ p with id := 8 }], p, none⟩
    let collection : Url := ⟨.http, [], [], .name "host".toList, none, ⟨[], "policies".toList⟩, none, none⟩
    let reply (ts : List (List Char)) : Delivery := .reply ⟨200, Text.utf8 (Json.listText ts) ++ [0x0D, 0x0A], true⟩
    d.load.run collection (reply [p.document.toList, p.document.toList]) =
        ({ d with policies := [p, p], lastError := none }, .ok ()) ∧
      d.Refuses (d.load.run collection (reply [p.document.toList, "null".toList])) := by
  intro p d collection reply
  have document : Json.IsValue p.document.toList := ⟨_, p.document_text ▸ Json.denotes_value _⟩
  have null : Json.IsValue "null".toList := ⟨.null, Json.denotes_value .null⟩
  have blank : ∀ b ∈ [0x0D, 0x0A], Json.IsBlank b := by simp [Json.IsBlank]
  have brings : ∀ ts, Call.list.Brings collection (reply ts) (Text.utf8 (Json.listText ts) ++ [0x0D, 0x0A]) :=
    fun ts => ⟨_, Call.heard?_eq_some_iff.mpr ⟨by decide +kernel, rfl⟩, by simp, by simp [Reply.BreaksOff], rfl⟩
  have same : p.reread = p := by decide +kernel
  have read : Policy.parse (p.document.toList.map .char) = .ok p := p.parse_document.trans (congrArg _ same)
  have unread : (Policy.parse ("null".toList.map .char)).toOption = none := by decide +kernel
  have takes : ∀ ts, (∀ t ∈ ts, Json.IsValue t) → d.TakesEach ts (d.load.run collection (reply ts)) := fun ts values =>
    ((lists_are_loaded_element_by_element d collection (reply ts) ts values [0x0D, 0x0A]).1 (brings ts)).1 blank
  have taken := takes [p.document.toList, p.document.toList] (by simp [document])
  have kept := takes [p.document.toList, "null".toList] (by simp only [List.forall_mem_cons, document, null]; simp)
  have done := taken.succeeds.mpr (by simp [read])
  obtain ⟨ps, texts, after⟩ := taken.taken done
  have two : ps = [p, p] := Policy.readAs_unique texts (.cons read (.cons read .nil))
  rw [two] at after
  refine ⟨Prod.ext after done, kept.kept ⟨"null".toList, ?mem, fun q parsed => ?none⟩⟩
  case mem => exact List.mem_cons_of_mem _ List.mem_cons_self
  case none =>
    rw [parsed] at unread
    cases unread

end Desk

end PolicyDesk
