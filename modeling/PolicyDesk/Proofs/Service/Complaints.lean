import PolicyDesk.Proofs.Json.Recognition
import PolicyDesk.Proofs.Json.Written
import PolicyDesk.Proofs.Service.Outcomes

/-!
# What a refusal says

The message of a reply that refuses a call, for every body: a record that has a message, a text, or next to nothing.

* `Complaint.messages`, `Complaint.Says`: what an object says as its message, and which values are records of one.
* `Complaint.shape_reads`, `shape_recognises`: the record is read from a value, and from nothing else.
* `recorded?_eq_some_iff`: so a message is found exactly in the texts that say one.
* `Complaint.Surfaces`: what is made of a text, in the order of preference; `Reply.HasText`: the text of a body.
* `Call.refusals_surface_what_is_said`: this is the message of every call that is refused.
* `Call.half_a_name_hides_the_message`: the names of all members have to be strings for it.
-/

namespace PolicyDesk

open Json (Content Entry Item Value Gap spelled? Unbroken toOption_map toOption_eq_some_iff)

namespace Complaint

/-! ## Records with a message -/

/-- What the members named for the message say, in their order. -/
def messages (entries : List (Entry Value)) : List Content :=
  (entries.filter fun e => e.title? = some "message").map fun e => e.value.content

/-- The value is a record with this message: an object in which one member is named for it and is this string, or a
    list whose only element is this string. The names of the other members do not matter, but are strings. -/
inductive Says : Value → String → Prop
  | object (gap : Gap) (entries : List (Entry Value)) (m : String) (named : ∀ e ∈ entries, e.title?.isSome)
      (once : messages entries = [.text (some m)]) : Says (.object gap entries) m
  | list (gap : Gap) (item : Item Value) (m : String) (only : item.value.content = .text (some m)) :
      Says (.list gap [item]) m

/-- The text is such a record, with spaces around it. -/
def TextSays (text m : String) : Prop :=
  ∃ (before : Gap) (v : Value) (after : Gap), text.toList = before.chars ++ (v.text ++ after.chars) ∧ Says v m

/-! ## The reader of the record -/

/-- What a value makes of the message. -/
def put (_ : Field) (c : Content) (_ : Option (Option String)) : Option (Option (Option String)) :=
  (c.optional Content.text?).map some

theorem shape_reads : shape.Reads put := by
  intro f d gap v s _
  change (readField f d _).toOption = _
  rw [readField, toOption_map, Json.optional_value (Json.text_value v Gap.none s) gap, put, Option.map_map,
    Option.map_map]
  rfl

/-- What is read as the message, or as none, is a value. -/
theorem shape_recognises : shape.Recognises := by
  intro f d e s r whole h
  obtain ⟨⟨t, rest⟩, read, same⟩ := map_eq_ok h
  cases same
  exact Json.exists_optional (fun whole h => Json.exists_text whole h) whole read

/-! ## What an object says -/

variable {entries : List (Entry Value)} {e : Entry Value} {m : String}

theorem messages_cons (e : Entry Value) (entries : List (Entry Value)) :
    messages (e :: entries) =
      if e.title? = some "message" then e.value.content :: messages entries else messages entries := by
  unfold messages
  rw [List.filter_cons]
  by_cases title : e.title? = some "message" <;> simp [title]

/-- The name of a member has to be a string; then the member is passed over unless it is named for the message. -/
theorem take_eq (d : Option (Option String)) (e : Entry Value) :
    shape.take put d e = e.title?.bind fun name =>
      if name = "message" then if d.isSome then none else put .message e.value.content d else some d := by
  unfold Json.Shape.take Entry.title?
  cases spelled? e.name with
  | none => rfl
  | some name =>
    by_cases same : name = "message"
    · simp only [shape, same, if_true, Option.bind_some]
      rfl
    · simp [shape, same]

/-- Once there is a message, no further one may come. The induction is on the members. -/
theorem fill_some_iff (t : Option String) (d : Option (Option String)) :
    shape.fill put (some t) entries = some d ↔
      (∀ e ∈ entries, e.title?.isSome) ∧ messages entries = [] ∧ d = some t := by
  induction entries with
  | nil =>
    refine ⟨fun h => ⟨fun _ mem => (List.not_mem_nil mem).elim, rfl, (Option.some.inj h).symm⟩, ?_⟩
    rintro ⟨-, -, rfl⟩
    rfl
  | cons e entries ih =>
    rw [Json.Shape.fill, take_eq, messages_cons, List.forall_mem_cons]
    cases title : e.title? with
    | none => simp
    | some name =>
      by_cases same : name = "message"
      · simp [same]
      · simp [same, ih]

theorem optional_text?_eq_some_iff {c : Content} :
    c.optional Content.text? = some (some m) ↔ c = .text (some m) := by
  cases c with
  | text t => cases t <;> simp [Content.optional, Content.text?]
  | _ => simp [Content.optional, Content.text?]

/-- **An object is read as the message that it says.** The induction is on the members. -/
theorem fill_none_iff :
    shape.fill put none entries = some (some (some m)) ↔
      (∀ e ∈ entries, e.title?.isSome) ∧ messages entries = [.text (some m)] := by
  induction entries with
  | nil => simp [Json.Shape.fill, messages]
  | cons e entries ih =>
    rw [Json.Shape.fill, take_eq, messages_cons, List.forall_mem_cons]
    cases title : e.title? with
    | none => simp
    | some name =>
      by_cases same : name = "message"
      · have read := optional_text?_eq_some_iff (c := e.value.content) (m := m)
        simp only [same, if_true, Option.bind_some, Option.isSome_none, Bool.false_eq_true, if_false, put,
          Option.isSome_some, true_and, List.cons.injEq, ← read]
        cases e.value.content.optional Content.text? with
        | none => simp
        | some t =>
          simp only [Option.map_some, Option.bind_some, fill_some_iff, Option.some.injEq]
          constructor
          · rintro ⟨named, none, same⟩
            exact ⟨named, same.symm, none⟩
          · rintro ⟨named, same, none⟩
            exact ⟨named, none, same.symm⟩
      · simp [same, ih]

/-- **A list is read as the message that is its only element.** -/
theorem place_iff {items : List (Item Value)} :
    shape.place put shape.fields none items = some (some (some m)) ↔
      ∃ item, items = [item] ∧ item.value.content = .text (some m) := by
  simp only [← optional_text?_eq_some_iff]
  match items with
  | [] => simp [shape, Json.Shape.place]
  | [item] => simp [shape, Json.Shape.place, put]
  | item :: other :: items => simp [shape, Json.Shape.place, put]

/-! ## What a body says -/

/-- What the record makes of a value. -/
def value? : Value → Option (Option String) := shape.value? put fun d => .ok d.join

theorem recorded?_eq (s : List Glyph) :
    recorded? s = ((shape.record (fun d => .ok d.join) s).bind Json.finish).toOption.join := by
  rw [recorded?]
  cases (shape.record (fun d => .ok d.join) s).bind Json.finish <;> rfl

theorem value?_eq_some_iff {v : Value} : value? v = some (some m) ↔ Says v m := by
  have made : ∀ d : Option (Option (Option String)),
      (d.bind fun d => (.ok d.join : Except Json.Cause (Option String)).toOption) = some (some m) ↔
        d = some (some (some m)) := by
    rintro (_ | _ | _ | t) <;> simp
  constructor
  · intro h
    cases v with
    | list gap items =>
      obtain ⟨item, rfl, only⟩ := place_iff.mp ((made _).mp h)
      exact .list gap item m only
    | object gap entries =>
      obtain ⟨named, once⟩ := fill_none_iff.mp ((made _).mp h)
      exact .object gap entries m named once
    | _ => cases h
  · rintro (⟨gap, entries, m, named, once⟩ | ⟨gap, item, m, only⟩)
    · exact (made _).mpr (fill_none_iff.mpr ⟨named, once⟩)
    · exact (made _).mpr (place_iff.mpr ⟨item, rfl, only⟩)

/-- **A value with spaces around it is a record of its message**, and of no other. -/
theorem recorded?_value (before : Gap) (v : Value) (after : Gap) :
    recorded? ((before.chars ++ (v.text ++ after.chars)).map .char) = (value? v).join := by
  have record := Json.Shape.record_value shape_reads (fun d => .ok d.join) before v (after.chars.map .char)
  rw [recorded?_eq, Json.toOption_bind, List.map_append, List.map_append, record, value?]
  cases shape.value? put (fun d => .ok d.join) v with
  | none => rfl
  | some t => rw [Option.map_some, Option.bind_some, Json.finish_gap, Json.toOption_ok]

/-- Where a message is found, there is a value with spaces around it. -/
theorem exists_value_of_recorded? {text : String} (h : recorded? (Glyph.ofString text) = some m) :
    ∃ (before : Gap) (v : Value) (after : Gap), text.toList = before.chars ++ (v.text ++ after.chars) := by
  rw [recorded?_eq, Json.toOption_bind] at h
  obtain ⟨⟨t, rest⟩, parsed, finished⟩ := Option.bind_eq_some_iff.mp (Option.join_eq_some_iff.mp h)
  obtain ⟨before, v, split⟩ :=
    Json.Shape.exists_record shape_recognises (Json.unbroken_ofString text) (toOption_eq_some_iff.mp parsed)
  obtain ⟨after, spaces⟩ := Json.exists_gap rest
  rw [(Json.finish_eq_ok_iff.mp (toOption_eq_some_iff.mp finished)).2, List.append_nil] at spaces
  rw [spaces, Glyph.ofString, ← List.map_append, ← List.map_append] at split
  exact ⟨before, v, after, List.map_injective_iff.mpr (fun _ _ => Glyph.char.inj) split⟩

/-- **A message is found exactly in the texts that say one.** -/
theorem recorded?_eq_some_iff {text : String} : recorded? (Glyph.ofString text) = some m ↔ TextSays text m := by
  constructor
  · intro h
    obtain ⟨before, v, after, split⟩ := exists_value_of_recorded? h
    rw [Glyph.ofString, split, recorded?_value] at h
    exact ⟨before, v, after, split, value?_eq_some_iff.mp (Option.join_eq_some_iff.mp h)⟩
  · rintro ⟨before, v, after, split, said⟩
    rw [Glyph.ofString, split, recorded?_value, value?_eq_some_iff.mpr said]
    rfl

/-- **What a text says is what its value says**, however the text is taken apart. -/
theorem textSays_value {text : String} {before : Gap} {v : Value} {after : Gap}
    (split : text.toList = before.chars ++ (v.text ++ after.chars)) : TextSays text m ↔ Says v m := by
  rw [← recorded?_eq_some_iff, Glyph.ofString, split, recorded?_value, Option.join_eq_some_iff, value?_eq_some_iff]

/-! ## What is made of a body -/

/-- The message that is made of a body: the one that it says; or else what is left of it without the blanks around
    it; or else the phrase of the status, if it has one. -/
structure Surfaces (status : Nat) (text message : String) : Prop where
  recorded : ∀ m, TextSays text m → message = m
  bare : (¬∃ m, TextSays text m) → Text.trim text ≠ "" → message = Text.trim text
  phrase : (¬∃ m, TextSays text m) → Text.trim text = "" → ∀ p, Status.reason? status = some p → message = p
  unknown : (¬∃ m, TextSays text m) → Text.trim text = "" → Status.reason? status = none → message = "unknown status"

theorem message_of_silent {text : String} (status : Nat) (silent : ¬∃ m, TextSays text m) :
    message status text =
      if Text.trim text = "" then (Status.reason? status).getD "unknown status" else Text.trim text := by
  have none : recorded? (Glyph.ofString text) = none := by
    cases found : recorded? (Glyph.ofString text) with
    | none => rfl
    | some m => exact absurd ⟨m, recorded?_eq_some_iff.mp found⟩ silent
  simp only [message, none, String.isEmpty_iff]

theorem message_surfaces (status : Nat) (text : String) : Surfaces status text (message status text) where
  recorded m said := by rw [message, recorded?_eq_some_iff.mpr said]
  bare silent rest := by rw [message_of_silent status silent, if_neg rest]
  phrase silent empty p reason := by rw [message_of_silent status silent, if_pos empty, reason, Option.getD_some]
  unknown silent empty reason := by rw [message_of_silent status silent, if_pos empty, reason, Option.getD_none]

end Complaint

/-! ## What a refused call says -/

/-- The text of a body: nothing if it breaks off, or else its bytes, with U+FFFD for those that spell no character. -/
structure Reply.HasText (r : Reply) (text : String) : Prop where
  brokenOff : r.BreaksOff → text = ""
  whole : ¬r.BreaksOff → text = Glyph.lossy (Glyph.ofBytes r.bytes)

theorem Reply.hasText_content? (r : Reply) : r.HasText (Glyph.lossy (r.content?.getD [])) where
  brokenOff off := by
    rw [Call.content?_of_breaksOff off]
    rfl
  whole whole := by rw [Call.content?_of_not_breaksOff whole, Option.getD_some]

namespace Call

open Complaint

variable {collection : Url} {c : Call} {d : Delivery} {r : Reply}

/-- **Refusals surface what is said.** Every call that hears a status that is neither one of success nor means that
    its record is missing fails with this status, and with the message that is made of the text of the body. -/
theorem refusals_surface_what_is_said (arrived : c.heard? collection d = some r)
    (refused : ¬(200 ≤ r.status ∧ r.status < 300)) (present : ¬(r.status = 404 ∧ c.wanted?.isSome)) :
    ∃ text message, r.HasText text ∧ Surfaces r.status text message ∧
      c.alone.run collection d = .error (.refused r.status message) := by
  refine ⟨_, _, r.hasText_content?, message_surfaces _ _, ?_⟩
  rw [run_alone, result_of_heard arrived, ofReply, if_neg fun success => refused (isSuccess_iff.mp success), refusal]
  rw [wanted?_eq] at present
  split
  · rename_i status record
    exact absurd ⟨status, record ▸ rfl⟩ present
  · rfl

/-- There is no list, and the reply says so in a list of one string. That no record was asked for leaves the message
    to the body. -/
theorem list_of_one_is_surfaced :
    let collection : Url := ⟨.http, [], [], .name "host".toList, none, ⟨[], "policies".toList⟩, none, none⟩
    let reply : Reply := ⟨404, Text.utf8 " [ \"no such table\"]\n".toList, true⟩
    Call.list.heard? collection (.reply reply) = some reply ∧ ¬(200 ≤ reply.status ∧ reply.status < 300) ∧
      ¬(reply.status = 404 ∧ Call.list.wanted?.isSome) ∧
      Call.list.alone.run collection (.reply reply) = .error (.refused 404 "no such table") := by
  intro collection reply
  have arrived : Call.list.heard? collection (.reply reply) = some reply :=
    Call.heard?_eq_some_iff.mpr ⟨by decide +kernel, rfl⟩
  have refused : ¬(200 ≤ reply.status ∧ reply.status < 300) := by decide
  have present : ¬(reply.status = 404 ∧ Call.list.wanted?.isSome) := by decide
  obtain ⟨text, message, reads, surfaces, result⟩ := refusals_surface_what_is_said arrived refused present
  have whole : ¬reply.BreaksOff := fun off => Bool.noConfusion off.2
  have text_eq : text = " [ \"no such table\"]\n" := by
    rw [reads.whole whole]
    decide +kernel
  have said : TextSays text "no such table" := by
    rw [text_eq]
    refine ⟨⟨[' '], by simp⟩, .list .none [⟨⟨[' '], by simp⟩, .string (Json.written "no such table".toList), .none⟩],
      ⟨['\n'], by simp⟩, by decide +kernel, .list _ _ _ ?_⟩
    rw [Json.Value.content, Json.spelled?_written]
  rw [surfaces.recorded _ said] at result
  exact ⟨arrived, refused, present, result⟩

/-- The name of a further member is half a pair of codes and so is no string: the object is none that is read, and the
    whole body is the message, although its only message is a string. -/
theorem half_a_name_hides_the_message :
    let collection : Url := ⟨.http, [], [], .name "host".toList, none, ⟨[], "policies".toList⟩, none, none⟩
    let o : Json.ObjectText := ⟨.none, .none,
      [⟨.none, [.coded ⟨⟨13, false⟩, ⟨8, false⟩, ⟨0, false⟩, ⟨0, false⟩⟩], .none, .none, .null, .none⟩,
        ⟨.none, Json.written "message".toList, .none, .none, .string (Json.written "m".toList), .none⟩], .none⟩
    let reply : Reply := ⟨500, Text.utf8 o.text, true⟩
    String.ofList o.text = "\x7b\"\\ud800\":null,\"message\":\"m\"\x7d" ∧
      messages o.entries = [.text (some "m")] ∧
      Call.list.heard? collection (.reply reply) = some reply ∧
      Call.list.alone.run collection (.reply reply) = .error (.refused 500 (String.ofList o.text)) := by
  intro collection o reply
  have arrived : Call.list.heard? collection (.reply reply) = some reply :=
    Call.heard?_eq_some_iff.mpr ⟨by decide +kernel, rfl⟩
  refine ⟨by decide +kernel, rfl, arrived, ?_⟩
  have silent : ¬∃ m, TextSays (String.ofList o.text) m := by
    rintro ⟨m, said⟩
    cases (textSays_value (v := .object o.gap o.entries) String.toList_ofList).mp said with
    | object _ _ _ named _ => exact absurd (named _ List.mem_cons_self) (by decide +kernel)
  have body : Glyph.lossy (reply.content?.getD []) = String.ofList o.text := by decide +kernel
  have bare : Text.trim (String.ofList o.text) = String.ofList o.text := by decide +kernel
  have message := (message_surfaces 500 (String.ofList o.text)).bare silent (bare ▸ by decide +kernel)
  rw [bare] at message
  rw [run_alone, result_of_heard arrived, ← message]
  exact congrArg (fun text => Except.error (ServiceError.refused 500 (Complaint.message 500 text))) body

end Call

end PolicyDesk
