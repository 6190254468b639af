import PolicyDesk.Proofs.Console.Options
import PolicyDesk.Proofs.Form.Binding
import PolicyDesk.Proofs.Sending
import PolicyDesk.Proofs.Text.Blank
import PolicyDesk.Proofs.Web.Refinement

/-!
# The console and the page send the same

A policy can be typed on a command line or into the form of the page. The two read texts in different ways: the
page trims what is typed and takes a blank customer for zero, and the console takes a customer with a sign. But
what both accept, they read as the same policy.

* `required_eq_ok`, `readCustomer_of_readRanged`: a text that both accept is read as the same value.
* `applyTo_eq_ok`: what a form that is taken over leaves.
* `applyTo_of_readFrom`: so both make the same policy, whatever was in the form of the page before.
* `front_ends_send_the_same`: so both send the same request.
-/

namespace PolicyDesk

open CommandLine (readRanged)

variable {form : PolicyForm}

/-! ## Readers that trim, and readers that do not -/

theorem PolicyForm.required_eq_ok {α : Type} {field : PolicyField} {raw : String} {read : String → Except String α}
    {a : α} (h : required field raw read = .ok a) : read (Text.trim raw) = .ok a := by
  unfold required at h
  split at h
  · cases h
  · cases done : read (Text.trim raw) with
    | error reason =>
      rw [done] at h
      cases h
    | ok b =>
      rw [done] at h
      cases h
      rfl

/-! ## Customers -/

/-- Digits behind a sign have no blanks. -/
theorem not_blank_of_digits {s : List Char} (h : ∀ c ∈ Text.unsigned s, Text.isDigit c = true) :
    ∀ c ∈ s, Text.isBlank c = false := by
  intro c mem
  unfold Text.unsigned at h
  split at h
  · rcases List.mem_cons.mp mem with rfl | mem
    · decide
    · exact Text.isBlank_of_isDigit (h c mem)
  · exact Text.isBlank_of_isDigit (h c mem)

/-- What is read from zero on is unsigned, or a zero with a minus sign. -/
theorem CommandLine.readRanged_eq_ok {most n : Nat} {s : String} (h : readRanged most s = .ok n) :
    Text.readUnsigned 0x7FFFFFFFFFFFFFFF s.toList = .ok n ∨
      ∃ ds, s.toList = '-' :: ds ∧ ∀ c ∈ ds, Text.isDigit c = true := by
  unfold readRanged at h
  split at h
  · rename_i k signed
    split at h
    · cases h
      obtain ⟨m, unsigned, rfl⟩ | minus := Text.readSigned_eq_ok signed
      · exact .inl unsigned
      · exact .inr minus
    · cases h
  · cases h

/-- A customer without blanks is read as it stands. -/
theorem PolicyForm.readCustomer_eq_ok {raw : String} {customer : UInt32} (filled : raw ≠ "")
    (plain : ∀ c ∈ raw.toList, Text.isBlank c = false) (h : readCustomer raw = .ok customer) :
    ∃ n, Text.readUnsigned (UInt32.size - 1) raw.toList = .ok n ∧ customer = UInt32.ofNat n := by
  rw [readCustomer, Text.isBlankText_of_not_blank filled plain, Text.trim_eq_self plain] at h
  simp only [Bool.false_eq_true, if_false] at h
  split at h
  · rename_i n read
    cases h
    exact ⟨n, read, rfl⟩
  · cases h

/-- **A customer that both accept** is the same customer. -/
theorem PolicyForm.readCustomer_of_readRanged {raw : String} {n : Nat} {customer : UInt32}
    (ranged : readRanged (UInt32.size - 1) raw = .ok n) (read : readCustomer raw = .ok customer) :
    customer = UInt32.ofNat n := by
  obtain unsigned | ⟨ds, minus, digits⟩ := CommandLine.readRanged_eq_ok ranged
  · obtain ⟨some, digits, same⟩ := Text.readUnsigned_eq_ok unsigned
    have filled : raw ≠ "" := fun empty => some (by rw [empty]; rfl)
    obtain ⟨m, taken, rfl⟩ := readCustomer_eq_ok filled (not_blank_of_digits digits) read
    rw [(Text.readUnsigned_eq_ok taken).2.2, ← same]
  · -- the page takes no sign but a plus
    have plain : ∀ c ∈ raw.toList, Text.isBlank c = false := by
      rw [minus]
      exact List.forall_mem_cons.mpr ⟨by decide, fun c mem => Text.isBlank_of_isDigit (digits c mem)⟩
    have filled : raw ≠ "" := by
      rintro rfl
      cases minus
    obtain ⟨m, taken, rfl⟩ := readCustomer_eq_ok filled plain read
    rw [minus] at taken
    cases taken

/-! ## Policies -/

/-- A form that is taken over has had all its fields read, and they are all that is left of the policy it was put
    into, except for its identifier. -/
theorem PolicyForm.applyTo_eq_ok {p q : Policy} (h : form.applyTo q = (p, none)) :
    ∃ premium start finish customer,
      required .premium form.premium Amount.read = .ok premium ∧
      required .start form.start Date.read = .ok start ∧
      required .finish form.finish Date.read = .ok finish ∧
      readCustomer form.customer = .ok customer ∧
      p = ⟨q.id, Text.trim form.number, Text.trim form.kind, premium, start, finish, isTicked form.active,
        customer⟩ := by
  unfold applyTo at h
  simp only at h
  split at h
  · cases h
  · rename_i premium priced
    split at h
    · cases h
    · rename_i start started
      split at h
      · cases h
      · rename_i finish finished
        split at h
        · cases h
        · rename_i customer asked
          cases h
          exact ⟨premium, start, finish, customer, priced, started, finished, asked, rfl⟩

/-- **What both accept is the same policy**, whatever was in the form of the page before; only its identifier is
    no field of the form. -/
theorem PolicyForm.applyTo_of_readFrom {f : Console.Fields} {p q : Policy} (reads : f.ReadFrom form)
    (number : Text.trim form.number = form.number) (kind : Text.trim form.kind = form.kind)
    (taken : form.applyTo q = (p, none)) : p = f.policy q.id := by
  obtain ⟨n, ranged, customer⟩ := reads.customer
  obtain ⟨premium, start, finish, asked, priced, started, finished, read, rfl⟩ := applyTo_eq_ok taken
  have priced := required_eq_ok priced
  have started := required_eq_ok started
  have finished := required_eq_ok finished
  rw [Amount.read_trim, reads.premium] at priced
  rw [Date.read_trim, reads.start] at started
  rw [Date.read_trim, reads.finish] at finished
  cases priced
  cases started
  cases finished
  rw [readCustomer_of_readRanged ranged read, ← customer, number, kind, ← reads.number, ← reads.kind,
    ← reads.active, Console.Fields.policy]

/-! ## Requests -/

namespace Web

variable {collection : Url} {d : Desk} {i : Arrival} {delivery : Delivery} {r : Request}

/-- What a posted form sends for a new policy. -/
theorem mem_requests_add (posts : i.visit.PostsTo "/policies") (brings : i.visit.Brings form)
    (h : r ∈ (machine d i).requests collection delivery) :
    ∃ p, form.applyTo d.selected = (p, none) ∧ r = (Call.create p).request collection := by
  have posted := verdict_eq_act_iff.mpr (accepted_form_add posts (Visit.form_of_brings brings))
  rcases read : form.applyTo d.selected with ⟨p, _ | e⟩
  · rw [(sent_if_accepted collection).formAdd d i form p delivery posted read] at h
    split at h
    · exact ⟨p, rfl, List.mem_singleton.mp h⟩
    · cases h
  · rw [(sent_if_accepted collection).unreadForm d i form p e delivery (.inl posted) read] at h
    cases h

/-- What a posted form sends for the policy that is selected. -/
theorem mem_requests_update (posts : i.visit.PostsTo "/policies/update") (brings : i.visit.Brings form)
    (h : r ∈ (machine d i).requests collection delivery) :
    ∃ p, form.applyTo d.selected = (p, none) ∧ r = (Call.update p.id p).request collection := by
  have posted := verdict_eq_act_iff.mpr (accepted_form_update posts (Visit.form_of_brings brings))
  rcases read : form.applyTo d.selected with ⟨p, _ | e⟩
  · rw [(sent_if_accepted collection).formUpdate d i form p delivery posted read] at h
    split at h
    · exact ⟨p, rfl, List.mem_singleton.mp h⟩
    · cases h
  · rw [(sent_if_accepted collection).unreadForm d i form p e delivery (.inr posted) read] at h
    cases h

end Web

/-- An identifier in decimal is read on a command line as it is in a path. -/
theorem Web.DecimalOf.readWord64 {digits : List Char} {id : UInt64} (h : DecimalOf digits id) :
    CommandLine.readWord64 (String.ofList digits) = .ok id := by
  have fits : Text.value digits ≤ UInt64.size - 1 := by
    rw [h.value]
    exact Nat.le_sub_one_of_lt id.toNat_lt_size
  rw [CommandLine.readWord64, String.toList_ofList, Text.readUnsigned_digits h.some h.digits fits, h.value]
  simp

/-- An identifier in decimal starts with no dash. -/
theorem Web.DecimalOf.head_ne_dash {digits : List Char} {id : UInt64} (h : DecimalOf digits id) :
    (String.ofList digits).toList.head? ≠ Option.some '-' := by
  rw [String.toList_ofList]
  intro dash
  cases h.digits '-' (List.mem_of_mem_head? dash)

open Console (words options address)

/-- **The console and the page send the same.** The texts of a form stand in the options of a command or are posted
    to the page, for one base address. If both send a request, for a new policy or for the one that is named and
    selected, then it is the same request: the same verb, the same address and the same body, whatever else the
    selected policy holds and whatever comes of the two requests. -/
theorem front_ends_send_the_same [InternationalNames] (env : Environment) (given : Option String)
    (form : PolicyForm) (number : Text.trim form.number = form.number) (kind : Text.trim form.kind = form.kind)
    (collection : Url) (located : (ServiceConfig.ofAddress (address env given)).collection = .ok collection)
    (d : Desk) (i : Web.Arrival) (brings : i.visit.Brings form) (first second : Delivery) :
    (d.selected.isNew = true → i.visit.PostsTo "/policies" →
      ∀ r₁ ∈ Console.sent env (words given "create" (options form)) first,
      ∀ r₂ ∈ (Web.machine d i).requests collection second, r₁.method = .post ∧ r₁ = r₂) ∧
    ∀ digits, Web.DecimalOf digits d.selected.id → i.visit.PostsTo "/policies/update" →
      ∀ r₁ ∈ Console.sent env (words given "update" (String.ofList digits :: options form)) first,
      ∀ r₂ ∈ (Web.machine d i).requests collection second, r₁.method = .put ∧ r₁ = r₂ := by
  constructor
  · intro isNew posts r₁ h₁ r₂ h₂
    obtain ⟨f, reads, h₁⟩ := Console.sent_create located h₁
    obtain ⟨p, taken, rfl⟩ := Web.mem_requests_add posts brings h₂
    have zero : d.selected.id = 0 := by simpa [Policy.isNew] using isNew
    have same : p = f.policy 0 := zero ▸ PolicyForm.applyTo_of_readFrom reads number kind taken
    rw [(sent_if_accepted collection).create f first] at h₁
    split at h₁
    · rw [List.mem_singleton.mp h₁, same]
      exact ⟨rfl, rfl⟩
    · cases h₁
  · intro digits decimal posts r₁ h₁ r₂ h₂
    obtain ⟨f, reads, h₁⟩ := Console.sent_update decimal.head_ne_dash decimal.readWord64 located h₁
    obtain ⟨p, taken, rfl⟩ := Web.mem_requests_update posts brings h₂
    have same : p = f.policy d.selected.id := PolicyForm.applyTo_of_readFrom reads number kind taken
    rw [(sent_if_accepted collection).replace d.selected.id f first] at h₁
    split at h₁
    · rw [List.mem_singleton.mp h₁, same]
      exact ⟨rfl, rfl⟩
    · cases h₁

/-- A new policy, and an update of a stored one, with blanks around the premium and a plus sign in front of the
    customer: the console and the page both send a request, and it is the same. -/
theorem typed_policy_is_sent_alike :
    letI := InternationalNames.unknown
    let form : PolicyForm := ⟨"P-1", "Auto", " 1e2 ", "2024-01-01", "2024-12-31", "+7", some "true"⟩
    let collection : Url := ⟨.http, [], [], .name "host".toList, none, ⟨[], "policies".toList⟩, none, none⟩
    let body := ["policyNumber=P-1", "&policyType=Auto", "&premiumAmount=+1e2+", "&startDate=2024-01-01",
      "&endDate=2024-12-31", "&customerId=%2B7", "&isActive=true"].flatMap String.toList
    let visit (path : String) : Web.Visit := ⟨"POST", path, some Web.formType, Text.utf8 body⟩
    let add : Web.Arrival := ⟨⟨.epoch, true⟩, false, visit "/policies"⟩
    let update : Web.Arrival := ⟨⟨.epoch, true⟩, false, visit "/policies/update"⟩
    let stored : Desk := ⟨[], ⟨42, "P-0", "Home", .zero, .epoch, .epoch, false, 0⟩, none⟩
    (∃ r, Console.sent (fun _ => none) (words (some "http://host/policies") "create" (options form))
        .unreachable = [r] ∧
      (Web.machine (.opened .epoch) add).requests collection .dropped = [r]) ∧
    ∃ r, Console.sent (fun _ => none) (words (some "http://host/policies") "update" ("42" :: options form))
        .unreachable = [r] ∧
      (Web.machine stored update).requests collection .dropped = [r] := by
  intro form collection body visit add update stored
  let := InternationalNames.unknown
  have located : (ServiceConfig.ofAddress (address (fun _ => none) (some "http://host/policies"))).collection =
      .ok collection := Json.toOption_eq_some_iff.mp (by decide +kernel)
  have short : (Text.utf8 body).length ≤ Web.longestBody := by decide +kernel
  have filled : form.FilledBy (FormBody.pairs (Text.utf8 body)) := by decide +kernel
  have brings : ∀ v : Web.Visit, v.announcesForm = true → v.body = Text.utf8 body → v.Brings form :=
    fun v announced sent => ⟨announced, sent ▸ short, sent ▸ filled⟩
  have alike := front_ends_send_the_same (fun _ => none) (some "http://host/policies") form (by decide) (by decide)
    collection located
  constructor
  · have console : (Console.sent (fun _ => none) (words (some "http://host/policies") "create"
        (options form)) .unreachable).length = 1 := by decide +kernel
    have page : ((Web.machine (.opened .epoch) add).requests collection .dropped).length = 1 := by decide +kernel
    obtain ⟨r₁, typed⟩ := List.length_eq_one_iff.mp console
    obtain ⟨r₂, posted⟩ := List.length_eq_one_iff.mp page
    have same := (alike (.opened .epoch) add (brings _ (by decide) rfl) .unreachable .dropped).1 rfl ⟨rfl, by decide⟩
      r₁ (by rw [typed]; exact List.mem_cons_self) r₂ (by rw [posted]; exact List.mem_cons_self)
    exact ⟨r₁, typed, same.2 ▸ posted⟩
  · have console : (Console.sent (fun _ => none) (words (some "http://host/policies") "update"
        ("42" :: options form)) .unreachable).length = 1 := by decide +kernel
    have page : ((Web.machine stored update).requests collection .dropped).length = 1 := by decide +kernel
    obtain ⟨r₁, typed⟩ := List.length_eq_one_iff.mp console
    obtain ⟨r₂, posted⟩ := List.length_eq_one_iff.mp page
    have decimal : Web.DecimalOf "42".toList stored.selected.id :=
      ⟨by decide, List.all_eq_true.mp (by decide), by decide⟩
    have same := (alike stored update (brings _ (by decide) rfl) .unreachable .dropped).2 "42".toList decimal
      ⟨rfl, by decide⟩ r₁ (by rw [String.ofList_toList, typed]; exact List.mem_cons_self)
      r₂ (by rw [posted]; exact List.mem_cons_self)
    exact ⟨r₁, typed, same.2 ▸ posted⟩

end PolicyDesk
