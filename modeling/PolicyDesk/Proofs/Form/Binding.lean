import PolicyDesk.Proofs.Form.Filling
import PolicyDesk.Proofs.Policy.Grammar
import PolicyDesk.Proofs.Text.Blank

/-!
# A form is taken over up to its first fault

A form is put into a policy field by field. What a field becomes, or the complaint about it, depends on the form
alone, so that two policies that take over the same form differ only in what is left of them.

* `PolicyForm.Gives`, `PolicyForm.Lacks`: the value that a form gives to a field, and the complaint about a field
  that gets none.
* `PolicyForm.fill`: the fields of a list one after another; `applyTo_eq_fill`: the form does this with all of its
  fields.
* `fill_of_readable`, `fill_of_fault`: the fields before the first fault have the values of the form, and
  `fill_get_of_not_mem`: all others are as they were. `fill_eq_none_iff`: when there is no fault.
* `PolicyForm.TakenOver`: what a form should leave of a policy.
* `forms_are_taken_over_up_to_a_fault`: so it does, and with the same complaint on every policy.
-/

namespace PolicyDesk

/-! ## Readers that trim -/

theorem Amount.read_trim (s : String) : Amount.read (Text.trim s) = Amount.read s := by
  rw [Amount.read, Amount.read, Text.toList_trim, Text.strip_strip]

theorem Date.read_trim (s : String) : Date.read (Text.trim s) = Date.read s := by
  rw [Date.read, Date.read, Text.toList_trim, Text.strip_strip]

/-! ## Policies, field by field -/

namespace Policy

/-- The policy with another value in a field. -/
def set (p : Policy) : (f : PolicyField) → f.Kind → Policy
  | .id, a => { p with id := a }
  | .number, a => { p with number := a }
  | .kind, a => { p with kind := a }
  | .premium, a => { p with premium := a }
  | .start, a => { p with start := a }
  | .finish, a => { p with finish := a }
  | .active, a => { p with active := a }
  | .customer, a => { p with customer := a }

@[simp]
theorem get_set_same (p : Policy) (f : PolicyField) (a : f.Kind) : (p.set f a).get f = a := by
  cases f <;> rfl

theorem get_set_ne (p : Policy) {f g : PolicyField} (a : f.Kind) (h : g ≠ f) : (p.set f a).get g = p.get g := by
  cases f <;> cases g <;> first | rfl | exact absurd rfl h

theorem eq_of_get {p q : Policy} (h : ∀ f, p.get f = q.get f) : p = q := by
  obtain ⟨id, number, kind, premium, start, finish, active, customer⟩ := p
  obtain ⟨id', number', kind', premium', start', finish', active', customer'⟩ := q
  rw [Policy.mk.injEq]
  exact ⟨h .id, h .number, h .kind, h .premium, h .start, h .finish, h .active, h .customer⟩

end Policy

namespace PolicyForm

open Text (isBlankText)

/-! ## What a form says about a field -/

/-- The value that the form gives to a field. The identifier is no field of the form. -/
def Gives (form : PolicyForm) : (f : PolicyField) → f.Kind → Prop
  | .id, _ => False
  | .number, s => s = Text.trim form.number
  | .kind, s => s = Text.trim form.kind
  | .premium, x => isBlankText form.premium = false ∧ Amount.read form.premium = .ok x
  | .start, day => isBlankText form.start = false ∧ Date.read form.start = .ok day
  | .finish, day => isBlankText form.finish = false ∧ Date.read form.finish = .ok day
  | .customer, n =>
    if isBlankText form.customer then n = 0
    else Text.IsUnsigned (UInt32.size - 1) (Text.strip form.customer.toList) n.toNat
  | .active, b => b = isTicked form.active

/-- The fields that have to be filled in, each with the text in its input and the reader of that text. -/
inductive Wants (form : PolicyForm) : (f : PolicyField) → String → (String → Except String f.Kind) → Prop
  | premium : Wants form .premium form.premium Amount.read
  | start : Wants form .start form.start Date.read
  | finish : Wants form .finish form.finish Date.read

/-- The complaint about a field that gets no value: it is blank though it has to be filled in, or its text is
    refused by its reader, or it is a customer that is neither blank nor a number of 32 bits. -/
inductive Lacks (form : PolicyForm) : PolicyField → ValidationError → Prop
  | missing {f : PolicyField} {raw : String} {read : String → Except String f.Kind} (wanted : form.Wants f raw read)
      (blank : isBlankText raw = true) : Lacks form f (.missing f)
  | refused {f : PolicyField} {raw : String} {read : String → Except String f.Kind} (wanted : form.Wants f raw read)
      (filled : isBlankText raw = false) {reason : String} (unread : read raw = .error reason) :
      Lacks form f (.invalid f reason)
  | customer (filled : isBlankText form.customer = false)
      (noNumber : ∀ n, ¬Text.IsUnsigned (UInt32.size - 1) (Text.strip form.customer.toList) n)
      {fault : Text.IntegerFault}
      (unread : Text.readUnsigned (UInt32.size - 1) (Text.strip form.customer.toList) = .error fault) :
      Lacks form .customer (.invalid .customer fault.message)

/-- How a field comes out: the value it gets, or the complaint. -/
def outcome (form : PolicyForm) : (f : PolicyField) → Except ValidationError f.Kind
  | .id => .error (.missing .id)
  | .number => .ok (Text.trim form.number)
  | .kind => .ok (Text.trim form.kind)
  | .premium => required .premium form.premium Amount.read
  | .start => required .start form.start Date.read
  | .finish => required .finish form.finish Date.read
  | .customer => readCustomer form.customer
  | .active => .ok (isTicked form.active)

variable {form : PolicyForm} {p : Policy} {f : PolicyField} {e : ValidationError} {fs before after : List PolicyField}

theorem required_eq_ok_iff {α : Type} {raw : String} {read : String → Except String α}
    (trimmed : read (Text.trim raw) = read raw) {a : α} :
    required f raw read = .ok a ↔ isBlankText raw = false ∧ read raw = .ok a := by
  rw [required, trimmed]
  cases isBlankText raw <;> cases read raw <;> simp [Except.mapError]

theorem required_eq_error_iff {α : Type} {raw : String} {read : String → Except String α}
    (trimmed : read (Text.trim raw) = read raw) :
    required f raw read = .error e ↔ isBlankText raw = true ∧ e = .missing f ∨
      isBlankText raw = false ∧ ∃ reason, read raw = .error reason ∧ e = .invalid f reason := by
  rw [required, trimmed]
  cases isBlankText raw <;> cases read raw <;> simp [Except.mapError, eq_comm]

theorem readCustomer_eq_ok_iff {raw : String} {n : UInt32} :
    readCustomer raw = .ok n ↔
      if isBlankText raw then n = 0
      else Text.IsUnsigned (UInt32.size - 1) (Text.strip raw.toList) n.toNat := by
  rw [readCustomer, Text.toList_trim]
  split
  · simp [eq_comm]
  · rw [← Text.readUnsigned_eq_ok_iff]
    cases read : Text.readUnsigned (UInt32.size - 1) (Text.strip raw.toList) with
    | error fault => simp
    | ok m =>
      have fits : m < UInt32.size := Nat.lt_of_le_sub_one (by decide) (Text.readUnsigned_eq_ok_iff.mp read).fits
      simp only [Except.ok.injEq]
      constructor
      · rintro rfl
        exact (UInt32.toNat_ofNat_of_lt' fits).symm
      · rintro rfl
        exact UInt32.ofNat_toNat

/-- A field has a value exactly if the form gives it one. -/
theorem outcome_eq_ok_iff {a : f.Kind} : form.outcome f = .ok a ↔ form.Gives f a := by
  cases f with
  | id => simp [outcome, Gives]
  | number | kind | active => simp [outcome, Gives, eq_comm]
  | premium => exact required_eq_ok_iff (Amount.read_trim _)
  | start | finish => exact required_eq_ok_iff (Date.read_trim _)
  | customer => exact readCustomer_eq_ok_iff

/-- The outcome of a field that has to be filled in is a complaint exactly if the form lacks it. -/
theorem required_lacks {raw : String} {read : String → Except String f.Kind} (wanted : form.Wants f raw read)
    (trimmed : read (Text.trim raw) = read raw) (h : required f raw read = .error e) : form.Lacks f e := by
  obtain ⟨blank, rfl⟩ | ⟨filled, reason, unread, rfl⟩ := (required_eq_error_iff trimmed).mp h
  · exact .missing wanted blank
  · exact .refused wanted filled unread

theorem lacks_of_outcome (field : f ≠ .id) (h : form.outcome f = .error e) : form.Lacks f e := by
  cases f with
  | id => exact absurd rfl field
  | number | kind | active => cases h
  | premium => exact required_lacks .premium (Amount.read_trim _) h
  | start => exact required_lacks .start (Date.read_trim _) h
  | finish => exact required_lacks .finish (Date.read_trim _) h
  | customer =>
    rw [outcome, readCustomer, Text.toList_trim] at h
    split at h
    · cases h
    · rename_i filled
      split at h
      · cases h
      · rename_i fault unread
        cases h
        refine .customer (by simpa using filled) (fun n number => ?_) unread
        rw [Text.readUnsigned_eq_ok_iff.mpr number] at unread
        cases unread

theorem outcome_of_lacks (h : form.Lacks f e) : form.outcome f = .error e := by
  cases h with
  | missing wanted blank =>
    cases wanted with
    | premium => exact (required_eq_error_iff (Amount.read_trim _)).mpr (.inl ⟨blank, rfl⟩)
    | start | finish => exact (required_eq_error_iff (Date.read_trim _)).mpr (.inl ⟨blank, rfl⟩)
  | refused wanted filled unread =>
    cases wanted with
    | premium => exact (required_eq_error_iff (Amount.read_trim _)).mpr (.inr ⟨filled, _, unread, rfl⟩)
    | start | finish => exact (required_eq_error_iff (Date.read_trim _)).mpr (.inr ⟨filled, _, unread, rfl⟩)
  | customer filled _ unread =>
    rw [outcome, readCustomer, Text.toList_trim, filled, unread]
    rfl

/-! ## Field after field -/

/-- Puts fields of the form into the policy one after another, up to the first that has no value. -/
def fill (form : PolicyForm) : List PolicyField → Policy → Policy × Option ValidationError
  | [], p => (p, none)
  | f :: fs, p =>
    match form.outcome f with
    | .error e => (p, some e)
    | .ok a => fill form fs (p.set f a)

/-- **The form does this with all of its fields.** -/
theorem applyTo_eq_fill (form : PolicyForm) (p : Policy) : form.applyTo p = form.fill formFields p := by
  simp only [applyTo, formFields, fill, outcome, Policy.set]
  cases required .premium form.premium Amount.read with
  | error e => rfl
  | ok premium =>
    cases required .start form.start Date.read with
    | error e => rfl
    | ok start =>
      cases required .finish form.finish Date.read with
      | error e => rfl
      | ok finish => cases readCustomer form.customer <;> rfl

theorem fill_cons_ok {a : f.Kind} (h : form.outcome f = .ok a) (fs : List PolicyField) (p : Policy) :
    form.fill (f :: fs) p = form.fill fs (p.set f a) := by
  rw [fill, h]

theorem fill_cons_error (h : form.outcome f = .error e) (fs : List PolicyField) (p : Policy) :
    form.fill (f :: fs) p = (p, some e) := by
  rw [fill, h]

/-- No other field changes. -/
theorem fill_get_of_not_mem (other : f ∉ fs) (p : Policy) : (form.fill fs p).1.get f = p.get f := by
  induction fs generalizing p with
  | nil => rfl
  | cons g fs ih =>
    obtain ⟨ne, other⟩ := not_or.mp (List.mem_cons.not.mp other)
    cases value : form.outcome g with
    | error e => rw [fill_cons_error value]
    | ok a => rw [fill_cons_ok value, ih other, p.get_set_ne a ne]

/-- Fields that all have a value get it. The induction is on the fields; a field that comes again gets the same value
    again. -/
theorem fill_of_readable (readable : ∀ f ∈ fs, ∃ a, form.outcome f = .ok a) (p : Policy) :
    (form.fill fs p).2 = none ∧ ∀ f ∈ fs, form.outcome f = .ok ((form.fill fs p).1.get f) := by
  induction fs generalizing p with
  | nil => exact ⟨rfl, fun _ mem => absurd mem List.not_mem_nil⟩
  | cons f fs ih =>
    obtain ⟨⟨a, value⟩, others⟩ := List.forall_mem_cons.mp readable
    obtain ⟨done, filled⟩ := ih others (p.set f a)
    rw [fill_cons_ok value]
    refine ⟨done, List.forall_mem_cons.mpr ⟨?own, filled⟩⟩
    case own =>
      by_cases again : f ∈ fs
      · exact filled f again
      · rw [fill_get_of_not_mem again, Policy.get_set_same, value]

/-- Behind the first fault nothing more is done. -/
theorem fill_of_fault (readable : ∀ g ∈ before, ∃ a, form.outcome g = .ok a) (fault : form.outcome f = .error e)
    (after : List PolicyField) (p : Policy) :
    form.fill (before ++ f :: after) p = ((form.fill before p).1, some e) := by
  induction before generalizing p with
  | nil => exact fill_cons_error fault after p
  | cons g before ih =>
    obtain ⟨⟨a, value⟩, others⟩ := List.forall_mem_cons.mp readable
    rw [List.cons_append, fill_cons_ok value, fill_cons_ok value, ih others]

/-- Either all fields have a value, or one of them is the first without. -/
theorem readable_or_fault (form : PolicyForm) (fs : List PolicyField) :
    (∀ f ∈ fs, ∃ a, form.outcome f = .ok a) ∨ ∃ before f after e, fs = before ++ f :: after ∧
      (∀ g ∈ before, ∃ a, form.outcome g = .ok a) ∧ form.outcome f = .error e := by
  induction fs with
  | nil => exact .inl fun _ mem => absurd mem List.not_mem_nil
  | cons f fs ih =>
    cases value : form.outcome f with
    | error e => exact .inr ⟨[], f, fs, e, rfl, fun _ mem => absurd mem List.not_mem_nil, value⟩
    | ok a =>
      obtain readable | ⟨before, g, after, e, rfl, readable, fault⟩ := ih
      · exact .inl (List.forall_mem_cons.mpr ⟨⟨a, value⟩, readable⟩)
      · exact .inr ⟨f :: before, g, after, e, rfl, List.forall_mem_cons.mpr ⟨⟨a, value⟩, readable⟩, fault⟩

/-- No complaint is made exactly if all fields have a value. -/
theorem fill_eq_none_iff (p : Policy) : (form.fill fs p).2 = none ↔ ∀ f ∈ fs, ∃ a, form.outcome f = .ok a := by
  refine ⟨fun done => ?_, fun readable => (fill_of_readable readable p).1⟩
  obtain readable | ⟨before, f, after, e, rfl, readable, fault⟩ := form.readable_or_fault fs
  · exact readable
  · rw [fill_of_fault readable fault] at done
    cases done

/-- The complaint does not depend on the policy. -/
theorem fill_error_eq (form : PolicyForm) (fs : List PolicyField) (p q : Policy) :
    (form.fill fs p).2 = (form.fill fs q).2 := by
  induction fs generalizing p q with
  | nil => rfl
  | cons f fs ih =>
    cases value : form.outcome f with
    | error e => rw [fill_cons_error value, fill_cons_error value]
    | ok a => rw [fill_cons_ok value, fill_cons_ok value, ih]

/-- **Filling in the same fields again changes nothing.** -/
theorem fill_fill (form : PolicyForm) (fs : List PolicyField) (p : Policy) :
    form.fill fs (form.fill fs p).1 = form.fill fs p := by
  have again : ∀ gs, (∀ g ∈ gs, ∃ a, form.outcome g = .ok a) →
      (form.fill gs (form.fill gs p).1).1 = (form.fill gs p).1 := by
    intro gs readable
    obtain ⟨-, once⟩ := fill_of_readable readable p
    obtain ⟨-, twice⟩ := fill_of_readable readable (form.fill gs p).1
    refine Policy.eq_of_get fun g => ?_
    by_cases mem : g ∈ gs
    · exact Except.ok.inj ((twice g mem).symm.trans (once g mem))
    · exact fill_get_of_not_mem mem _
  have same := form.fill_error_eq fs (form.fill fs p).1 p
  refine Prod.ext ?_ same
  obtain readable | ⟨before, f, after, e, rfl, readable, fault⟩ := form.readable_or_fault fs
  · exact again fs readable
  · rw [fill_of_fault readable fault, fill_of_fault readable fault]
    exact again before readable

/-! ## Whole forms -/

/-- The fields that a form may lack, in the order in which they are read. -/
def checked : List PolicyField := [.premium, .start, .finish, .customer]

/-- **What a form should leave of a policy.** The identifier stays. It fails if one of the checked fields is lacking,
    and then with the complaint about the first of these; number, type and the fields before it have the values of the
    form, and it, the fields behind it and the mark of activity are as they were. Without a fault all fields have the
    values of the form. -/
structure TakenOver (form : PolicyForm) (p : Policy) (left : Policy × Option ValidationError) : Prop where
  id : left.1.id = p.id
  fails : left.2 ≠ none ↔ ∃ f ∈ checked, ∃ e, form.Lacks f e
  whole : left.2 = none → ∀ f, f ≠ .id → form.Gives f (left.1.get f)
  upTo : ∀ before f after e, checked = before ++ f :: after → (∀ g ∈ before, ∀ e, ¬form.Lacks g e) →
    form.Lacks f e → left.2 = some e ∧
      (∀ g ∈ .number :: .kind :: before, form.Gives g (left.1.get g)) ∧
      ∀ g ∉ .number :: .kind :: before, left.1.get g = p.get g

theorem mem_formFields : f ∈ formFields ↔ f ≠ .id := by
  cases f <;> decide

theorem checked_subset : checked ⊆ formFields := by
  decide

/-- The other fields of the form always have a value. -/
theorem readable_of_unchecked (form : PolicyForm) (free : f ∉ checked) (field : f ≠ .id) :
    ∃ a, form.outcome f = .ok a := by
  cases f with
  | id => exact absurd rfl field
  | number | kind | active => exact ⟨_, rfl⟩
  | premium | start | finish | customer => exact absurd (by decide) free

theorem readable_of_not_lacks (field : f ≠ .id) (h : ∀ e, ¬form.Lacks f e) : ∃ a, form.outcome f = .ok a := by
  cases value : form.outcome f with
  | error e => exact absurd (lacks_of_outcome field value) (h e)
  | ok a => exact ⟨a, rfl⟩

/-- Every form is taken over so. -/
theorem applyTo_takenOver (form : PolicyForm) (p : Policy) : form.TakenOver p (form.applyTo p) := by
  rw [applyTo_eq_fill]
  refine ⟨?id, ?fails, ?whole, ?upTo⟩
  case id => exact fill_get_of_not_mem (f := .id) (by decide) p
  case fails =>
    rw [ne_eq, fill_eq_none_iff]
    constructor
    · intro failed
      by_contra free
      refine failed fun f mem => ?_
      by_cases asked : f ∈ checked
      · exact readable_of_not_lacks (mem_formFields.mp mem) fun e lacks => free ⟨f, asked, e, lacks⟩
      · exact readable_of_unchecked form asked (mem_formFields.mp mem)
    · rintro ⟨f, mem, e, lacks⟩ readable
      obtain ⟨a, value⟩ := readable f (checked_subset mem)
      rw [outcome_of_lacks lacks] at value
      cases value
  case whole =>
    intro done f field
    have readable := (fill_eq_none_iff p).mp done
    exact outcome_eq_ok_iff.mp ((fill_of_readable readable p).2 f (mem_formFields.mpr field))
  case upTo =>
    intro before f after e split given lacks
    have order : formFields = .number :: .kind :: before ++ f :: (after ++ [.active]) := by
      have fields : formFields = .number :: .kind :: (checked ++ [.active]) := rfl
      rw [fields, split]
      simp
    have readable : ∀ g ∈ .number :: .kind :: before, ∃ a, form.outcome g = .ok a := by
      refine List.forall_mem_cons.mpr ⟨⟨_, rfl⟩, List.forall_mem_cons.mpr ⟨⟨_, rfl⟩, fun g mem => ?_⟩⟩
      refine readable_of_not_lacks (mem_formFields.mp (checked_subset ?_)) (given g mem)
      rw [split]
      exact List.mem_append_left _ mem
    obtain ⟨-, filled⟩ := fill_of_readable readable p
    rw [order, fill_of_fault readable (outcome_of_lacks lacks)]
    exact ⟨rfl, fun g mem => outcome_eq_ok_iff.mp (filled g mem), fun g other => fill_get_of_not_mem other p⟩

/-- **A form is taken over up to its first fault, and the policy has no say in it.** Whatever the texts of the form
    and whatever the policies: each is left as it should be; both fail with the same complaint or not at all; if they
    do not, they have become the same but for their identifiers; and taking the form over again changes nothing. -/
theorem forms_are_taken_over_up_to_a_fault (form : PolicyForm) (p q : Policy) :
    form.TakenOver p (form.applyTo p) ∧ (form.applyTo p).2 = (form.applyTo q).2 ∧
      ((form.applyTo p).2 = none → ∀ f, f ≠ .id → (form.applyTo p).1.get f = (form.applyTo q).1.get f) ∧
      form.applyTo (form.applyTo p).1 = form.applyTo p := by
  have same : (form.applyTo p).2 = (form.applyTo q).2 := by
    rw [applyTo_eq_fill, applyTo_eq_fill, fill_error_eq]
  refine ⟨applyTo_takenOver form p, same, fun done f field => ?alike, ?again⟩
  case alike =>
    have left := outcome_eq_ok_iff.mpr ((applyTo_takenOver form p).whole done f field)
    have right := outcome_eq_ok_iff.mpr ((applyTo_takenOver form q).whole (same ▸ done) f field)
    exact Except.ok.inj (left.symm.trans right)
  case again => rw [applyTo_eq_fill, applyTo_eq_fill, fill_fill]

/-- A blank draft and a stored policy become the same but for their identifiers. -/
theorem filled_form_is_taken_over_alike :
    let form : PolicyForm := ⟨" P-1 ", "Auto", "1e2", "2024-02-29", "2024-12-31T23:59:59Z", " ", some "on"⟩
    let stored : Policy := ⟨7, "P-7", "Home", .zero, .epoch, .epoch, false, 5⟩
    (form.applyTo (.draft .epoch)).2 = none ∧
      (∀ f, f ≠ .id → (form.applyTo (.draft .epoch)).1.get f = (form.applyTo stored).1.get f) ∧
      (form.applyTo stored).1.id = 7 := by
  intro form stored
  have done : (form.applyTo (.draft .epoch)).2 = none := by decide +kernel
  have alike := (forms_are_taken_over_up_to_a_fault form (.draft .epoch) stored).2.2.1 done
  exact ⟨done, alike, (forms_are_taken_over_up_to_a_fault form stored stored).1.id⟩

/-- A form whose last date cannot be read: the fields before it have new values, and those behind it have not. -/
example :
    (⟨"P-1", "Auto", "0", " 2024-02-29 ", "soon", "many", some "on"⟩ : PolicyForm).applyTo (.draft .epoch) =
      ({ Policy.draft .epoch with number := "P-1", kind := "Auto", start := ⟨2024, 2, 29, by decide⟩ },
        some (.invalid .finish "invalid date 'soon': expected YYYY-MM-DD")) := by
  decide +kernel

end PolicyForm

end PolicyDesk
