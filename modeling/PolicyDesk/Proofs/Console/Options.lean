import PolicyDesk.Form.Basic
import PolicyDesk.Proofs.CommandLine.Scanning
import PolicyDesk.Proofs.Console.Sending

/-!
# Policies on a command line

* `options`: the options of a command for the texts of a form; `Fields.ReadFrom`: the fields that are read
  from them.
* `words`: a command line with a base address, if one is given, and a command; `address`: the base address that
  counts.
* `scan_options`: options that are scanned leave the fields that are read from them in the draft.
* `read_create`, `read_update`, `read_command`: what comes of a command, and of a command line with one.
* `sent_create`, `sent_update`: what is sent for a new policy and for a stored one.
-/

namespace PolicyDesk.Console

open CommandLine

/-- The options of a command for the texts of a form. -/
def options (form : PolicyForm) : List String :=
  [attached "number" form.number, attached "type" form.kind, attached "premium" form.premium,
    attached "start" form.start, attached "end" form.finish, attached "customer" form.customer] ++
    if PolicyForm.isTicked form.active then ["--active"] else []

/-- The fields are read from the texts of a form, as a command line reads them. -/
structure Fields.ReadFrom (f : Fields) (form : PolicyForm) : Prop where
  number : f.number = form.number
  kind : f.kind = form.kind
  premium : Amount.read form.premium = .ok f.premium
  start : Date.read form.start = .ok f.start
  finish : Date.read form.finish = .ok f.finish
  customer : ∃ n, readRanged (UInt32.size - 1) form.customer = .ok n ∧ f.customer = UInt32.ofNat n
  active : f.active = PolicyForm.isTicked form.active

/-- The grammar of the commands that take a policy. -/
abbrev policyGrammar (places : List (Arg Draft)) : Grammar Draft := ⟨fields ++ common, places⟩

/-- A command line with a base address, if one is given, and a command with its words. -/
def words (given : Option String) (name : String) (rest : List String) : List String :=
  given.toList.map (attached "base-url") ++ name :: rest

/-- The base address that counts: the one on the command line, or that of the environment, or the default. -/
def address (env : Environment) (given : Option String) : String :=
  (given.or (env ServiceConfig.addressSetting)).getD ServiceConfig.defaultAddress

/-- The draft with all fields of a policy. -/
def Draft.filled (d : Draft) (f : Fields) : Draft :=
  { d with
    number := some f.number, kind := some f.kind, premium := some f.premium, start := some f.start,
    finish := some f.finish, active := f.active, customer := some f.customer }

variable {env : Environment} {form : PolicyForm} {given : Option String} {collection : Url} {delivery : Delivery}
  {r : Request}
  {line : List String}

/-! ## Options -/

section

variable {α : Type} {places : List (Arg Draft)} {a : Arg Draft} {value : String} {rest : List String}
  {after : Scan Draft × Option (String × List String)} {negative : Bool} {read : String → Except String α}
  {put : Draft → α → Draft}

/-- A value of an option was read and put into the draft. -/
theorem scan_field {s : Scan Draft} (name : String) (plain : '=' ∉ name.toList)
    (found : (fields ++ common).find? (·.long == some name) = some a)
    (takes : a.takes = .value negative (reading read put))
    (h : (policyGrammar places).scan [] s (attached name value :: rest) = .ok after)
    (values : s.onlyValues = false) :
    ∃ d x, s.resolve = .ok d ∧ read value = .ok x ∧
      (policyGrammar places).scan [] ⟨put d x, none, s.places, false⟩ rest = .ok after := by
  obtain ⟨d, d', resolved, -, filled, h⟩ := scan_attached values rfl plain found takes h
  obtain ⟨x, done, rfl⟩ := map_eq_ok filled
  rw [values] at h
  exact ⟨d, x, resolved, done, h⟩

/-- The same if nothing is pending. -/
theorem scan_next {d : Draft} {left : List (Arg Draft)} (name : String)
    (plain : '=' ∉ name.toList)
    (found : (fields ++ common).find? (·.long == some name) = some a)
    (takes : a.takes = .value negative (reading read put))
    (h : (policyGrammar places).scan [] ⟨d, none, left, false⟩ (attached name value :: rest) =
      .ok after) :
    ∃ x, read value = .ok x ∧
      (policyGrammar places).scan [] ⟨put d x, none, left, false⟩ rest = .ok after := by
  obtain ⟨_, x, same, done, h⟩ := scan_field name plain found takes h rfl
  obtain rfl := Except.ok.inj same
  exact ⟨x, done, h⟩

/-- **Options that are scanned** leave the fields that are read from them in the draft. -/
theorem scan_options {s : Scan Draft} (values : s.onlyValues = false)
    (plain : ∀ d, s.resolve = .ok d → d.active = false)
    (h : (policyGrammar places).scan [] s (options form) = .ok after) :
    ∃ d f, s.resolve = .ok d ∧ f.ReadFrom form ∧ after = (⟨d.filled f, none, s.places, false⟩, none) := by
  simp only [options, List.cons_append, List.nil_append] at h
  obtain ⟨d, number, resolved, numbered, h⟩ := scan_field "number" (by decide) rfl rfl h values
  obtain ⟨kind, kinded, h⟩ := scan_next "type" (by decide) rfl rfl h
  obtain ⟨premium, priced, h⟩ := scan_next "premium" (by decide) rfl rfl h
  obtain ⟨start, started, h⟩ := scan_next "start" (by decide) rfl rfl h
  obtain ⟨finish, finished, h⟩ := scan_next "end" (by decide) rfl rfl h
  obtain ⟨customer, ranged, h⟩ := scan_next "customer" (by decide) rfl rfl h
  cases numbered
  cases kinded
  refine ⟨d, ⟨form.number, form.kind, premium, start, finish, PolicyForm.isTicked form.active, UInt32.ofNat customer⟩,
    resolved, ⟨rfl, rfl, priced, started, finished, ⟨customer, ranged, rfl⟩, rfl⟩, ?_⟩
  cases ticked : PolicyForm.isTicked form.active with
  | false =>
    rw [ticked] at h
    cases h
    rw [Draft.filled, ← plain d resolved]
  | true =>
    have names : Token.ofWord "--active" = .long "active" none := by decide
    rw [ticked] at h
    obtain ⟨_, same, h⟩ := scan_flag rfl rfl names rfl rfl h
    obtain rfl := Except.ok.inj same
    cases h
    rfl

end

/-! ## The environment -/

/-- The environment gives settings of the service only; among them the base address, if there is none yet. -/
theorem addSettings_common {more : List (Arg Draft)} {d after : Draft} (quiet : ∀ a ∈ more, a.setting = none)
    (h : addSettings env (common ++ more) d = .ok after) :
    ∃ timeout, after = { d with
      service := ⟨d.service.base.or ((env ServiceConfig.addressSetting).map (Source.setting, ·)), timeout⟩ } := by
  obtain ⟨e, h, based⟩ := addSettings_cons h
  have service : e = { d with service := { d.service with
      base := d.service.base.or ((env ServiceConfig.addressSetting).map (Source.setting, ·)) } } := by
    obtain ⟨rfl, missing | set⟩ | ⟨value, given, fresh, filled⟩ := based
    · have none : env ServiceConfig.addressSetting = none := missing
      rw [none, Option.map_none, Option.or_none]
    · obtain ⟨base, given⟩ := Option.isSome_iff_exists.mp set
      rw [given, Option.some_or, ← given]
    · have given : env ServiceConfig.addressSetting = some value := given
      have fresh : d.service.base.isSome = false := fresh
      have none : d.service.base = none := Option.not_isSome_iff_eq_none.mp (by simp [fresh])
      cases filled
      rw [given, none]
      rfl
  obtain ⟨e', h, timed⟩ := addSettings_cons h
  have later : ∃ timeout, e' = { e with service := { e.service with timeout } } := by
    obtain ⟨rfl, -⟩ | ⟨value, given, fresh, filled⟩ := timed
    · exact ⟨e'.service.timeout, rfl⟩
    · cases read : readWord64 value with
      | error reason =>
        simp only [Arg.put, Arg.option, read] at filled
        cases filled
      | ok n =>
        simp only [Arg.put, Arg.option, read] at filled
        cases filled
        exact ⟨_, rfl⟩
  -- help is the last of them, and the environment cannot ask for it
  have last : addSettings env ((Arg.help :: more) ++ []) e' = .ok e' :=
    addSettings_of_no_setting (List.forall_mem_cons.mpr ⟨rfl, quiet⟩) e'
  rw [List.append_nil] at last
  obtain rfl := Except.ok.inj (last.symm.trans h)
  obtain ⟨timeout, rfl⟩ := later
  exact ⟨timeout, by rw [service]⟩

/-! ## Command lines -/

/-- A command with the options of a policy behind other words was read: what was pending after these words was
    resolved, and the fields were read from the options. -/
theorem read_filled {places : List (Arg Draft)} {lead : List String} {s : Scan Draft} {inner : Draft}
    (values : s.onlyValues = false) (plain : ∀ d, s.resolve = .ok d → d.active = false)
    (led : ∀ after, (policyGrammar places).scan [] ((policyGrammar places).begin .blank)
      (lead ++ options form) = .ok after →
        (policyGrammar places).scan [] s (options form) = .ok after)
    (h : (policyGrammar places).read env .blank (lead ++ options form) = .ok inner) :
    inner.fields.ReadFrom form ∧ ∃ d, s.resolve = .ok d ∧ inner.id = d.id ∧
      inner.service.base = d.service.base.or ((env ServiceConfig.addressSetting).map (Source.setting, ·)) := by
  obtain ⟨scanned, command, words, settled⟩ := read_inv h
  obtain ⟨d, f, resolved, read, same⟩ := scan_options values plain (led _ words)
  cases same
  have unset : ∀ a ∈ fields, a.setting = none := by simp [fields, field, premium, Arg.option, Arg.flag]
  have given : addSettings env (common ++ []) (d.filled f) = .ok inner := by
    rw [List.append_nil, ← addSettings_of_no_setting unset]
    exact settled
  obtain ⟨timeout, rfl⟩ := addSettings_common (fun _ mem => by cases mem) given
  exact ⟨read, d, resolved, rfl, rfl⟩

/-- The options of a new policy were read. -/
theorem read_create {inner : Draft} (h : (policyGrammar []).read env .blank (options form) = .ok inner) :
    inner.fields.ReadFrom form ∧
      inner.service.base = (env ServiceConfig.addressSetting).map (Source.setting, ·) := by
  have begun : Scan.resolve ((policyGrammar []).begin .blank) = .ok Draft.blank := rfl
  have plain : ∀ d, Scan.resolve ((policyGrammar []).begin .blank) = .ok d → d.active = false := by
    intro d same
    cases begun.symm.trans same
    rfl
  rw [← List.nil_append (options form)] at h
  obtain ⟨reads, d, resolved, -, base⟩ := read_filled rfl plain (fun _ scanned => scanned) h
  cases begun.symm.trans resolved
  exact ⟨reads, base⟩

/-- An identifier and the options of a policy were read. -/
theorem read_update {word : String} {id : UInt64} {inner : Draft} (plain : word.toList.head? ≠ some '-')
    (named : readWord64 word = .ok id)
    (h : (policyGrammar [Console.id]).read env .blank (word :: options form) = .ok inner) :
    inner.fields.ReadFrom form ∧ inner.id = some id ∧
      inner.service.base = (env ServiceConfig.addressSetting).map (Source.setting, ·) := by
  let placed : Scan Draft := ⟨.blank, some (Console.id, some word), [], false⟩
  have resolves : placed.resolve = .ok { Draft.blank with id := some id } := by
    have put : Console.id.put .line word .blank = ((readWord64 word).map fun n =>
      { Draft.blank with id := some n }).mapError (.badValue word Console.id.label) := rfl
    rw [named] at put
    exact put
  have noFlag : ∀ d, placed.resolve = .ok d → d.active = false := by
    intro d same
    cases resolves.symm.trans same
    rfl
  have led : ∀ after, (policyGrammar [Console.id]).scan []
      ((policyGrammar [Console.id]).begin .blank) ([word] ++ options form) = .ok after →
        (policyGrammar [Console.id]).scan [] placed (options form) = .ok after :=
    fun after scanned => scan_place rfl rfl plain rfl scanned
  obtain ⟨reads, d, resolved, same, base⟩ := read_filled rfl noFlag led h
  cases resolves.symm.trans resolved
  exact ⟨reads, same, base⟩

/-- A command line with a command was read: the command read its words, and the base address in front of it or
    that of the environment was taken. -/
theorem read_command {name found : String} {rest : List String} {outer inner : Draft}
    (known : program.names.contains name = true)
    (h : program.read env .blank (words given name rest) = .ok (outer, found, inner)) :
    found = name ∧ (∃ g, program.commands.lookup name = some g ∧ g.read env .blank rest = .ok inner) ∧
      outer.service.base =
        (given.map (Source.line, ·)).or ((env ServiceConfig.addressSetting).map (Source.setting, ·)) := by
  have quiet : ∀ a ∈ ([Arg.ending "version" 'V' .version] : List (Arg Draft)), a.setting = none := by
    simp [Arg.ending]
  have noOption : ∀ c ∈ program.names, c.toList.head? ≠ some '-' := by decide
  -- the words in front of the command leave the base address, if it is there
  have led : ∀ after, program.grammar.scan program.names (program.grammar.begin .blank) (words given name rest) =
      .ok after → after = (⟨{ Draft.blank with service := ⟨given.map (Source.line, ·), none⟩ }, none, [], false⟩,
        some (name, rest)) := by
    intro after scanned
    cases given with
    | none =>
      have begun : program.grammar.begin .blank = (⟨.blank, none, [], false⟩ : Scan Draft) := rfl
      rw [begun, words, Option.toList_none, List.map_nil, List.nil_append, scan_command rfl rfl known] at scanned
      exact (Except.ok.inj scanned).symm
    | some base =>
      rw [words, Option.toList_some, List.map_cons, List.map_nil, List.cons_append, List.nil_append] at scanned
      obtain ⟨_, _, same, -, filled, scanned⟩ :=
        scan_attached rfl (contains_attached noOption) (by decide) rfl rfl scanned
      cases same
      cases filled
      rw [scan_command rfl rfl known] at scanned
      exact (Except.ok.inj scanned).symm
  rw [Program.read] at h
  obtain ⟨⟨s, command⟩, scanned, h⟩ := bind_eq_ok h
  cases led _ scanned
  simp only at h
  split at h
  · rename_i g looked
    obtain ⟨inner', read, h⟩ := bind_eq_ok h
    obtain ⟨outer', settled, h⟩ := bind_eq_ok h
    cases h
    obtain ⟨timeout, filled⟩ := addSettings_common quiet settled
    exact ⟨rfl, ⟨g, looked, read⟩, by rw [filled]⟩
  · cases h

/-! ## What is sent -/

variable [InternationalNames]

theorem sent_inv (h : r ∈ sent env line delivery) :
    ∃ service command url, Invocation.read env line = .ok ⟨service, command⟩ ∧ service.collection = .ok url ∧
      r ∈ command.perform.requests url delivery := by
  unfold sent start at h
  split at h
  · cases h
  · rename_i url command started
    split at started
    · cases started
    · cases started
    · rename_i service _ _ read
      split at started
      · cases started
      · rename_i located
        cases started
        exact ⟨service, command, url, read, located, h⟩

/-- The time to wait does not matter for where the policies are. -/
theorem collection_eq (c : ServiceConfig) : c.collection = (ServiceConfig.ofAddress c.base).collection := by
  simp only [ServiceConfig.collection, ServiceConfig.trimmedBase, ServiceConfig.ofAddress]

omit [InternationalNames] in
/-- What the environment gives behind a command does not hide what is given in front of it. -/
theorem within_base {inner outer : ServiceDraft}
    (behind : inner.base = (env ServiceConfig.addressSetting).map (Source.setting, ·))
    (front : outer.base =
      (given.map (Source.line, ·)).or ((env ServiceConfig.addressSetting).map (Source.setting, ·))) :
    (inner.within outer).config.base = address env given := by
  simp only [ServiceDraft.config, ServiceDraft.within, behind, front, address]
  cases given <;> cases env ServiceConfig.addressSetting <;> rfl

/-- What a command sends goes to the base address that counts. -/
theorem sent_words {name : String} {rest : List String} {g : Grammar Draft}
    (known : program.names.contains name = true) (looked : program.commands.lookup name = some g)
    (behind : ∀ inner, g.read env .blank rest = .ok inner →
      inner.service.base = (env ServiceConfig.addressSetting).map (Source.setting, ·))
    (located : (ServiceConfig.ofAddress (address env given)).collection = .ok collection)
    (h : r ∈ sent env (words given name rest) delivery) :
    ∃ inner, g.read env .blank rest = .ok inner ∧
      r ∈ (Command.ofDraft name inner).perform.requests collection delivery := by
  obtain ⟨service, command, url, read, collected, h⟩ := sent_inv h
  obtain ⟨⟨outer, found, inner⟩, done, same⟩ := map_eq_ok read
  obtain ⟨rfl, ⟨g', looked', inside⟩, outside⟩ := read_command known done
  obtain rfl := Option.some.inj (looked.symm.trans looked')
  obtain ⟨rfl, rfl⟩ := Invocation.mk.inj same
  rw [collection_eq, within_base (behind inner inside) outside, located] at collected
  obtain rfl := Except.ok.inj collected
  exact ⟨inner, inside, h⟩

/-- **The command for a new policy** sends the fields that are read from its options. -/
theorem sent_create (located : (ServiceConfig.ofAddress (address env given)).collection = .ok collection)
    (h : r ∈ sent env (words given "create" (options form)) delivery) :
    ∃ f : Fields, f.ReadFrom form ∧ r ∈ (Command.create f).perform.requests collection delivery := by
  obtain ⟨inner, read, h⟩ := sent_words rfl rfl (fun inner read => (read_create read).2) located h
  exact ⟨inner.fields, (read_create read).1, h⟩

/-- **The command for a stored policy** sends the fields that are read from its options, for the identifier that is
    named. -/
theorem sent_update {word : String} {id : UInt64} (plain : word.toList.head? ≠ some '-')
    (named : readWord64 word = .ok id)
    (located : (ServiceConfig.ofAddress (address env given)).collection = .ok collection)
    (h : r ∈ sent env (words given "update" (word :: options form)) delivery) :
    ∃ f : Fields, f.ReadFrom form ∧ r ∈ (Command.update id f).perform.requests collection delivery := by
  obtain ⟨inner, read, h⟩ := sent_words rfl rfl (fun inner read => (read_update plain named read).2.2) located h
  obtain ⟨reads, same, -⟩ := read_update plain named read
  have command : Command.ofDraft "update" inner = .update id inner.fields := by
    rw [Command.ofDraft, same]
    rfl
  rw [command] at h
  exact ⟨inner.fields, reads, h⟩

end PolicyDesk.Console
