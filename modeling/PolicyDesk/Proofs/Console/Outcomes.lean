import PolicyDesk.Proofs.Console.Sending
import PolicyDesk.Proofs.Json.Printing
import PolicyDesk.Proofs.Policy.Roundtrip
import PolicyDesk.Proofs.Service.Outcomes
import PolicyDesk.Proofs.Text.Utf8

/-!
# How the console ends

What a command line is answered with, what it prints and what it sends.

* `Policy.data`: what the document of a policy says, on one line or on several.
* `Call.wire?`: an answer on one line, if policies are in it.
* `Call.Ready`, `Call.Yields`: a call may be made, and what comes of it if it is.
* `Command.call?`, `Command.printsJson`: what a command asks the service, and whether it prints what is answered.
* `Command.perform_of_ready`, `Command.perform_of_not_ready`: the ways in which a command goes.
* `Plain`: the libraries find nothing to print.
* `run_of_crash`, `run_of_ended`, `run_of_started`: the ways in which a command line goes.
* `Fails`, `Reports`: what an outcome tells of a call; `reports_printed`, `reports_failed`.
* `Ends`: all that is promised of a command; `command_lines_end_consistently`.
-/

namespace PolicyDesk

open Json (Data Denotes SameValue Part)

/-! ## What policies say -/

namespace Policy

/-- What the document says. -/
def data (p : Policy) : Data := .object (p.parts.map Part.data)

theorem document_denotes (p : Policy) : Denotes p.document.toList p.data := by
  rw [document, String.toList_ofList, members_eq_parts]
  exact Json.compact_denotes p.parts

theorem indented_denotes (p : Policy) : Denotes p.indented.toList p.data := by
  rw [indented, String.toList_ofList, members_eq_parts]
  exact Json.indented_denotes 0 p.parts

theorem members_list (ps : List Policy) : ps.map members = (ps.map parts).map (·.map Part.member) := by
  rw [List.map_map]
  exact List.map_congr_left fun p _ => p.members_eq_parts

theorem compactList_denotes (ps : List Policy) :
    Denotes (Json.compactList (ps.map members)) (.list (ps.map data)) := by
  have said := Json.compactList_denotes (ps.map parts)
  rwa [← members_list, List.map_map] at said

theorem indentedList_denotes (ps : List Policy) : Denotes (indentedList ps).toList (.list (ps.map data)) := by
  have said := Json.indentedList_denotes (ps.map parts)
  rw [← members_list, List.map_map] at said
  rwa [indentedList, String.toList_ofList]

end Policy

/-! ## What is answered -/

namespace Call

/-- The answer as the service would send it, on one line; nothing if there is no policy in it. -/
def wire? : (c : Call) → c.Answer → Option (List Char)
  | list, ps => some (Json.compactList (ps.map Policy.members))
  | get _, p => some p.document.toList
  | create _, p => some p.document.toList
  | update _ _, p => some p.document.toList
  | delete _, _ => none

/-- The policy that is sent, if there is one, passes its check. -/
def Ready (c : Call) : Prop := ∀ p, c.policy? = some p → p.check = .ok ()

/-- The base address names a service, the policy that is sent passes its check, and the call has the result. -/
def Yields [InternationalNames] (c : Call) (service : ServiceConfig) (d : Delivery)
    (result : Except ServiceError c.Answer) : Prop :=
  ∃ collection, service.collection = .ok collection ∧ c.Ready ∧ c.result collection d = result

theorem Yields.unique [InternationalNames] {c : Call} {service : ServiceConfig} {d : Delivery}
    {x y : Except ServiceError c.Answer} (hx : c.Yields service d x) (hy : c.Yields service d y) : x = y := by
  obtain ⟨collection, located, -, rfl⟩ := hx
  obtain ⟨collection', same, -, rfl⟩ := hy
  rw [Except.ok.inj (located.symm.trans same)]

/-- A record that is asked for and whose document is replied is answered as the document is read. -/
theorem result_get_document {collection : Url} {id : UInt64} (r : Reply) (p : Policy)
    (sendable : ((Call.get id).url collection).anonymous.isSendable = true) (status : r.status = 200)
    (complete : r.complete = true) (body : r.body = Text.utf8 p.document.toList) :
    (Call.get id).result collection (.reply r) = .ok p.reread := by
  have decoded : Decodes Policy.parse r ((Call.get id).ofReply r) :=
    (ofReply_answered (.get id) r).accepted (by rw [status]; decide)
  have whole : ¬r.BreaksOff := by
    rintro ⟨-, off⟩
    rw [complete] at off
    cases off
  have bytes : r.bytes = Text.utf8 p.document.toList := by
    rw [Reply.bytes, status, body, if_neg (by decide)]
  have parsed : Policy.parse (Glyph.ofBytes r.bytes) = .ok p.reread := by
    rw [bytes, Glyph.ofBytes_utf8]
    exact p.parse_document
  rw [← run_alone, run_of_sendable sendable]
  exact decoded.value whole _ parsed

end Call

theorem CommandLine.Ending.exit_of_halt {halt : Halt} (help : halt ≠ .help) (version : halt ≠ .version)
    (about release before : String) (around : Surroundings) (env : Environment) :
    ((Ending.halted halt).outcome about release before around env).exit = 2 := by
  cases halt with
  | help => exact absurd rfl help
  | version => exact absurd rfl version
  | _ => rfl

namespace Console

open CommandLine

/-- What a command asks the service. -/
def Command.call? : Command → Option Call
  | list _ => some .list
  | get id _ => some (.get id)
  | create f => some (.create (f.policy 0))
  | update id f => some (.update id (f.policy id))
  | delete id => some (.delete id)
  | version => none

/-- Whether a command prints the answer as a JSON text. -/
def Command.printsJson : Command → Bool
  | list json => json
  | get _ json => json
  | create _ => true
  | update _ _ => true
  | delete _ => false
  | version => false

/-- The text is the answer in JSON. -/
def Shows (c : Call) (a : c.Answer) (text : String) : Prop :=
  ∃ wire, c.wire? a = some wire ∧ SameValue text.toList wire

/-! ## Commands -/

variable {command : Command} {c : Call} {collection : Url} {d : Delivery}

/-- A policy goes through its check before it is sent; other calls are made at once. -/
theorem Command.perform_eq (asks : command.call? = some c) :
    ∃ text : c.Answer → String,
      (command.perform = match c.policy? with
        | none => asking c text
        | some p => sending c p text) ∧
      (command.printsJson = true → ∀ a, Shows c a (text a ++ "\n")) := by
  have one : ∀ p : Policy, SameValue (p.indented ++ "\n").toList p.document.toList := by
    intro p
    rw [String.toList_append]
    exact p.indented_denotes.line.sameValue p.document_denotes
  cases command with
  | list json =>
    cases asks
    refine ⟨_, rfl, ?_⟩
    rintro rfl ps
    refine ⟨_, rfl, ?_⟩
    rw [if_pos rfl, String.toList_append]
    exact (Policy.indentedList_denotes ps).line.sameValue (Policy.compactList_denotes ps)
  | get id json =>
    cases asks
    refine ⟨_, rfl, ?_⟩
    rintro rfl p
    exact ⟨_, rfl, one p⟩
  | create f =>
    cases asks
    refine ⟨fun (p : Policy) => p.indented, rfl, ?_⟩
    exact fun _ p => ⟨_, rfl, one p⟩
  | update id f =>
    cases asks
    refine ⟨fun (p : Policy) => p.indented, rfl, ?_⟩
    exact fun _ p => ⟨_, rfl, one p⟩
  | delete id =>
    cases asks
    exact ⟨_, rfl, nofun⟩
  | version => cases asks

/-- A call whose policy does not pass its check is not made. -/
theorem Command.perform_of_not_ready (asks : command.call? = some c) (unready : ¬c.Ready) :
    ∃ cause, command.perform = .done (.failed "Refusing to send incomplete policy" (some cause)) := by
  obtain ⟨text, plan, -⟩ := perform_eq asks
  cases carried : c.policy? with
  | none => exact absurd (fun p sent => by rw [carried] at sent; cases sent) unready
  | some p =>
    rw [carried] at plan
    cases checked : p.check with
    | ok _ => exact absurd (fun q sent => by rw [carried] at sent; cases sent; exact checked) unready
    | error e => exact ⟨e.message, by simp only [plan, sending, checked]⟩

/-- A call that is ready is made, and its answer is printed. -/
theorem Command.perform_of_ready (asks : command.call? = some c) (ready : c.Ready) :
    ∃ text : c.Answer → String, command.perform = asking c text ∧
      (command.printsJson = true → ∀ a, Shows c a (text a ++ "\n")) := by
  obtain ⟨text, plan, shows⟩ := perform_eq asks
  refine ⟨text, ?_, shows⟩
  cases carried : c.policy? with
  | none =>
    rw [carried] at plan
    exact plan
  | some p =>
    rw [carried] at plan
    simp only [plan, sending, ready p carried]

/-! ## What the libraries print -/

variable {around : Surroundings} {env : Environment}

/-- The libraries find nothing to print: the log filter can read its directives, and no stack is asked for. -/
structure Plain (around : Surroundings) (env : Environment) : Prop where
  directives : ∀ directive ∈ directives env, around.complaint? directive = none
  stack : asksForStack env = false

theorem Plain.complaints_eq (h : Plain around env) : around.complaints env = "" := by
  have none : (CommandLine.directives env).filterMap (fun directive => (around.complaint? directive).map fun reason =>
      "ignoring \x60" ++ directive ++ "\x60: " ++ reason ++ "\n") = [] := by
    rw [List.filterMap_eq_nil_iff]
    intro directive mem
    rw [h.directives directive mem, Option.map_none]
  rw [Surroundings.complaints, none]
  rfl

theorem Plain.stackText_eq (h : Plain around env) : around.stackText env = "" := by
  rw [Surroundings.stackText, h.stack]
  rfl

/-! ## Command lines -/

variable [InternationalNames] {words : List String} {service : ServiceConfig}

theorem run_of_crash {text : String} (crashes : around.crash? env = some text) (words : List String) (d : Delivery) :
    run around env words d = (.crashed text, []) := by
  rw [run, crashes]

/-- A command line that ends before its command asks nothing. -/
theorem run_of_ended {ending : Ending} (starts : around.crash? env = none)
    (ended : start env words = .error ending) (d : Delivery) :
    sent env words d = [] ∧ run around env words d = (outcome around env ending, []) := by
  rw [sent, run, starts, ended]
  exact ⟨rfl, rfl⟩

/-- Without an address nothing is asked. -/
theorem start_of_unlocated {fault : ConfigFault} (read : Invocation.read env words = .ok ⟨service, command⟩)
    (asks : command.call? = some c) (unlocated : service.collection = .error fault) :
    start env words = .error (.failed "Failed to create policy API client" (some fault.message)) := by
  unfold start
  rw [read]
  cases command with
  | version => cases asks
  | _ => simp only [unlocated]

theorem start_of_located (read : Invocation.read env words = .ok ⟨service, command⟩) (asks : command.call? = some c)
    (located : service.collection = .ok collection) : start env words = .ok (collection, command) := by
  unfold start
  rw [read]
  cases command with
  | version => cases asks
  | _ => simp only [located]

/-- With an address the command is performed. -/
theorem run_of_started (starts : around.crash? env = none) (started : start env words = .ok (collection, command))
    (d : Delivery) :
    sent env words d = command.perform.requests collection d ∧
      run around env words d =
        (outcome around env (command.perform.run collection d), command.perform.arrivals collection d) := by
  rw [sent, run, starts, started]
  exact ⟨rfl, rfl⟩

/-- A command line that cannot be read asks nothing. The program ends with 2, unless help or the version is asked
    for. -/
theorem run_of_halt {halt : Halt} (starts : around.crash? env = none) (read : Invocation.read env words = .error halt)
    (d : Delivery) :
    sent env words d = [] ∧ (run around env words d).2 = [] ∧
      (halt ≠ .help → halt ≠ .version → (run around env words d).1.exit = 2) := by
  have ended : start env words = .error (.halted halt) := by
    rw [start, read]
  obtain ⟨nothing, same⟩ := run_of_ended starts ended d
  rw [same]
  exact ⟨nothing, rfl, fun help version => CommandLine.Ending.exit_of_halt help version _ _ _ around env⟩

/-- Without an address nothing is sent. -/
theorem sent_of_unlocated {fault : ConfigFault} (read : Invocation.read env words = .ok ⟨service, command⟩)
    (asks : command.call? = some c) (unlocated : service.collection = .error fault) : sent env words d = [] := by
  rw [sent, start_of_unlocated read asks unlocated]

/-- A policy that does not pass its check is not sent. -/
theorem sent_of_not_ready (read : Invocation.read env words = .ok ⟨service, command⟩) (asks : command.call? = some c)
    (unready : ¬c.Ready) : sent env words d = [] := by
  cases located : service.collection with
  | error fault => exact sent_of_unlocated read asks located
  | ok collection =>
    obtain ⟨cause, plan⟩ := Command.perform_of_not_ready asks unready
    rw [sent, start_of_located read asks located]
    simp only [plan, Plan.requests_done]

/-- A request that arrives is all that was sent. -/
theorem sent_of_arrives {r : Request} (h : r ∈ (run around env words d).2) : sent env words d = [r] := by
  cases starts : around.crash? env with
  | some text =>
    rw [run_of_crash starts] at h
    cases h
  | none =>
    cases started : start env words with
    | error ending =>
      rw [(run_of_ended starts started d).2] at h
      cases h
    | ok went =>
      obtain ⟨collection, command⟩ := went
      obtain ⟨same, ran⟩ := run_of_started starts started d
      rw [ran] at h
      rw [same]
      exact command.perform_makes.requests_of_arrives h

/-! ## What is reported -/

/-- An outcome after which something is printed that says what is wrong, behind what was printed before, and nothing
    else. -/
structure Fails (before : String) (o : Outcome) : Prop where
  exit : o.exit = 1
  stdout : o.stdout = ""
  stderr : ∃ rest, o.stderr = before ++ "Error: " ++ rest

/-- What an outcome tells of the call of a command, if the libraries print something before and behind an error. -/
structure Reports (before behind : String) (o : Outcome) (service : ServiceConfig) (command : Command) (c : Call)
    (d : Delivery) : Prop where
  /-- All is well exactly if the call is answered. -/
  exit : o.exit = 0 ↔ ∃ a, c.Yields service d (.ok a)
  /-- Then nothing is printed but the answer. -/
  well : o.exit = 0 → o.stderr = before
  shows : ∀ a, c.Yields service d (.ok a) → command.printsJson = true → Shows c a o.stdout
  /-- Otherwise nothing is printed but what is wrong; if the call failed, this is its error. -/
  ill : o.exit ≠ 0 → Fails before o
  fault : ∀ e, c.Yields service d (.error e) → o.stderr = before ++ "Error: " ++ e.message ++ behind ++ "\n"

theorem reports_printed (quiet : around.records = "") {a : c.Answer} {text : String}
    (answered : c.Yields service d (.ok a)) (shows : command.printsJson = true → Shows c a (text ++ "\n")) :
    Reports (around.complaints env) (around.stackText env) (outcome around env (.printed text)) service command
      c d where
  exit := ⟨fun _ => ⟨a, answered⟩, fun _ => rfl⟩
  well _ := by simp only [outcome, Ending.outcome, quiet, String.append_empty]
  shows b other json := by
    cases answered.unique other
    exact shows json
  ill bad := absurd rfl bad
  fault e failed := by cases answered.unique failed

omit [InternationalNames] in
theorem exit_of_failed (around : Surroundings) (env : Environment) (message : String) (cause : Option String) :
    (outcome around env (.failed message cause)).exit = 1 := by
  simp only [outcome, Ending.outcome]

theorem reports_failed (quiet : around.records = "") {message : String} {cause : Option String}
    (unanswered : ∀ a, ¬c.Yields service d (.ok a))
    (told : ∀ e, c.Yields service d (.error e) → message = e.message ∧ cause = none) :
    Reports (around.complaints env) (around.stackText env) (outcome around env (.failed message cause)) service command
      c d where
  exit := by
    rw [exit_of_failed]
    exact ⟨nofun, fun ⟨a, answered⟩ => absurd answered (unanswered a)⟩
  well zero := by
    rw [exit_of_failed] at zero
    cases zero
  shows a answered := absurd answered (unanswered a)
  ill _ := by
    refine ⟨exit_of_failed _ _ _ _, by simp only [outcome, Ending.outcome], ?_⟩
    simp only [outcome, Ending.outcome, quiet, String.append_empty, String.append_assoc]
    exact ⟨_, rfl⟩
  fault e failed := by
    obtain ⟨rfl, rfl⟩ := told e failed
    simp only [outcome, Ending.outcome, Ending.because, quiet, String.append_empty]

/-- The outcome of a call that is made reports its result. -/
theorem reports_asking (quiet : around.records = "") {text : c.Answer → String}
    (located : service.collection = .ok collection) (ready : c.Ready)
    (shows : command.printsJson = true → ∀ a, Shows c a (text a ++ "\n")) :
    Reports (around.complaints env) (around.stackText env) (outcome around env ((asking c text).run collection d))
      service command c d := by
  cases result : c.result collection d with
  | ok a =>
    have printed : (asking c text).run collection d = .printed (text a) := by
      rw [asking, Plan.run, Plan.answered_ask]
      simp only [result, Plan.answered_done]
    rw [printed]
    exact reports_printed quiet ⟨collection, located, ready, result⟩ fun json => shows json a
  | error e =>
    have failed : (asking c text).run collection d = .failed e.message none := by
      rw [asking, Plan.run, Plan.answered_ask]
      simp only [result, Plan.answered_done]
    have yields : c.Yields service d (.error e) := ⟨collection, located, ready, result⟩
    rw [failed]
    refine reports_failed quiet (fun a answered => by cases yields.unique answered) fun e' other => ?_
    cases yields.unique other
    exact ⟨rfl, rfl⟩

/-- The outcome of a command line whose command asks for a call reports what comes of the call. -/
theorem reports_run (starts : around.crash? env = none) (quiet : around.records = "")
    (read : Invocation.read env words = .ok ⟨service, command⟩) (asks : command.call? = some c) :
    Reports (around.complaints env) (around.stackText env) (run around env words d).1 service command c d := by
  cases located : service.collection with
  | error fault =>
    have never : ∀ x, ¬c.Yields service d x := by
      rintro x ⟨collection, same, -⟩
      cases located.symm.trans same
    rw [(run_of_ended starts (start_of_unlocated read asks located) d).2]
    dsimp only
    exact reports_failed quiet (fun a => never _) fun e failed => absurd failed (never _)
  | ok collection =>
    rw [(run_of_started starts (start_of_located read asks located) d).2]
    dsimp only
    by_cases ready : c.Ready
    · obtain ⟨text, plan, shows⟩ := Command.perform_of_ready asks ready
      rw [plan]
      exact reports_asking quiet located ready shows
    · have never : ∀ x, ¬c.Yields service d x := fun x yields => absurd yields.choose_spec.2.1 ready
      obtain ⟨cause, plan⟩ := Command.perform_of_not_ready asks ready
      rw [plan, Plan.run, Plan.answered_done]
      exact reports_failed quiet (fun a => never _) fun e failed => absurd failed (never _)

/-! ## How commands end -/

/-- What is promised of a command line with a command that asks for a call. -/
structure Ends (around : Surroundings) (env : Environment) (words : List String) (d : Delivery)
    (service : ServiceConfig) (command : Command) (c : Call) : Prop where
  /-- One request is made at most, and no other arrives. -/
  once : (sent env words d).length ≤ 1
  arrives : ∀ r ∈ (run around env words d).2, sent env words d = [r]
  /-- Without an address, or with a policy that does not pass its check, no request is made. -/
  unlocated : ∀ fault, service.collection = .error fault → sent env words d = []
  unready : ¬c.Ready → sent env words d = []
  /-- The outcome tells what came of the call. -/
  reports : Reports (around.complaints env) (around.stackText env) (run around env words d).1 service command c d
  /-- It tells nothing else if the libraries find nothing to print. -/
  plainly : Plain around env → Reports "" "" (run around env words d).1 service command c d

/-- **Command lines end consistently**, whatever happens to a request, with the log turned off. If the runtime cannot
    start, nothing is asked and the program ends with 101. Otherwise a command line that cannot be read asks nothing,
    and the program ends with 2, unless help or the version is asked for. A command that asks the service for something
    makes one request at most. It ends with 0 exactly if the base address names a service, the policy is complete and
    the call is answered; then nothing is printed but the answer, and as JSON it says what the answer says on the wire.
    Otherwise it ends with 1, and what is wrong is printed and nothing else. Only the log filter may complain before
    that about its directives, and the stack may follow an error if it is asked for. -/
theorem command_lines_end_consistently (around : Surroundings) (quiet : around.records = "") (env : Environment)
    (words : List String) (d : Delivery) :
    (∀ text, around.crash? env = some text → run around env words d = (⟨101, "", text⟩, [])) ∧
    (around.crash? env = none →
      (∀ halt, Invocation.read env words = .error halt →
        sent env words d = [] ∧ (run around env words d).2 = [] ∧
          (halt ≠ .help → halt ≠ .version → (run around env words d).1.exit = 2)) ∧
      ∀ service command c, Invocation.read env words = .ok ⟨service, command⟩ → command.call? = some c →
        Ends around env words d service command c) := by
  refine ⟨fun text crashes => run_of_crash crashes words d, fun starts =>
    ⟨fun halt read => run_of_halt starts read d, fun service command c read asks => ?_⟩⟩
  have reports := reports_run (d := d) starts quiet read asks
  exact {
    once := sent_length_le env words d
    arrives := fun _ => sent_of_arrives
    unlocated := fun _ => sent_of_unlocated read asks
    unready := sent_of_not_ready read asks
    reports := reports
    plainly := fun plain => by rwa [plain.complaints_eq, plain.stackText_eq] at reports }

omit [InternationalNames] in
/-- Without an identifier the command line cannot be read, and nothing is asked. With one, a policy is answered, with
    a quote in its number: what is printed differs from what was sent, and says the same. -/
theorem a_policy_is_shown :
    letI := InternationalNames.unknown
    let around : Surroundings := .silent
    let env : Environment := fun name => if name = logSetting then some "off" else none
    let p : Policy := ⟨7, "P\"", "T", .zero, .epoch, .epoch, false, 0⟩
    let reply : Reply := ⟨200, Text.utf8 p.document.toList, true⟩
    let d : Delivery := .reply reply
    let line := ["--base-url=https://host/policies", "get", "7", "--json"]
    let service := ServiceConfig.ofAddress "https://host/policies"
    around.records = "" ∧ around.crash? env = none ∧ Plain around env ∧
      Invocation.read env ["get"] = .error (.missing ["<ID>"]) ∧ sent env ["get"] d = [] ∧
      (run around env ["get"] d).1.exit = 2 ∧ Invocation.read env line = .ok ⟨service, .get 7 true⟩ ∧
      Ends around env line d service (.get 7 true) (.get 7) ∧
      (run around env line d).1.exit = 0 ∧ (run around env line d).1.stderr = "" ∧
      Json.SameValue (run around env line d).1.stdout.toList p.document.toList := by
  intro around env p reply d line service
  let := InternationalNames.unknown
  let collection : Url := ⟨.https, [], [], .name "host".toList, none, ⟨[], "policies".toList⟩, none, none⟩
  have plain : Plain around env := ⟨fun _ _ => rfl, by decide⟩
  have incomplete : Invocation.read env ["get"] = .error (.missing ["<ID>"]) := by rfl
  have read : Invocation.read env line = .ok ⟨service, .get 7 true⟩ := by rfl
  have ends := ((command_lines_end_consistently around rfl env line d).2 rfl).2 service (.get 7 true) (.get 7) read rfl
  obtain ⟨nothing, -, two⟩ := ((command_lines_end_consistently around rfl env ["get"] d).2 rfl).1 _ incomplete
  have located : service.collection = .ok collection := Json.toOption_eq_some_iff.mp (by decide +kernel)
  have sendable : ((Call.get 7).url collection).anonymous.isSendable = true := by decide +kernel
  have reread : p.reread = p := by
    have premium : Policy.rereadPremium .zero = .zero := Policy.rereadPremium_eq (by decide) (by decide) (by decide)
    rw [Policy.reread, show p.premium = .zero from rfl, premium]
  have answered : (Call.get 7).result collection d = .ok p := by
    have body : reply.body = Text.utf8 p.document.toList := by simp only [reply]
    rw [Call.result_get_document reply p sendable rfl rfl body, reread]
  have ready : (Call.get 7).Ready := fun _ sent => by cases sent
  have yields : (Call.get 7).Yields service d (.ok p) := ⟨collection, located, ready, answered⟩
  have zero : (run around env line d).1.exit = 0 := ends.reports.exit.mpr ⟨p, yields⟩
  obtain ⟨wire, same, shown⟩ := ends.reports.shows p yields rfl
  rw [← Option.some.inj same] at shown
  have exit : (run around env ["get"] d).1.exit = 2 := two (fun same => by cases same) fun same => by cases same
  exact ⟨rfl, rfl, plain, incomplete, nothing, exit, read, ends, zero, (ends.plainly plain).well zero, shown⟩

omit [InternationalNames] in
/-- The libraries have their say in the same run of a call that fails: without settings for them its error is printed
    and nothing else, a directive that cannot be read is complained of before the error, the stack follows the error
    if it is asked for, and without threads the program does not even begin. -/
theorem libraries_have_their_say :
    letI := InternationalNames.unknown
    let around : Surroundings := {
      refusal? := fun n => if n = some "0" then some "\"TOKIO_WORKER_THREADS\" cannot be set to 0\n" else none
      complaint? := fun directive => if directive = "!" then some "invalid filter directive" else none
      records := ""
      stack := "   0: main" }
    let setting (name value : String) : Environment := fun other => if other = name then some value else none
    let line := ["--base-url=https://h.test/api", "list"]
    let e : ServiceError := .transport (.unreachable "https://h.test/api")
    let ends (name value : String) := run around (setting name value) line .unreachable
    Call.list.Yields (.ofAddress "https://h.test/api") .unreachable (.error e) ∧
      ends "RUST_LOG" "off" = (⟨1, "", "Error: " ++ e.message ++ "\n"⟩, []) ∧
      ends "RUST_LOG" "off,!" =
        (⟨1, "", "ignoring \x60!\x60: invalid filter directive\nError: " ++ e.message ++ "\n"⟩, []) ∧
      ends "RUST_BACKTRACE" "1" = (⟨1, "", "Error: " ++ e.message ++ "\n\nStack backtrace:\n   0: main\n"⟩, []) ∧
      ends "TOKIO_WORKER_THREADS" "0" = (⟨101, "", "\"TOKIO_WORKER_THREADS\" cannot be set to 0\n"⟩, []) := by
  intro around setting line e ends
  let := InternationalNames.unknown
  let collection : Url := ⟨.https, [], [], .name "h.test".toList, none, ⟨[], "api".toList⟩, none, none⟩
  have located : (ServiceConfig.ofAddress "https://h.test/api").collection = .ok collection :=
    Json.toOption_eq_some_iff.mp (by decide +kernel)
  have ready : Call.list.Ready := fun _ sent => by cases sent
  have target : (Call.list.url collection).anonymous.toText = "https://h.test/api" := by decide +kernel
  have failed : Call.list.result collection .unreachable = .error e := by
    rw [← Call.run_alone, Call.run_of_sendable (by decide +kernel), target]
  refine ⟨⟨collection, located, ready, failed⟩, ?_⟩
  decide +kernel

end Console

end PolicyDesk
