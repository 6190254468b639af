import PolicyDesk.CommandLine.Reading
import PolicyDesk.CommandLine.Service
import PolicyDesk.Policy.Basic
import PolicyDesk.Amount.Reading
import PolicyDesk.Calendar.Reading

/-!
# What the console is asked to do

* `Command`: the commands of the console.
* `program`: their arguments.
* `Invocation.read`: the command on a command line, with the settings of the service.
-/

namespace PolicyDesk.Console

open CommandLine

/-- The fields of a policy except its identifier. -/
structure Fields where
  number : String
  kind : String
  premium : Binary64
  start : Date
  finish : Date
  active : Bool
  customer : UInt32
  deriving DecidableEq, Repr

/-- The policy with the fields. -/
def Fields.policy (f : Fields) (id : UInt64) : Policy :=
  ⟨id, f.number, f.kind, f.premium, f.start, f.finish, f.active, f.customer⟩

/-- The commands of the console. -/
inductive Command where
  | list (json : Bool)
  | get (id : UInt64) (json : Bool)
  | create (fields : Fields)
  | update (id : UInt64) (fields : Fields)
  | delete (id : UInt64)
  | version
  deriving DecidableEq, Repr

/-! ## Arguments -/

/-- What a command line gives. -/
structure Draft where
  service : ServiceDraft
  json : Bool
  id : Option UInt64
  number : Option String
  kind : Option String
  premium : Option Binary64
  start : Option Date
  finish : Option Date
  active : Bool
  customer : Option UInt32

/-- Nothing is given. -/
def Draft.blank : Draft := ⟨.blank, false, none, none, none, none, none, none, false, none⟩

/-- Reads a value and puts it into the draft. -/
def reading {α : Type} (read : String → Except String α) (put : Draft → α → Draft) : Put Draft :=
  fun _ s d => (read s).map (put d)

/-- The arguments that every command has. -/
def common : List (Arg Draft) :=
  ServiceDraft.args "base-url" "BASE_URL" Draft.service (fun s d => { d with service := s }) ++ [Arg.help]

/-- Asks for the document instead of a table. -/
def json : Arg Draft := Arg.flag "json" (fun b d => { d with json := b }) Draft.json

/-- The identifier of a policy. -/
def id : Arg Draft :=
  Arg.place "ID" (reading readWord64 fun d n => { d with id := some n }) (·.id.isSome)

/-- An argument for a field that has to be given. -/
def field {α : Type} (name placeholder : String) (read : String → Except String α)
    (put : Draft → α → Draft) (isSet : Draft → Bool) : Arg Draft :=
  { Arg.option name placeholder (reading read put) isSet with required := true }

/-- The premium, which may be negative. -/
def premium : Arg Draft :=
  let put := reading Amount.read fun d x => { d with premium := some x }
  { field "premium" "PREMIUM" Amount.read (fun d x => { d with premium := some x })
      (·.premium.isSome) with
    takes := .value true put }

/-- The arguments for the fields of a policy. -/
def fields : List (Arg Draft) := [
  field "number" "NUMBER" .ok (fun d s => { d with number := some s }) (·.number.isSome),
  field "type" "POLICY_TYPE" .ok (fun d s => { d with kind := some s }) (·.kind.isSome),
  premium,
  field "start" "START" Date.read (fun d day => { d with start := some day }) (·.start.isSome),
  field "end" "END" Date.read (fun d day => { d with finish := some day }) (·.finish.isSome),
  Arg.flag "active" (fun b d => { d with active := b }) Draft.active,
  Arg.option "customer" "CUSTOMER"
    (reading (readRanged (UInt32.size - 1)) fun d n => { d with customer := some (UInt32.ofNat n) })
    (·.customer.isSome)]

/-- The console with its commands. -/
def program : Program Draft where
  name := "policyctl"
  grammar := ⟨common ++ [Arg.ending "version" 'V' .version], []⟩
  commands := [
    ("list", ⟨json :: common, []⟩),
    ("get", ⟨json :: common, [id]⟩),
    ("create", ⟨fields ++ common, []⟩),
    ("update", ⟨fields ++ common, [id]⟩),
    ("delete", ⟨common, [id]⟩),
    ("version", ⟨common, []⟩)]

/-! ## Invocations -/

/-- The fields of a draft that has all of them. -/
def Draft.fields (d : Draft) : Fields where
  number := d.number.getD ""
  kind := d.kind.getD ""
  premium := d.premium.getD .zero
  start := d.start.getD .epoch
  finish := d.finish.getD .epoch
  active := d.active
  customer := d.customer.getD 0

/-- The command with a name and a draft. -/
def Command.ofDraft (name : String) (d : Draft) : Command :=
  let id := d.id.getD 0
  match name with
  | "list" => list d.json
  | "get" => get id d.json
  | "create" => create d.fields
  | "update" => update id d.fields
  | "delete" => delete id
  | _ => version

/-- What the console is asked to do. -/
structure Invocation where
  service : ServiceConfig
  command : Command
  deriving DecidableEq, Repr

/-- Reads a command line. -/
def Invocation.read (env : Environment) (words : List String) : Except Halt Invocation :=
  (program.read env .blank words).map fun (outer, name, inner) =>
    ⟨(inner.service.within outer.service).config, Command.ofDraft name inner⟩

end PolicyDesk.Console
