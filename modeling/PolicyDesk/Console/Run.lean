import PolicyDesk.CommandLine.Outcome
import PolicyDesk.Console.Invocation
import PolicyDesk.Console.Table
import PolicyDesk.Service.Exchange

/-!
# Running the console

* `Command.perform`: what a command asks the service, and how the program ends.
* `run`: the console from the command line on.
-/

namespace PolicyDesk.Console

open CommandLine

/-- What the console is for. -/
def about : String := "Manage insurance policies through the policy REST API"

/-- The version of the console. -/
def release : String := "0.1.0"

/-- Asks the service and prints what comes of it. -/
def asking (c : Call) (text : c.Answer → String) : Plan Ending :=
  .ask c fun
    | .ok a => .done (.printed (text a))
    | .error e => .done (.failed e.message none)

/-- Sends a policy if number and type are filled in. -/
def sending (c : Call) (p : Policy) (text : c.Answer → String) : Plan Ending :=
  match p.check with
  | .ok () => asking c text
  | .error e => .done (.failed "Refusing to send incomplete policy" (some e.message))

/-- What a command asks the service, and how the program ends. -/
def Command.perform : Command → Plan Ending
  | list json => asking .list fun (ps : List Policy) => if json then Policy.indentedList ps else table ps
  | get id json => asking (.get id) fun (p : Policy) => if json then p.indented else table [p]
  | create f => sending (.create (f.policy 0)) (f.policy 0) fun (p : Policy) => p.indented
  | update id f => sending (.update id (f.policy id)) (f.policy id) fun (p : Policy) => p.indented
  | delete id => asking (.delete id) fun _ => "Deleted policy " ++ String.ofList (Text.natural id.toNat)
  | version => .done (.printed release)

/-- The address of the policies and the command on a command line; or the end, if it comes before. -/
def start [InternationalNames] (env : Environment) (words : List String) : Except Ending (Url × Command) :=
  match Invocation.read env words with
  | .error halt => .error (.halted halt)
  | .ok ⟨_, .version⟩ => .error (.printed release)
  | .ok ⟨service, command⟩ =>
    match service.collection with
    | .error f => .error (.failed "Failed to create policy API client" (some f.message))
    | .ok url => .ok (url, command)

/-- The outcome of an ending. The log filter and the log print for errors before the console does. -/
def outcome (around : Surroundings) (env : Environment) (ending : Ending) : Outcome :=
  ending.outcome about (program.name ++ " " ++ release) (around.complaints env ++ around.records) around env

/-- The outcome of a command line and the requests that arrive at the service, given what happens to a
request. -/
def run [InternationalNames] (around : Surroundings) (env : Environment) (words : List String) (d : Delivery) :
    Outcome × List Request :=
  match around.crash? env with
  | some text => (.crashed text, [])
  | none =>
    match start env words with
    | .error ending => (outcome around env ending, [])
    | .ok (url, command) =>
      (outcome around env (command.perform.run url d), command.perform.arrivals url d)

end PolicyDesk.Console
