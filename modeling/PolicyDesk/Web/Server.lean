import PolicyDesk.CommandLine.Outcome
import PolicyDesk.CommandLine.Reading
import PolicyDesk.CommandLine.Service
import PolicyDesk.Desk.Actions

/-!
# Starting the desk on the web

* `Setup.read`: where the service lives and where to listen, from the command line and the environment.
* `Server.start`: the desk before the first visitor. The policies are loaded first, unless that is not
  wanted; if it fails, the page tells.
-/

namespace PolicyDesk.Web

open CommandLine

/-- How the desk is set up. -/
structure Setup where
  service : ServiceConfig
  bindAddress : String
  port : Nat
  /-- Whether the policies are loaded before the first visitor. -/
  loadsFirst : Bool
  deriving DecidableEq, Repr

namespace Setup

/-- What a command line gives. -/
structure Draft where
  service : ServiceDraft
  bindAddress : Option String
  port : Option Nat
  noInitialLoad : Option Bool

/-- The arguments. -/
def grammar : Grammar Draft where
  named :=
    ServiceDraft.args "api-url" "API_URL" Draft.service (fun s d => { d with service := s }) ++ [
      { Arg.option "bind-addr" "BIND_ADDR" (fun _ s d => .ok { d with bindAddress := some s })
          (·.bindAddress.isSome) with
        setting := some "BIND_ADDR" },
      { Arg.option "port" "PORT"
          (fun _ s d => (readRanged 65535 s).map fun n => { d with port := some n })
          (·.port.isSome) with
        setting := some "PORT" },
      { Arg.flag "no-initial-load" (fun b d => { d with noInitialLoad := some b })
          (·.noInitialLoad.isSome) with
        setting := some "POLICY_UI_NO_INITIAL_LOAD" },
      Arg.help]
  placed := []

/-- The setup of a draft, with defaults for what is not given. -/
def ofDraft (d : Draft) : Setup where
  service := d.service.config
  bindAddress := d.bindAddress.getD "0.0.0.0"
  port := d.port.getD 3000
  loadsFirst := !d.noInitialLoad.getD false

/-- Reads a command line. -/
def read (env : Environment) (words : List String) : Except Halt Setup :=
  (grammar.read env ⟨.blank, none, none, none⟩ words).map ofDraft

/-- Where to listen. -/
def listenAddress (s : Setup) : String :=
  s.bindAddress ++ ":" ++ String.ofList (Text.natural s.port)

end Setup

namespace Server

/-- What the server is for. -/
def about : String := "Serves the insurance policy management page"

/-- The setup on a command line and the address of the policies; or the end, if it comes before. -/
def configure [InternationalNames] (env : Environment) (words : List String) : Except Ending (Setup × Url) :=
  match Setup.read env words with
  | .error halt => .error (.halted halt)
  | .ok setup =>
    match setup.service.collection with
    | .error f => .error (.failed "Failed to create policy API client" (some f.message))
    | .ok url => .ok (setup, url)

/-- The desk before the first visitor. -/
def start (today : Date) (setup : Setup) : Plan Desk :=
  let d := Desk.opened today
  if setup.loadsFirst then d.load.map Prod.fst else .done d

/-- The end if the address to listen at cannot be had. -/
def bindFailed (setup : Setup) (reason : String) : Ending :=
  .failed ("Failed to bind to " ++ setup.listenAddress) (some reason)

/-- The outcome of an ending, unless the runtime cannot start. The log goes where the answers go, and its filter
keeps quiet. -/
def outcome (around : Surroundings) (env : Environment) (ending : Ending) : Outcome :=
  match around.crash? env with
  | some text => .crashed text
  | none =>
    let o := ending.outcome about "" "" around env
    { o with stdout := around.records ++ o.stdout }

end Server

end PolicyDesk.Web
