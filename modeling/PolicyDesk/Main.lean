import PolicyDesk.Console.Run
import PolicyDesk.Web.Server

/-!
# The programs

`main` runs the console, or the server if its first word is `policy-ui`. No connection is made from here:
the service cannot be reached, and there is no address to listen at. Nor are there libraries underneath that
would print on their own, or the tables for host names beyond ASCII.
-/

namespace PolicyDesk

/-- What the environment says about the settings of the programs. -/
def readEnvironment : IO Environment := do
  let names := Web.Setup.grammar.named.filterMap (·.setting) ++ CommandLine.surroundingSettings
  let settings ← names.mapM fun name => do
    return (name, ← IO.getEnv name)
  return fun name => (settings.lookup name).join

/-- Prints what a program ends with. -/
def report (outcome : CommandLine.Outcome) : IO UInt32 := do
  IO.print outcome.stdout
  IO.eprint outcome.stderr
  return UInt32.ofNat outcome.exit

/-- The end of the server, which has no address to listen at. -/
def serverEnding [InternationalNames] (env : Environment) (words : List String) : CommandLine.Ending :=
  match Web.Server.configure env words with
  | .error ending => ending
  | .ok (setup, _) => Web.Server.bindFailed setup "no network"

end PolicyDesk

/-- Runs the console or the server. -/
def main (words : List String) : IO UInt32 := do
  let env ← PolicyDesk.readEnvironment
  let around := PolicyDesk.CommandLine.Surroundings.silent
  let _ := PolicyDesk.InternationalNames.unknown
  match words with
  | "policy-ui" :: rest =>
    PolicyDesk.report (PolicyDesk.Web.Server.outcome around env (PolicyDesk.serverEnding env rest))
  | _ => PolicyDesk.report (PolicyDesk.Console.run around env words .unreachable).1
