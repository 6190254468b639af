import PolicyDesk.Service.Config
import PolicyDesk.Text.Pieces

/-!
# What is around a program

The libraries under a program have settings of their own, and print on their own.

* `Surroundings`: what they print.
* `crash?`: what the runtime says if it cannot start.
* `complaints`: what the log filter says about its directives.
* `asksForStack`, `stackText`: the stack behind an error, if it is asked for.
-/

namespace PolicyDesk.CommandLine

/-- The setting for the number of threads. -/
def threadsSetting : String := "TOKIO_WORKER_THREADS"

/-- The setting for the log filter. -/
def logSetting : String := "RUST_LOG"

/-- The settings for the stack of an error. The first that is there counts. -/
def stackSettings : String × String := ("RUST_LIB_BACKTRACE", "RUST_BACKTRACE")

/-- What the libraries under a program print on their own. -/
structure Surroundings where
  /-- What the runtime says if it cannot start with the number of threads that is set. -/
  refusal? : Option String → Option String
  /-- Why the log filter cannot read a directive, if it cannot. -/
  complaint? : String → Option String
  /-- The records that the log has taken up. -/
  records : String
  /-- The stack of an error. -/
  stack : String

/-- The directives for the log filter. -/
def directives (env : Environment) : List String :=
  ((Text.pieces (· == ',') ((env logSetting).getD "").toList).filter (!·.isEmpty)).map String.ofList

/-- Whether an error is to come with its stack. -/
def asksForStack (env : Environment) : Bool :=
  ((env stackSettings.1).or (env stackSettings.2)).any (· != "0")

/-- The settings that the libraries read. -/
def surroundingSettings : List String := [threadsSetting, logSetting, stackSettings.1, stackSettings.2]

namespace Surroundings

/-- Libraries that have nothing to say. -/
def silent : Surroundings := ⟨fun _ => none, fun _ => none, "", ""⟩

/-- What the runtime says if it cannot start. -/
def crash? (around : Surroundings) (env : Environment) : Option String := around.refusal? (env threadsSetting)

/-- What the log filter says about the directives that it cannot read. -/
def complaints (around : Surroundings) (env : Environment) : String :=
  String.join ((directives env).filterMap fun directive =>
    (around.complaint? directive).map fun reason =>
      "ignoring \x60" ++ directive ++ "\x60: " ++ reason ++ "\n")

/-- What stands behind an error. -/
def stackText (around : Surroundings) (env : Environment) : String :=
  if asksForStack env then "\n\nStack backtrace:\n" ++ around.stack else ""

end Surroundings

end PolicyDesk.CommandLine
