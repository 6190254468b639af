import PolicyDesk.CommandLine.Basic
import PolicyDesk.CommandLine.Surroundings

/-!
# How a program ends

* `Ending`: what a program has to say in the end.
* `Outcome`: the exit code and what is printed.
* `Ending.outcome`: what is printed in an environment.
-/

namespace PolicyDesk.CommandLine

/-- What a program has to say in the end. -/
inductive Ending where
  /-- Everything went well. -/
  | printed (text : String)
  /-- The command line is not carried out. -/
  | halted (halt : Halt)
  /-- Something went wrong, perhaps for a reason. -/
  | failed (message : String) (cause : Option String)
  deriving DecidableEq, Repr

/-- How a program ends. -/
structure Outcome where
  exit : Nat
  stdout : String
  stderr : String
  deriving DecidableEq, Repr

/-- The program has not even begun. -/
def Outcome.crashed (text : String) : Outcome := ⟨101, "", text⟩

namespace Ending

/-- The text with its lines moved to the right. -/
def shifted (s : String) : String :=
  "    " ++ String.ofList (s.toList.flatMap fun c => if c = '\n' then "\n    ".toList else [c])

/-- The reason in words. -/
def because : Option String → String
  | none => ""
  | some cause => "\n\nCaused by:\n" ++ shifted cause

/-- The outcome of an ending. `about` says what the program is for, and `before` has been printed for errors
already. -/
def outcome (about version before : String) (around : Surroundings) (env : Environment) : Ending → Outcome
  | printed text => ⟨0, text ++ "\n", before⟩
  | halted .help => ⟨0, about ++ "\n", before⟩
  | halted .version => ⟨0, version ++ "\n", before⟩
  | halted .bare => ⟨2, "", before ++ about ++ "\n"⟩
  | halted h => ⟨2, "", before ++ "error: " ++ h.message ++ "\n"⟩
  | failed message cause =>
    ⟨1, "", before ++ "Error: " ++ message ++ because cause ++ around.stackText env ++ "\n"⟩

end Ending

end PolicyDesk.CommandLine
