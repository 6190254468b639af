import PolicyDesk.CommandLine.Basic
import PolicyDesk.CommandLine.Value
import PolicyDesk.Service.Config

/-!
# The arguments that name the service

* `ServiceDraft`: the base address and the time to wait, with where they come from.
* `ServiceDraft.args`: the arguments, which the environment may give as well.
* `ServiceDraft.within`: the settings in front of a command and behind it put together.
-/

namespace PolicyDesk.CommandLine

/-- The settings of the service as far as they are given. -/
structure ServiceDraft where
  base : Option (Source × String)
  timeout : Option (Source × UInt64)
  deriving DecidableEq, Repr

namespace ServiceDraft

/-- Nothing is given. -/
def blank : ServiceDraft := ⟨none, none⟩

variable {Draft : Type}

/-- The arguments for the base address, under the name that a program has for it, and for the time to
wait. -/
def args (name placeholder : String) (part : Draft → ServiceDraft)
    (withPart : ServiceDraft → Draft → Draft) : List (Arg Draft) := [
  { Arg.option name placeholder
      (fun source s d => .ok (withPart { part d with base := some (source, s) } d))
      (fun d => (part d).base.isSome) with
    setting := some ServiceConfig.addressSetting },
  { Arg.option "timeout-secs" "TIMEOUT_SECS"
      (fun source s d =>
        (readWord64 s).map fun n => withPart { part d with timeout := some (source, n) } d)
      (fun d => (part d).timeout.isSome) with
    setting := some ServiceConfig.timeoutSetting }]

/-- A value behind a command, unless the command line gives only one in front of it. -/
def choose {α : Type} (inner outer : Option (Source × α)) : Option (Source × α) :=
  match inner, outer with
  | some (.line, a), _ => some (.line, a)
  | _, some (.line, a) => some (.line, a)
  | some a, _ => some a
  | none, a => a

/-- The settings behind a command within those in front of it. -/
def within (inner outer : ServiceDraft) : ServiceDraft :=
  ⟨choose inner.base outer.base, choose inner.timeout outer.timeout⟩

/-- The settings, with defaults for those that are not given. -/
def config (d : ServiceDraft) : ServiceConfig where
  base := (d.base.map Prod.snd).getD ServiceConfig.defaultAddress
  timeout := (d.timeout.map Prod.snd).getD ServiceConfig.defaultTimeout

end ServiceDraft

end PolicyDesk.CommandLine
