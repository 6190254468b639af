import PolicyDesk.Address.Reading
import PolicyDesk.Text.Blank
import PolicyDesk.Text.Integer

/-!
# Where the service lives

* `ServiceConfig`: the base address as it was given, and how long to wait for an answer.
* `ServiceConfig.ofEnvironment`: the settings of an environment, with defaults for what is missing.
* `ServiceConfig.collection`: the address of the policy collection, or why there is none.
-/

namespace PolicyDesk

/-- Named settings from outside. -/
abbrev Environment := String → Option String

/-- Where the service lives and how long to wait for it. -/
structure ServiceConfig where
  base : String
  /-- In seconds. -/
  timeout : UInt64
  deriving DecidableEq, Repr

/-- Why the settings name no service. -/
inductive ConfigFault where
  /-- The base address cannot be read. -/
  | address (given : String) (fault : AddressFault)
  /-- The base address is not on the web. -/
  | scheme (name : String)
  deriving DecidableEq, Repr

/-- The fault in words. -/
def ConfigFault.message (f : ConfigFault) : String :=
  "Policy client configuration error: " ++
    match f with
    | address given fault => "Invalid policy API URL '" ++ given ++ "': " ++ fault.message
    | scheme name => "Invalid policy API URL scheme '" ++ name ++ "'. Must be http or https"

namespace ServiceConfig

/-- The setting that names the base address. -/
def addressSetting : String := "POLICY_API_URL"

/-- The setting that names the time to wait. -/
def timeoutSetting : String := "POLICY_API_TIMEOUT_SECS"

/-- The base address if none is set. -/
def defaultAddress : String := "http://127.0.0.1:8081/insurancepolicy/api/policies"

/-- The time to wait if none is set. -/
def defaultTimeout : UInt64 := 30

/-- The given base address with the default time to wait. -/
def ofAddress (base : String) : ServiceConfig := ⟨base, defaultTimeout⟩

/-- Reads a time to wait. -/
def timeout? (s : String) : Option UInt64 :=
  (Text.readUnsigned (UInt64.size - 1) s.toList).toOption.map UInt64.ofNat

/-- The settings of the environment. A time that cannot be read counts as not set. -/
def ofEnvironment (env : Environment) : ServiceConfig where
  base := (env addressSetting).getD defaultAddress
  timeout := ((env timeoutSetting).bind timeout?).getD defaultTimeout

/-- The base address without the blanks around it and the slashes behind it. -/
def trimmedBase (c : ServiceConfig) : List Char :=
  ((Text.strip c.base.toList).reverse.dropWhile (· == '/')).reverse

/-- The address of the policy collection. -/
def collection [InternationalNames] (c : ServiceConfig) : Except ConfigFault Url :=
  match Address.read c.trimmedBase with
  | .error fault => .error (.address c.base fault)
  | .ok (.other name) => .error (.scheme name)
  | .ok (.web url) => .ok url

end ServiceConfig

end PolicyDesk
