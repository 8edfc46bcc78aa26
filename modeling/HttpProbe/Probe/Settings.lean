import HttpProbe.Net.Address
import HttpProbe.Http.Request
import HttpProbe.Probe.Timeout

/-!
# Settings of a probe

Whom to ask, for what, and what to expect. The built-in settings are those of an empty `Settings`;
`Settings.ofEnvironment` puts the values of the environment in their place. A variable that is empty
counts as not set.
-/

namespace HttpProbe

/-- Whom a probe asks, for what, and what it expects. -/
structure Settings where
  host : String := "www.google.com"
  service : String := "http"
  target : String := "/"
  /-- What the first line is to begin with. -/
  expected : String := "HTTP/1.0"
  /-- How long a call may take: ten seconds, or nothing for as long as it likes. -/
  timeout : Option Binary64 := some (.ofDecimal false 10 0)
  deriving DecidableEq

/-- The environment: names and values, each name once. -/
abbrev Environment := List (String × String)

namespace Settings

/-- What the names of the program's variables begin with. -/
def variablePrefix : String := "STATUSPROBE_"

/-- The names of the program's variables after that. -/
def names : List String := ["HOST", "SERVICE", "PATH", "PREFIX", "TIMEOUT"]

/-- The value of one of the program's variables, unless it is empty. -/
def setting? (env : Environment) (name : String) : Option String :=
  (env.lookup (variablePrefix ++ name)).filter (! ·.isEmpty)

/-- The settings by the environment. Only the timeout can be refused. -/
def ofEnvironment (env : Environment) : Except Timeout.Refusal Settings := do
  let usual : Settings := {}
  let timeout ← match setting? env "TIMEOUT" with
    | none => .ok usual.timeout
    | some text => Timeout.read text
  return {
    host := (setting? env "HOST").getD usual.host
    service := (setting? env "SERVICE").getD usual.service
    target := (setting? env "PATH").getD usual.target
    expected := (setting? env "PREFIX").getD usual.expected
    timeout }

end Settings

end HttpProbe
