import HttpProbe.Probe.Options
import HttpProbe.Probe.Settings

/-!
# What the program is called with

The environment gives the settings, and the command line overrides them: of several options for the
same setting the last one counts, and the arguments are the host and the service
(`Invocation.read`). The environment is read first, the command line is then read as a whole, and
only then its options are looked at in order; so of several faults the first in this order is
reported.
-/

namespace HttpProbe

/-- What the program is to do. -/
structure Invocation where
  settings : Settings
  verbose : Bool
  deriving DecidableEq

namespace Invocation

/-- Why the program is not called rightly. -/
inductive Refusal where
  /-- The environment sets a timeout that is none. -/
  | environment (why : Timeout.Refusal)
  | commandLine (why : Options.Refusal)
  /-- An option sets a timeout that is none. -/
  | timeout (why : Timeout.Refusal)
  | helpAsked
  | tooManyArguments
  deriving DecidableEq

/-- What a message says of it. -/
def Refusal.message : Refusal → String
  | environment why => why.message
  | commandLine why => why.message
  | timeout why => why.message
  | helpAsked => "help requested"
  | tooManyArguments => "too many arguments"

/-- What the program is to do once an option is looked at. -/
def apply (i : Invocation) (given : Options.Given) : Except Refusal Invocation :=
  match given.switch with
  | .help => .error .helpAsked
  | .timeout =>
    match Timeout.read given.value with
    | .ok timeout => .ok { i with settings.timeout := timeout }
    | .error why => .error (.timeout why)
  | .expected => .ok { i with settings.expected := given.value }
  | .target => .ok { i with settings.target := given.value }
  | .verbose => .ok { i with verbose := true }

/-- What the program is to do once the arguments are looked at. -/
def address (i : Invocation) : List String → Except Refusal Invocation
  | [] => .ok i
  | [host] => .ok { i with settings.host := host }
  | [host, service] => .ok { i with settings.host := host, settings.service := service }
  | _ => .error .tooManyArguments

/-- What the program is to do by its environment and its command line. -/
def read (env : Environment) (words : List String) : Except Refusal Invocation := do
  let settings ← (Settings.ofEnvironment env).mapError .environment
  let line ← (Options.readWords words).mapError .commandLine
  let i ← line.given.foldlM apply { settings, verbose := false }
  i.address line.arguments

end Invocation

end HttpProbe
