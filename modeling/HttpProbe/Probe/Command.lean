import HttpProbe.Probe.Check
import HttpProbe.Probe.Invocation

/-!
# The command

The command reads how it was called, checks the server, says what it found and ends with a number
(`Command.run`): 0 when the first line begins as expected, 1 when it does not, 2 when the network
failed, 64 when it was not called rightly. What it says goes to the error output (`Report.text`).

A failure that is neither an error of the network nor a fault of the line is not its business: it
ends the program as it is, and what was said before stays said.
-/

namespace HttpProbe.Command

/-- The line begins as expected. -/
def exitOk : Int := 0

/-- The line does not begin as expected. -/
def exitInvalid : Int := 1

/-- The network failed. -/
def exitNetwork : Int := 2

/-- The program was not called rightly. -/
def exitUsage : Int := 64

/-- How the program is called. -/
def usage : String :=
  "python probe.py [-t timeout] [-p prefix] [-P path] [-v] [host [service]]"

/-- How the command ends. -/
inductive Ending where
  | exit (number : Int)
  /-- By a failure that is not its business. -/
  | failed (f : Failure)
  deriving DecidableEq

/-- What the command leaves. -/
structure Report where
  ending : Ending
  /-- What stands on the error output. -/
  text : String
  deriving DecidableEq

/-- The check that is to be made. -/
def order (settings : Settings) : Check.Order where
  host := settings.host
  service := .named settings.service
  request := { target := settings.target }
  expected := settings.expected
  timeout := settings.timeout

/-- The line without the carriage returns at its end. -/
def trimReturns (line : String) : String :=
  String.ofList ((line.toList.reverse.dropWhile (· == '\r')).reverse)

/-- What is said of a call that is not right. -/
def usageText (why : Invocation.Refusal) : String := s!"{why.message}\nUsage:\n  {usage}\n"

/-- The lines of the log that a reader of the threshold sees; every line carries the time of day. -/
def logText (clock : String) (threshold : Log.Level) (log : Array Log.Record) : String :=
  String.join ((log.toList.filter (·.isShown threshold)).map (·.line clock))

/-- Checks the server, says what came of it, and gives the number to end with. -/
def perform (settings : Settings) : EStateM Failure System Int := fun s =>
  match Check.check (order settings) s with
  | .ok r s =>
    .ok exitOk (s.say .info .probe s!"{r.host}:{r.service} -> {trimReturns r.line}")
  | .error (.invalidLine line expected) s =>
    .ok exitInvalid (s.say .error .probe
      s!"Invalid status line! (got {Quoted.quote line}, expected prefix {Quoted.quote expected})")
  | .error (.failed (.net e)) s =>
    .ok exitNetwork (s.say .error .probe s!"{settings.host}:{settings.service}: {e.message}")
  | .error (.failed f) s => .error f s
  | .error (.request (.target run)) s => .error (.unwritable (.text run)) s
  | .error (.request why) s =>
    .ok exitUsage (s.say .error .probe
      s!"cannot build request for {settings.target}: {why.message}")

/-- Runs the command. However it ends, what was said until then is shown. -/
def run (clock : String) (env : Environment) (words : List String) (s : System) :
    Report × System :=
  match Invocation.read env words with
  | .error why => (⟨.exit exitUsage, usageText why⟩, s)
  | .ok i =>
    let said := fun t : System => logText clock (if i.verbose then .debug else .info) t.log
    match perform i.settings s with
    | .ok number t => (⟨.exit number, said t⟩, t)
    | .error f t => (⟨.failed f, said t⟩, t)

end HttpProbe.Command
