/-!
# Log records

What the program notes for its reader: a level, the part of the program that speaks, a message. A
record is shown when its level reaches the level that the reader asked for.
-/

namespace HttpProbe.Log

/-- How much a record matters. -/
inductive Level where
  | debug
  | info
  | warning
  | error
  deriving DecidableEq

/-- The rank of a level among the levels. -/
def Level.rank : Level → Nat
  | debug => 10
  | info => 20
  | warning => 30
  | error => 40

/-- How a line of the log names the level. -/
def Level.name : Level → String
  | debug => "DEBUG"
  | info => "INFO"
  | warning => "WARNING"
  | error => "ERROR"

/-- The part of the program that speaks. -/
inductive Source where
  | stream
  | socket
  | responder
  | probe
  deriving DecidableEq

/-- What the program notes. -/
structure Record where
  level : Level
  source : Source
  message : String
  deriving DecidableEq

/-- Whether a reader who asked for `threshold` sees the record. -/
def Record.isShown (threshold : Level) (r : Record) : Bool := threshold.rank ≤ r.level.rank

/-- The record as a line, after the time of day. -/
def Record.line (clock : String) (r : Record) : String :=
  s!"{clock} [{r.level.name}] {r.message}\n"

end HttpProbe.Log
