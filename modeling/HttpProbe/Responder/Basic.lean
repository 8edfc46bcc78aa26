import HttpProbe.Http.StatusLine
import HttpProbe.Socket.Connection

/-!
# The responder

A responder answers every connection with one fixed response, so that a probe can run without a live
host. This file fixes its state and what it sends:

* `Responder.Plan` is what it was made for: where to listen and what to send;
* `Responder` is its state: the listener, the running flag, the accept loops that have not ended,
  and what clients have asked so far;
* `Site` is a responder with the system behind it;
* `Plan.response` is what every client gets.
-/

namespace HttpProbe

/-- What a responder is made for. -/
structure Responder.Plan where
  host : String := "127.0.0.1"
  status : StatusLine := {}
  body : Bytes := []
  /-- The whole response, in place of the line and the body. -/
  rawResponse : Option Bytes := none

/-- What every client gets; or why the first line cannot be written. -/
def Responder.Plan.response (plan : Responder.Plan) : Except Unwritable Bytes :=
  match plan.rawResponse with
  | some response => .ok response
  | none => do
    let start ← plan.status.toBytes
    let header := Utf8.encode s!"Content-Length: {plan.body.length}"
    return start ++ header ++ Bytes.crlf ++ Bytes.crlf ++ plan.body

/-- The state of a responder. -/
structure Responder where
  plan : Responder.Plan := {}
  /-- The port to listen at; once it has started, the port that it got. -/
  port : Int := 0
  /-- The listener of the last start. -/
  listener : Option Socket := none
  running : Bool := false
  /-- How many accept loops were started; they are numbered in this order. -/
  started : Nat := 0
  /-- The accept loops that have not ended, the oldest first. -/
  unfinished : List Nat := []
  /-- The first lines of what clients asked, in order of arrival. -/
  requests : Array String := #[]
  /-- The octets of what clients asked, in order of arrival. -/
  received : Array Bytes := #[]

/-- A responder with the system behind it. -/
structure Site where
  responder : Responder
  system : System

namespace Site

/-- The site after its listener ran in a session. Another thread may have asked the responder to
stop meanwhile. -/
def withListener (s : Site) (t : Session) : Site where
  responder := { s.responder with
    listener := some t.socket
    running := s.responder.running && !t.system.stopAsked }
  system := { t.system with stopAsked := false }

/-- One thing more is said. -/
def say (s : Site) (level : Log.Level) (message : String) : Site :=
  { s with system := s.system.say level .responder message }

/-- How many connections wait for the listener. -/
def waiting (s : Site) : Nat :=
  match s.responder.listener with
  | some listener => listener.descriptor.script.accept.length
  | none => 0

theorem waiting_of_listener {s : Site} {listener : Socket}
    (h : s.responder.listener = some listener) :
    s.waiting = Socket.waiting ⟨listener, s.system⟩ := by
  simp [waiting, h, Socket.waiting]

/-- More connections wait for the listener. -/
def offer (callers : List (Reply (Caller Script))) (s : Site) : Site :=
  match s.responder.listener with
  | none => s
  | some listener =>
    let script := listener.descriptor.script
    let listener := { listener with
      descriptor.script := { script with accept := script.accept ++ callers } }
    { s with responder.listener := some listener }

end Site

end HttpProbe
