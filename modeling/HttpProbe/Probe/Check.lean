import HttpProbe.Http.StatusLine
import HttpProbe.Socket.Connection
import HttpProbe.Socket.Reading
import HttpProbe.Socket.Writing

/-!
# The check of a server

A check connects, sends one request, reads the first line of the response and closes, whatever
happened before (`exchange`); a failure to close comes before any other. The line has to begin with
what was expected; if it does, it is also read as a status line, and the result says so when it is
none (`judge`).
-/

namespace HttpProbe.Check

/-- What a check is to do. -/
structure Order where
  host : String
  service : Service := .named "http"
  request : Request := {}
  /-- What the first line is to begin with. -/
  expected : String := "HTTP/1.0"
  /-- How long a call may take; nothing for as long as it likes. -/
  timeout : Option Binary64 := none

/-- What a check found. -/
structure Result where
  host : String
  service : String
  line : String
  /-- What the line says, if it is a status line. -/
  status : Option StatusLine
  deriving DecidableEq

/-- Why a check found nothing. -/
inductive Refusal where
  | request (why : Request.Refusal)
  | failed (f : Failure)
  | invalidLine (line expected : String)
  deriving DecidableEq

/-- What a message says of it. -/
def Refusal.message : Refusal → String
  | request why => why.message
  | failed f => f.message
  | invalidLine _ _ => "Invalid status line!"

/-! ## 1. The exchange -/

/-- Sends the octets of a request and reads the first line of the response. -/
def converse (order : Order) (data : Bytes) : SocketM String := do
  Socket.connect order.host order.service order.timeout
  let _ ← Socket.write (.octets data)
  Socket.readLine

/-- Makes a socket, converses, and closes the socket again. -/
def exchange (order : Order) (data : Bytes) : EStateM Failure System String := fun s =>
  match Socket.createDefault s with
  | .error f s => .error f s
  | .ok socket s =>
    let result := converse order data ⟨socket, s⟩
    match Session.close (after result), result with
    | .error f t, _ => .error f t.system
    | .ok () t, .error f _ => .error f t.system
    | .ok () t, .ok line _ => .ok line t.system

/-! ## 2. The verdict -/

/-- What is said of a line, and what is made of it. -/
def judge (order : Order) (line : String) : EStateM Refusal System Result := fun s =>
  let service := order.service.display
  let s := s.say .debug .probe
    s!"status line from {order.host}:{service}: {Quoted.quote line}"
  if StatusLine.startsWith line order.expected then
    match StatusLine.ofText line with
    | .ok status => .ok ⟨order.host, service, line, some status⟩ s
    | .error why =>
      .ok ⟨order.host, service, line, none⟩ (s.say .warning .probe
        s!"{order.host}:{service} sent an unparseable status line: {why.message}")
  else .error (.invalidLine line order.expected) s

/-- Checks a server. A request that cannot be written is refused before anything is done. -/
def check (order : Order) : EStateM Refusal System Result := fun s =>
  match order.request.toBytes with
  | .error why => .error (.request why) s
  | .ok data =>
    match exchange order data s with
    | .error f s => .error (.failed f) s
    | .ok line s => judge order line s

end HttpProbe.Check
