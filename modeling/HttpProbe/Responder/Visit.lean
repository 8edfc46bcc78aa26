import HttpProbe.Http.Head
import HttpProbe.Responder.Basic
import HttpProbe.Socket.Reading
import HttpProbe.Socket.Writing

/-!
# One connection

A connection is named by its peer, its request is read and noted, it gets the response, and then it
is closed, whatever happened before (`Visit.conclude`). An error of the network is said and
forgotten: a client may hang up when it has seen enough. Any other failure, and a failure to close,
ends the thread of the connection; the responder goes on.

The request is read up to a blank line (`readRequest`). Each reception adds to what was collected,
so there are never more than `Head.maxLength` of them.
-/

namespace HttpProbe.Responder

/-! ## 1. The request -/

/-- Receives until the octets so far are enough or the client sends no more. -/
def collect (s : Session) (collected : Bytes) : EStateM.Result Failure Session Bytes :=
  if _short : Head.isComplete collected then .ok collected s
  else
    match Socket.read Socket.readSize s with
    | .error f s => .error f s
    | .ok [] s => .ok collected s
    | .ok (b :: rest) s => collect s (collected ++ b :: rest)
termination_by Head.maxLength - collected.length
decreasing_by
  have := Head.length_lt_of_not_isComplete (by simpa using _short)
  simp only [List.length_append, List.length_cons]
  omega

/-- Reads a request, from the first octet on. -/
def readRequest : SocketM Bytes := fun s => collect s []

/-- Sends the response. -/
def reply (plan : Plan) : SocketM Nat := fun s =>
  match plan.response with
  | .error why => .error (.unwritable why) s
  | .ok data => Socket.write (.octets data) s

/-! ## 2. The visit -/

/-- What came of serving a connection, before it is closed. -/
structure Visit where
  /-- How messages name the client. -/
  client : String
  /-- The request, once it was read. -/
  received : Option Bytes
  outcome : Except Failure Unit
  session : Session

/-- Serves a connection. -/
def serve (plan : Plan) (s : Session) : Visit :=
  match Socket.endpoint .there s with
  | .error f s => ⟨"client", none, .error f, s⟩
  | .ok client s =>
    match readRequest (s.say .debug .responder s!"new client {client}") with
    | .error f s => ⟨client, none, .error f, s⟩
    | .ok data s =>
      match reply plan s with
      | .error f s => ⟨client, some data, .error f, s⟩
      | .ok _ s => ⟨client, some data, .ok (), s⟩

/-- Closes the connection. What is left is the failure that ends its thread, if there is one. -/
def Visit.conclude (v : Visit) : Option Failure × Session :=
  let (failure, s) : Option Failure × Session := match v.outcome with
    | .ok () => (none, v.session)
    | .error (.net e) =>
      (none, v.session.say .debug .responder s!"client {v.client}: {e.message}")
    | .error f => (some f, v.session)
  match Session.close s with
  | .ok () s => (failure, s)
  | .error f s => (some f, s)

end HttpProbe.Responder

namespace HttpProbe.Site

/-- A request is noted. -/
def record (data : Bytes) (s : Site) : Site :=
  { s with responder := { s.responder with
      requests := s.responder.requests.push (Head.firstLine data)
      received := s.responder.received.push data } }

/-- Serves a connection and notes what was asked. -/
def handle (connection : Socket) (s : Site) : Site :=
  let v := Responder.serve s.responder.plan ⟨connection, s.system⟩
  let (failure, t) := v.conclude
  { responder := { s.responder with
      requests := s.responder.requests ++ (v.received.map Head.firstLine).toArray
      received := s.responder.received ++ v.received.toArray }
    system := match failure with
      | none => t.system
      | some f => t.system.note (.threadEnded f) }

end HttpProbe.Site
