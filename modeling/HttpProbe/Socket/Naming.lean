import HttpProbe.Socket.Basic

/-!
# Addresses of a socket

The two ends of a connection, by numeric host and port. The system is asked for the address and then
for its names; a port that the system names must be a whole number. Addresses to bind or connect to
are looked up by host and service, and the first one found is taken (`resolve`); a host or a service
that cannot be written is not looked up at all (`unaskable?`).
-/

namespace HttpProbe.Socket

/-- The end of a connection that is asked for. -/
inductive End where
  | here
  | there
  deriving DecidableEq

/-- Asks the system for the address of an end. -/
def addressOf : End → CallM Address
  | .here =>
    Session.call .getsockname Script.takeGetsockname (fun d => .ok d.localAddress) fun _ => .done
  | .there =>
    Session.call .getpeername Script.takeGetpeername
      (fun d => match d.peer with
        | some address => .ok address
        | none => .error .notConnected)
      fun _ => .done

/-- The numeric host and the port of an end. -/
def nameOf (e : End) : SocketM (String × Int) := do
  requireOpen "getsockname"
  let (host, service) ← guarded do
    Session.outside Script.takeDescribe (System.describe (← addressOf e))
  match Whole.read service with
  | .ok port => return (host, port)
  | .error why => throw (.badPort why)

/-- The numeric host of an end. -/
def hostOf (e : End) : SocketM String := return (← nameOf e).1

/-- The port of an end. -/
def portOf (e : End) : SocketM Int := return (← nameOf e).2

/-- Both in one text. -/
def endpoint (e : End) : SocketM String := do
  let host ← hostOf e
  let port ← portOf e
  return s!"{host}:{port}"

/-- Whether the socket is open and has a peer. -/
def isConnected : SocketM Bool := fun s =>
  if s.socket.closed then .ok false s
  else
    match addressOf .there s with
    | .ok _ s => .ok true s
    | .error _ s => .ok false s

/-- Why the system cannot be asked for a host and service, if it cannot. -/
def unaskable? (s : System) (host : String) (service : Service) : Option Failure :=
  if service.isWritten then (s.badHost? host).map .badHost else some (.unwritable .number)

/-- The first of the addresses that were found. -/
def firstOf : List Address → SocketM Address
  | address :: _ => return address
  | [] => throw .noAddress

/-- The first address of a host and service. -/
def resolve (host : String) (service : Service) : SocketM Address := do
  let s ← get
  match unaskable? s.system host service with
  | some f => throw f
  | none =>
    firstOf (← guarded (Session.outside Script.takeLookUp
      (System.lookUp host service.text? s.socket.family s.socket.kind s.socket.protocol)))

end HttpProbe.Socket
