import HttpProbe.Bytes
import HttpProbe.Net.Address
import HttpProbe.Net.Failure
import HttpProbe.Number.Binary64

/-!
# Calls to the operating system

Everything that the program does outside itself is a call to the operating system. This file fixes
what the calls are and what is noted of them:

* `Operation` is a call on a descriptor, `Call` any call, with all its arguments;
* `Answer` is what came of a call, as far as it decides what the program does next: octets that were
  delivered, a failure, or plain success;
* `Event` is one thing that happened, in the order in which it happened: a call with its answer, or
  the end of a thread by a failure.
-/

namespace HttpProbe

/-! ## 1. The system's constants -/

namespace Constant

/-- Any address family. -/
def familyUnspecified : Int := 0
/-- The family of four-octet addresses. -/
def familyInet : Int := 2
/-- The family of sixteen-octet addresses. -/
def familyInet6 : Int := 10
/-- A socket that carries a stream. -/
def kindStream : Int := 1
/-- A socket that carries single messages. -/
def kindDatagram : Int := 2
/-- The protocol of streams. -/
def protocolTcp : Int := 6
/-- The level of options that hold for any socket. -/
def levelSocket : Int := 1
/-- The option to bind to an address that was in use. -/
def reuseAddress : Int := 2
/-- The option to keep a silent connection alive. -/
def keepAlive : Int := 9
/-- The option to send small segments at once. -/
def noDelay : Int := 1
/-- Shuts down what comes in. -/
def shutdownRead : Int := 0
/-- Shuts down what goes out. -/
def shutdownWrite : Int := 1
/-- Shuts down both ways. -/
def shutdownBoth : Int := 2

end Constant

/-! ## 2. Calls -/

/-- A call on a descriptor. -/
inductive Operation where
  /-- Sets how long a call may take; nothing for as long as it likes. -/
  | setTimeout (seconds : Option Binary64)
  | setOption (level option value : Int)
  | bind (address : Address)
  | listen (backlog : Int)
  | accept
  | connect (address : Address)
  | send (data : Bytes)
  | sendAll (data : Bytes)
  | recv (size : Nat)
  | getsockname
  | getpeername
  | shutdown (how : Int)
  | close
  deriving DecidableEq

/-- A call to the operating system. -/
inductive Call where
  | socket (family kind protocol : Int)
  | getaddrinfo (host : String) (service : Option String) (family kind protocol : Int)
  | getnameinfo (address : Address)
  | on (descriptor : Nat) (operation : Operation)
  deriving DecidableEq

/-! ## 3. Events -/

/-- What comes of a call. -/
inductive Answer where
  | done
  /-- These octets were delivered; none at the end of the stream. -/
  | delivered (data : Bytes)
  | failed (f : SystemFailure)
  deriving DecidableEq

/-- One thing that happened. -/
inductive Event where
  | called (call : Call) (answer : Answer)
  /-- A failure that nobody handled ended a thread. -/
  | threadEnded (failure : Failure)
  deriving DecidableEq

/-- The octets that an event delivered. -/
def Event.delivered : Event → Bytes
  | called _ (.delivered data) => data
  | _ => []

/-- Whether the event is a call that failed. -/
def Event.isFailedCall : Event → Bool
  | called _ (.failed _) => true
  | _ => false

end HttpProbe
