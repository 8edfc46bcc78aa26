import HttpProbe.Probe.Command
import Std.Async.DNS
import Std.Async.TCP
import Std.Async.Timer
import Std.Time.Format

/-!
# The program

Runs the command on the real network. The command is a function of what the system will say, so the
program plays it from the start again and again. Each time it comes to a call that the system has
not answered yet, the call is made and its answer becomes the next reply of the script; as the
command does the same whenever it is told the same, everything before that call repeats itself. When
no call is left without an answer the report is printed.
-/

namespace HttpProbe.Live

open Std.Async

/-- What the system has said so far, and the connection that it said it of. -/
structure Network where
  /-- What it said of names. -/
  system : System := {}
  /-- What it said of the socket, once there is one. -/
  script : Script := {}
  client : Option TCP.Socket.Client := none
  timeout : Option Binary64 := none

/-- What the system will say when the command is played again. -/
def Network.replay (n : Network) : System :=
  { n.system with sockets := n.system.sockets.map fun
      | .ok _ => .ok n.script
      | .error f => .error f }

/-- The number and the text of an error of the runtime. The runtime counts errors of the network
downwards from zero. -/
def reasonOf : IO.Error → Cause
  | .alreadyExists _ code text | .resourceExhausted _ code text | .invalidArgument _ code text
  | .permissionDenied _ code text | .inappropriateType _ code text | .noSuchThing _ code text
  | .otherError code text | .resourceBusy code text | .resourceVanished code text
  | .unsupportedOperation code text | .hardwareFault code text
  | .unsatisfiedConstraints code text | .illegalOperation code text
  | .protocolError code text | .timeExpired code text
  | .interrupted _ code text | .noFileOrDirectory _ code text =>
    .numbered (some code.toInt32.toInt.natAbs) (some text)
  | .unexpectedEof => .unspecified
  | .userError text => .described text

/-- An error of the runtime as a failure of a call. -/
def failureOf (e : IO.Error) : SystemFailure := .call (reasonOf e)

/-- An error of the runtime as a failure of a look-up of names. -/
def lookupFailureOf (e : IO.Error) : SystemFailure :=
  .lookup ((reasonOf e).errno?.map (-·)) (reasonOf e).text?

/-- What a call comes to. -/
def outcomeOf {α : Type} (x : IO α) (failure : IO.Error → SystemFailure) : IO (Outcome α) := do
  try
    return .value (← x)
  catch e => return .failure (failure e)

/-- Waits for a call for as long as it may take. -/
def limited {α : Type} [Inhabited α] (timeout : Option Binary64) (x : Async α) : IO α :=
  match timeout with
  | none => x.block
  | some seconds =>
    let milliseconds := (Float.ofBits seconds.bits * 1000).toUInt64.toNat
    let late : Async α := do
      sleep (.ofNat milliseconds)
      throw (IO.Error.timeExpired 110 "Operation timed out")
    (Async.race x late).block

/-- Makes a call on the connection. -/
def Network.withClient {α : Type} (n : Network) (x : TCP.Socket.Client → IO α) : IO (Outcome α) :=
  match n.client with
  | some client => outcomeOf (x client) failureOf
  | none => return .failure .badDescriptor

/-- The addresses of a host. -/
def addressesOf (host : String) (port : Int) : IO (List Address) := do
  let found ← (DNS.getAddrInfo host "" (some .ipv4)).block
  return found.toList.map fun ip => ⟨ip.toString, port, []⟩

/-- Connects to an address. -/
def connect (timeout : Option Binary64) (address : Address) (client : TCP.Socket.Client) :
    IO Unit := do
  let some ip := Std.Net.IPv4Addr.ofString address.host
    | throw (IO.userError "address family not supported")
  limited timeout (client.connect (.v4 ⟨ip, address.port.toNat.toUInt16⟩))

/-- Makes a call and notes its answer. -/
def Network.perform (n : Network) : Call → IO Network
  | .socket .. => do
    let client ← outcomeOf TCP.Socket.Client.mk failureOf
    match client with
    | .value c =>
      return { n with system.sockets := n.system.sockets ++ [.ok {}], client := some c }
    | .failure f => return { n with system.sockets := n.system.sockets ++ [.error f] }
    | .usual => return n
  | .getaddrinfo host service .. => do
    let found ← match System.portOf? service with
      | some port => outcomeOf (addressesOf host port) lookupFailureOf
      | none => pure (.failure .serviceUnknown)
    return { n with system.lookUps := n.system.lookUps ++ [found] }
  | .getnameinfo _ =>
    return { n with system.descriptions := n.system.descriptions ++ [.usual] }
  | .on _ operation => do
    let s := n.script
    match operation with
    | .setTimeout timeout =>
      return { n with timeout, script.setTimeout := s.setTimeout ++ [{}] }
    | .connect address => do
      let outcome ← n.withClient (connect n.timeout address)
      return { n with script.connect := s.connect ++ [{ outcome }] }
    | .sendAll data => do
      let octets := ByteArray.mk data.toArray
      let outcome ← n.withClient fun client => limited n.timeout (client.send octets)
      return { n with script.sendAll := s.sendAll ++ [{ outcome }] }
    | .recv size => do
      let outcome ← n.withClient fun client => do
        let data ← limited n.timeout (client.recv? size.toUInt64)
        return (data.map fun octets => octets.data.toList).getD []
      return { n with script.recv := s.recv ++ [{ outcome }] }
    | .getpeername => return { n with script.getpeername := s.getpeername ++ [{}] }
    | .close => return { n with client := none, script.close := s.close ++ [{}] }
    | _ => return n

/-- Plays the command until no call is left without an answer, and gives the number to end with. -/
partial def play (clock : String) (env : Environment) (words : List String) (answered : Nat)
    (n : Network) : IO UInt32 := do
  let (report, s) := Command.run clock env words n.replay
  match s.events[answered]? with
  | some (.called call _) => play clock env words (answered + 1) (← n.perform call)
  | _ =>
    IO.eprint report.text
    match report.ending with
    | .exit number => return number.toNat.toUInt32
    | .failed f =>
      IO.eprintln f.message
      return 1

/-- The program's variables of the environment. -/
def environment : IO Environment := do
  let mut env := []
  for name in Settings.names do
    let name := Settings.variablePrefix ++ name
    if let some value ← IO.getEnv name then
      env := env ++ [(name, value)]
  return env

end HttpProbe.Live

/-- Runs the command with the words of the command line. -/
def main (words : List String) : IO UInt32 := do
  let clock := (← Std.Time.PlainTime.now).format "HH:mm:ss"
  HttpProbe.Live.play clock (← HttpProbe.Live.environment) words 0 {}
