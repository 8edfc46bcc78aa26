import HttpProbe.Log
import HttpProbe.Net.Script

/-!
# The system and its descriptors

* `Descriptor` is the system's side of one socket: its number, what it will still say, its two
  addresses, and whether it was given back;
* `Descriptor.reply` is what it says to one call. A descriptor that was given back refuses every
  call and uses no reply up;
* `System` is the rest: sockets to come, look-ups to come, the next number, and what was noted so
  far, which are the events in order and the log;
* the calls that need no descriptor: `System.create`, `System.lookUp`, `System.describe`.
-/

namespace HttpProbe

/-! ## 1. Runs -/

section Runs

variable {ε σ α : Type}

/-- The state after a run, however it ended. -/
def after : EStateM.Result ε σ α → σ
  | .ok _ s => s
  | .error _ s => s

/-- How a run ended, without the state. -/
def outcome : EStateM.Result ε σ α → Except ε α
  | .ok a _ => .ok a
  | .error e _ => .error e

end Runs

/-! ## 2. Descriptors -/

/-- The system's side of a socket; a descriptor is dead once it was given back. -/
structure Descriptor where
  number : Nat
  script : Script := {}
  localAddress : Address := ⟨"0.0.0.0", 0, []⟩
  peer : Option Address := none
  dead : Bool := false

/-- What a descriptor says to one call, the descriptor afterwards, and what other threads do
meanwhile. -/
structure Descriptor.Response (α : Type) extends Interference where
  result : Except SystemFailure α
  descriptor : Descriptor

/-- What the descriptor says to one call: `take` takes the reply, and `usual` is the result when
the reply leaves it to the system. -/
def Descriptor.reply {α : Type} (d : Descriptor) (take : Script → Reply α × Script)
    (usual : Descriptor → Except SystemFailure α) : Descriptor.Response α :=
  if d.dead then { result := .error .badDescriptor, descriptor := d }
  else
    let (r, script) := take d.script
    { result := match r.outcome with
        | .usual => usual d
        | .value a => .ok a
        | .failure f => .error f
      toInterference := r.toInterference
      descriptor := { d with script } }

/-- Only a descriptor that was not given back gives a result, and it then uses one reply up. -/
theorem Descriptor.reply_ok {α : Type} {d : Descriptor} {take : Script → Reply α × Script}
    {usual : Descriptor → Except SystemFailure α} {a : α} (h : (d.reply take usual).result = .ok a) :
    d.dead = false ∧ (d.reply take usual).descriptor.script = (take d.script).2 ∧
      ((take d.script).1.outcome = .value a ∨
        (take d.script).1.outcome = .usual ∧ usual d = .ok a) := by
  unfold reply at h ⊢
  cases hd : d.dead with
  | true => simp [hd] at h
  | false =>
    simp only [hd, Bool.false_eq_true, if_false] at h ⊢
    refine ⟨trivial, trivial, ?_⟩
    cases ho : (take d.script).1.outcome with
    | usual => exact .inr ⟨rfl, by simpa [ho] using h⟩
    | value b =>
      left
      simp only [ho, Except.ok.injEq] at h
      rw [h]
    | failure f => simp [ho] at h

/-- A descriptor that was not given back uses one reply up, whatever it says. -/
theorem Descriptor.script_reply {α : Type} {d : Descriptor} {take : Script → Reply α × Script}
    {usual : Descriptor → Except SystemFailure α} (h : d.dead = false) :
    (d.reply take usual).descriptor.script = (take d.script).2 := by
  simp [reply, h]

/-- A descriptor that was given back says so. -/
theorem Descriptor.reply_of_dead {α : Type} {d : Descriptor} {take : Script → Reply α × Script}
    {usual : Descriptor → Except SystemFailure α} (h : d.dead = true) :
    d.reply take usual = { result := .error .badDescriptor, descriptor := d } := by
  simp [reply, h]

/-- The answer that goes with a result; `data` tells what a result delivers. -/
def Answer.ofResult {α : Type} (data : α → Answer) : Except SystemFailure α → Answer
  | .ok a => data a
  | .error f => .failed f

/-! ## 3. The system -/

/-- The greatest count of octets that can be asked for at a time, and what is said of more. -/
structure SizeLimit where
  most : Nat
  refusal : String
  usual_le : 1024 ≤ most

/-- The system outside the sockets that are in use: what each socket to come will say, or why there
is none, the outcomes of the look-ups to come, the number of the next descriptor, whether another
thread asked the responder to stop, and what happened and was said so far. Last, what is never asked
of it: a host that cannot be written in the code of look-ups, with what is said of it, and too many
octets. -/
structure System where
  sockets : List (Except SystemFailure Script) := []
  lookUps : List (Outcome (List Address)) := []
  descriptions : List (Outcome (String × String)) := []
  nextNumber : Nat := 3
  stopAsked : Bool := false
  events : Array Event := #[]
  log : Array Log.Record := #[]
  badHost? : String → Option String := fun _ => none
  sizeLimit : Option SizeLimit := none

namespace System

/-- Whether so many octets can be asked for. -/
def takesSize (s : System) (size : Nat) : Bool := s.sizeLimit.all (size ≤ ·.most)

/-- What is said when more is asked for. -/
def sizeRefusal (s : System) : String := (s.sizeLimit.map SizeLimit.refusal).getD ""

/-- One thing more happened. -/
def note (s : System) (e : Event) : System := { s with events := s.events.push e }

/-- One thing more is said. -/
def say (s : System) (level : Log.Level) (source : Log.Source) (message : String) : System :=
  { s with log := s.log.push ⟨level, source, message⟩ }

/-- The next outcome of a queue and the queue after it. -/
def nextOutcome {α : Type} : List (Outcome α) → Outcome α × List (Outcome α)
  | [] => (.usual, [])
  | o :: rest => (o, rest)

/-! ## 4. Calls without a descriptor -/

/-- Makes a socket. A socket that cannot be made uses no number up. -/
def create (family kind protocol : Int) : EStateM SystemFailure System Descriptor := fun s =>
  let call := Call.socket family kind protocol
  let rest := s.sockets.tail
  match s.sockets.head?.getD (.ok {}) with
  | .error f => .error f ({ s with sockets := rest }.note (.called call (.failed f)))
  | .ok script =>
    .ok { number := s.nextNumber, script }
      ({ s with sockets := rest, nextNumber := s.nextNumber + 1 }.note (.called call .done))

/-- The port that the system knows a service by. -/
def portOf? (service : Option String) : Option Int :=
  match service with
  | none => some 0
  | some name =>
    let cs := name.toList
    if name = "http" then some 80
    else if !cs.isEmpty && cs.all Char.isDigit then some (NumberText.value cs)
    else none

/-- The addresses that the system finds when nothing else is said: the host itself. -/
def usualAddresses (host : String) (service : Option String) :
    Except SystemFailure (List Address) :=
  match portOf? service with
  | some port => .ok [⟨host, port, []⟩]
  | none => .error .serviceUnknown

/-- Looks addresses up. -/
def lookUp (host : String) (service : Option String) (family kind protocol : Int) :
    EStateM SystemFailure System (List Address) := fun s =>
  let (outcome, rest) := nextOutcome s.lookUps
  let result : Except SystemFailure (List Address) := match outcome with
    | .usual => usualAddresses host service
    | .value addresses => .ok addresses
    | .failure f => .error f
  let call := Call.getaddrinfo host service family kind protocol
  let answer := Answer.ofResult (fun _ => .done) result
  let s := { s with lookUps := rest }.note (.called call answer)
  match result with
  | .ok addresses => .ok addresses s
  | .error f => .error f s

/-- Looks the numeric host and service of an address up. -/
def describe (address : Address) : EStateM SystemFailure System (String × String) := fun s =>
  let (outcome, rest) := nextOutcome s.descriptions
  let result : Except SystemFailure (String × String) := match outcome with
    | .usual => .ok (address.host, toString address.port)
    | .value names => .ok names
    | .failure f => .error f
  let call := Call.getnameinfo address
  let answer := Answer.ofResult (fun _ => .done) result
  let s := { s with descriptions := rest }.note (.called call answer)
  match result with
  | .ok names => .ok names s
  | .error f => .error f s

end System

end HttpProbe
