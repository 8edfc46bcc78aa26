import HttpProbe.Responder.Lifecycle

/-!
# Visits at the same time

Each connection that is taken gets a thread of its own, and nothing says in which order the threads
go on. In a `House`, which is a site with the threads of its visits, they take turns: a turn is one
step of a visit, one round of an accept loop, or what is done from outside (`House.take`), and turns
come in any order.

A visit makes one step for each look-up of its client's name, for each reception, for noting what
was asked, for the response and for closing (`Stage.step`). Where each visit makes its steps as soon
as it has started, it is `Site.handle`.
-/

namespace HttpProbe

namespace Responder

/-! ## 1. Visits -/

/-- How far a visit has come: the client is unknown, or its host is known, or its name is, and with
it what was received so far, and then what was asked. -/
inductive Stage where
  | arrived
  | located (host : String)
  | reading (client : String) (collected : Bytes)
  | asked (client : String) (data : Bytes)
  | noted (client : String) (data : Bytes)
  /-- Nothing is left but to close the connection. -/
  | leaving (client : String) (received : Option Bytes) (outcome : Except Failure Unit)
  | gone (received : Option Bytes)

namespace Stage

/-- The request that the next step notes. -/
def notes? : Stage → Option Bytes
  | asked _ data => some data
  | _ => none

/-- One step of a visit, but for the note. -/
def step (plan : Plan) : Stage → Session → Stage × Session
  | arrived, s =>
    match Socket.hostOf .there s with
    | .error f s => (leaving "client" none (.error f), s)
    | .ok host s => (located host, s)
  | located host, s =>
    match Socket.portOf .there s with
    | .error f s => (leaving "client" none (.error f), s)
    | .ok port s =>
      let client := s!"{host}:{port}"
      (reading client [], s.say .debug .responder s!"new client {client}")
  | reading client collected, s =>
    if Head.isComplete collected then (asked client collected, s)
    else
      match Socket.read Socket.readSize s with
      | .error f s => (leaving client none (.error f), s)
      | .ok [] s => (asked client collected, s)
      | .ok data s => (reading client (collected ++ data), s)
  | asked client data, s => (noted client data, s)
  | noted client data, s =>
    match reply plan s with
    | .error f s => (leaving client (some data) (.error f), s)
    | .ok _ s => (leaving client (some data) (.ok ()), s)
  | leaving client received outcome, s =>
    match Visit.conclude ⟨client, received, outcome, s⟩ with
    | (none, s) => (gone received, s)
    | (some f, s) => (gone received, { s with system := s.system.note (.threadEnded f) })
  | gone received, s => (gone received, s)

end Stage

/-- The thread of a visit. -/
structure Guest where
  connection : Socket
  stage : Stage

end Responder

/-! ## 2. Turns -/

/-- A site with the threads of its visits, in the order in which they were started. -/
structure House where
  site : Site
  guests : List Responder.Guest := []

/-- Whose turn it is. Accept loops and guests have numbers, in the order in which they
were started. -/
inductive Turn where
  | start
  | stop
  | offer (callers : List (Reply (Caller Script)))
  | accept (loop : Nat)
  | visit (guest : Nat)

/-- The site with one more request noted, if there is one. -/
def Site.noting (data : Option Bytes) (s : Site) : Site :=
  match data with
  | some data => s.record data
  | none => s

namespace House

/-- The house when guest `n` has come to a stage in a session. -/
def withGuest (n : Nat) (r : Responder.Stage × Session) (h : House) : House where
  site := { h.site with system := r.2.system }
  guests := h.guests.set n ⟨r.2.socket, r.1⟩

/-- The session of a guest. -/
def session (h : House) (g : Responder.Guest) : Session := ⟨g.connection, h.site.system⟩

/-- The next step of guest `n`, who notes what it is to note. -/
def visit (n : Nat) (h : House) : House :=
  match h.guests[n]? with
  | none => h
  | some g =>
    { h with site := h.site.noting g.stage.notes? }.withGuest n
      (g.stage.step h.site.responder.plan (h.session g))

/-- One round of an accept loop. The connection that it takes gets a thread of its own. -/
def accept (loop : Nat) (h : House) : House :=
  if loop ∈ h.site.responder.unfinished then
    match h.site.acceptOnce with
    | .ends pause s => { h with site := Site.settle loop (pause, s) }
    | .again s => { h with site := s }
    | .taken connection s => { site := s, guests := h.guests ++ [⟨connection, .arrived⟩] }
  else h

/-- The house after a turn. -/
def take (h : House) : Turn → House
  | .start => { h with site := after (Site.start h.site) }
  | .stop => { h with site := after (Site.stop h.site) }
  | .offer callers => { h with site := h.site.offer callers }
  | .accept loop => h.accept loop
  | .visit n => h.visit n

/-- The house after some turns. -/
def takes (h : House) (turns : List Turn) : House := turns.foldl take h

end House

end HttpProbe
