import HttpProbe.Net.Call

/-!
# Scripts: what the system will say

The operating system is given by what it will say. For every call a descriptor has a queue of
replies (`Script`), and a call takes the next one; a queue that has run out gives the usual reply
for ever. A reply may also say what other threads do while the call is under way (`Interference`):
one closes the socket, or one asks the responder to stop. Look-ups of names are no calls on a
descriptor, and the system answers them; a script says only what other threads do to the socket
meanwhile.

The queue of `recv` holds what the peer sends, and of a peer that sends for ever any number of first
replies. A reply with more octets than were asked for is given in parts: the rest stays at the head
of the queue (`Script.takeRecv`).
-/

namespace HttpProbe

/-! ## 1. Replies -/

/-- What a call comes to; `usual` is what the system does when nothing else is said. -/
inductive Outcome (α : Type) where
  | usual
  | value (a : α)
  | failure (f : SystemFailure)

/-- What other threads do while a call is under way: one closes the socket, one asks the responder
to stop. -/
structure Interference where
  closing : Bool := false
  stopping : Bool := false

/-- What other threads do during the next call, and during those after it. -/
def Interference.next : List Interference → Interference × List Interference
  | [] => ({}, [])
  | m :: rest => (m, rest)

/-- The reply to one call, and what other threads do meanwhile. -/
structure Reply (α : Type) extends Interference where
  outcome : Outcome α := .usual

/-- The next reply of a queue and the queue after it. -/
def Reply.next {α : Type} : List (Reply α) → Reply α × List (Reply α)
  | [] => ({}, [])
  | r :: rest => (r, rest)

/-! ## 2. Scripts -/

/-- A connection that waits to be taken: what its descriptor will say, and its peer. -/
structure Caller (Script : Type) where
  script : Script
  peer : Address

/-- What a descriptor will say: a queue of replies for every call, and for the look-ups that are
made for it what other threads do. -/
structure Script where
  setTimeout : List (Reply Unit) := []
  setOption : List (Reply Unit) := []
  bind : List (Reply Unit) := []
  listen : List (Reply Unit) := []
  connect : List (Reply Unit) := []
  send : List (Reply Int) := []
  sendAll : List (Reply Unit) := []
  recv : List (Reply Bytes) := []
  getsockname : List (Reply Address) := []
  getpeername : List (Reply Address) := []
  shutdown : List (Reply Unit) := []
  close : List (Reply Unit) := []
  accept : List (Reply (Caller Script)) := []
  lookUp : List Interference := []
  describe : List Interference := []

instance : Inhabited Script := ⟨{}⟩

namespace Script

/-! Each of these takes the next reply of one queue. -/

def takeSetTimeout (s : Script) : Reply Unit × Script :=
  ((Reply.next s.setTimeout).1, { s with setTimeout := (Reply.next s.setTimeout).2 })

def takeSetOption (s : Script) : Reply Unit × Script :=
  ((Reply.next s.setOption).1, { s with setOption := (Reply.next s.setOption).2 })

def takeBind (s : Script) : Reply Unit × Script :=
  ((Reply.next s.bind).1, { s with bind := (Reply.next s.bind).2 })

def takeListen (s : Script) : Reply Unit × Script :=
  ((Reply.next s.listen).1, { s with listen := (Reply.next s.listen).2 })

def takeConnect (s : Script) : Reply Unit × Script :=
  ((Reply.next s.connect).1, { s with connect := (Reply.next s.connect).2 })

def takeSend (s : Script) : Reply Int × Script :=
  ((Reply.next s.send).1, { s with send := (Reply.next s.send).2 })

def takeSendAll (s : Script) : Reply Unit × Script :=
  ((Reply.next s.sendAll).1, { s with sendAll := (Reply.next s.sendAll).2 })

def takeGetsockname (s : Script) : Reply Address × Script :=
  ((Reply.next s.getsockname).1, { s with getsockname := (Reply.next s.getsockname).2 })

def takeGetpeername (s : Script) : Reply Address × Script :=
  ((Reply.next s.getpeername).1, { s with getpeername := (Reply.next s.getpeername).2 })

def takeShutdown (s : Script) : Reply Unit × Script :=
  ((Reply.next s.shutdown).1, { s with shutdown := (Reply.next s.shutdown).2 })

def takeClose (s : Script) : Reply Unit × Script :=
  ((Reply.next s.close).1, { s with close := (Reply.next s.close).2 })

def takeAccept (s : Script) : Reply (Caller Script) × Script :=
  ((Reply.next s.accept).1, { s with accept := (Reply.next s.accept).2 })

/-- What other threads do during the next look-up of addresses. -/
def takeLookUp (s : Script) : Interference × Script :=
  ((Interference.next s.lookUp).1, { s with lookUp := (Interference.next s.lookUp).2 })

/-- What other threads do during the next look-up of a name. -/
def takeDescribe (s : Script) : Interference × Script :=
  ((Interference.next s.describe).1, { s with describe := (Interference.next s.describe).2 })

/-- Takes at most `size` octets of the next reply to `recv`; what is left of it stays in the queue,
without what other threads did. -/
def takeRecv (size : Nat) (s : Script) : Reply Bytes × Script :=
  let (r, rest) := Reply.next s.recv
  match r.outcome with
  | .value data =>
    ({ r with outcome := .value (data.take size) },
      { s with
        recv := if data.length ≤ size then rest else { outcome := .value (data.drop size) } :: rest })
  | _ => (r, { s with recv := rest })

/-! ## 3. What is still to come -/

/-- The octets that a reply delivers. -/
def octets (r : Reply Bytes) : Bytes :=
  match r.outcome with
  | .value data => data
  | _ => []

/-- How much there is still to take: every reply and every octet counts. -/
def weight (s : Script) : Nat := s.recv.foldr (fun r n => (octets r).length + 1 + n) 0

/-- Taking never adds to what there is to take. -/
theorem weight_takeRecv_le (size : Nat) (s : Script) :
    (s.takeRecv size).2.weight ≤ s.weight := by
  unfold takeRecv
  cases hr : s.recv with
  | nil => simp [Reply.next, weight, hr]
  | cons r rest =>
    cases ho : r.outcome with
    | value data =>
      by_cases hl : data.length ≤ size
      · simp [Reply.next, ho, hl, weight, hr]
      · simp [Reply.next, ho, hl, weight, hr, octets]
    | usual => simp [Reply.next, ho, weight, hr]
    | failure f => simp [Reply.next, ho, weight, hr]

/-- A reply with octets in it leaves less to take. -/
theorem weight_takeRecv_lt {size : Nat} {s : Script} (hs : 0 < size)
    (h : octets (s.takeRecv size).1 ≠ []) : (s.takeRecv size).2.weight < s.weight := by
  revert h
  unfold takeRecv
  cases hr : s.recv with
  | nil => simp [Reply.next, octets]
  | cons r rest =>
    cases ho : r.outcome with
    | value data =>
      intro _
      by_cases hl : data.length ≤ size
      · simp [Reply.next, ho, hl, weight, hr]
      · simp [Reply.next, ho, hl, weight, hr, octets]
        omega
    | usual => simp [Reply.next, ho, octets]
    | failure f => simp [Reply.next, ho, octets]

end Script

end HttpProbe
