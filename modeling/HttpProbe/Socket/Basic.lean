import HttpProbe.Net.System

/-!
# Sockets

A `Socket` is the program's side of one connection or listener: what was received and not read yet,
whether the stream has ended, whether the socket was closed. A `Session` is a socket with the system
behind it, and `SocketM` is what runs in a session; an operation that fails keeps what happened
before it failed.

* `Session.close` closes the socket. The first call gives the descriptor back and every later call
  does nothing, so the descriptor is given back once, even when the system fails to do so;
* `Session.call` makes one call on the descriptor. If the reply says so, another thread closes the
  socket after the call was made and before it returns. The call comes to what the system says to
  it; an error of the closing is the other thread's;
* `guarded` shows failed calls as errors of the network, `bare` shows them as they are;
* `requireOpen` refuses an operation on a socket that is closed, before anything else happens.
-/

namespace HttpProbe

/-! ## 1. Sockets and sessions -/

/-- The program's side of a socket: what it was made with, what was received and not read yet,
whether the peer ended the stream, and whether the socket was closed. -/
structure Socket where
  descriptor : Descriptor
  family : Int := Constant.familyInet
  kind : Int := Constant.kindStream
  protocol : Int := 0
  buffer : Bytes := []
  ended : Bool := false
  closed : Bool := false

/-- How messages show the socket. -/
def Socket.display (s : Socket) : String :=
  let state := if s.closed then "closed" else s!"fd={s.descriptor.number}"
  s!"<TCPSocket {state} domain={s.family} type={s.kind}>"

/-- A socket with the system behind it. -/
structure Session where
  socket : Socket
  system : System

/-- What runs in a session and may fail. -/
abbrev SocketM (α : Type) : Type := EStateM Failure Session α

/-- A call to the system that runs in a session. -/
abbrev CallM (α : Type) : Type := EStateM SystemFailure Session α

namespace Session

/-- One thing more is said. -/
def say (s : Session) (level : Log.Level) (source : Log.Source) (message : String) : Session :=
  { s with system := s.system.say level source message }

/-- One more call on the descriptor was made. -/
def noteCall (s : Session) (operation : Operation) (answer : Answer) : Session :=
  { s with system := s.system.note (.called (.on s.socket.descriptor.number operation) answer) }

/-! ## 2. Closing -/

/-- Gives the descriptor back. -/
def release : EStateM SystemFailure Session Unit := fun s =>
  let r := s.socket.descriptor.script.takeClose
  let s := { s with socket.descriptor.script := r.2, socket.descriptor.dead := true }
  match r.1.outcome with
  | .failure f => .error f (s.noteCall .close (.failed f))
  | _ => .ok () (s.noteCall .close .done)

/-- Closes the socket. What was received and not read yet is dropped. -/
def close : SocketM Unit := fun s =>
  if s.socket.closed then .ok () s
  else
    match release { s with socket.closed := true, socket.buffer := [] } with
    | .ok () s => .ok () (s.say .debug .stream s!"closed {s.socket.display}")
    | .error f s => .error (.net (.ofSystem f)) s

/-- Another thread closes the socket. -/
def closeElsewhere (s : Session) : Session := after (close s)

/-! ## 3. Calls on the descriptor -/

/-- The session when the descriptor has said `r` to a call. -/
def replied {α : Type} (s : Session) (r : Descriptor.Response α) : Session :=
  { s with socket.descriptor := r.descriptor }

/-- The session when other threads made their wishes known. -/
def heard (s : Session) (m : Interference) : Session :=
  { s with system.stopAsked := s.system.stopAsked || m.stopping }

/-- The session after other threads did what `m` says. -/
def disturbed (s : Session) (m : Interference) : Session :=
  if m.closing then (s.heard m).closeElsewhere else s.heard m

/-- The session after a call to which the descriptor said `r`. -/
def afterCall {α : Type} (s : Session) (operation : Operation) (answer : Answer)
    (r : Descriptor.Response α) : Session :=
  ((s.replied r).noteCall operation answer).disturbed r.toInterference

/-- Makes one call on the descriptor: `take` takes the reply, `usual` is the result when the reply
leaves it to the system, and `data` tells what a result delivers. -/
def call {α : Type} (operation : Operation) (take : Script → Reply α × Script)
    (usual : Descriptor → Except SystemFailure α) (data : α → Answer) : CallM α := fun s =>
  let r := s.socket.descriptor.reply take usual
  match r.result with
  | .ok a => .ok a (s.afterCall operation (data a) r)
  | .error f => .error f (s.afterCall operation (.failed f) r)

/-- Makes one call that has no result. -/
def act (operation : Operation) (take : Script → Reply Unit × Script) : CallM Unit :=
  call operation take (fun _ => .ok ()) (fun _ => .done)

/-- The session after a call that is not on the descriptor. The call left `system`, and `r` is what
was taken of what other threads do. -/
def afterOutside (s : Session) (r : Interference × Script) (system : System) : Session :=
  { s with socket.descriptor.script := r.2, system }.disturbed r.1

/-- Makes a call to the system that is not on the descriptor; `take` takes what other threads do
meanwhile. -/
def outside {α : Type} (take : Script → Interference × Script) (x : EStateM SystemFailure System α) :
    CallM α := fun s =>
  match x s.system with
  | .ok a system => .ok a (s.afterOutside (take s.socket.descriptor.script) system)
  | .error f system => .error f (s.afterOutside (take s.socket.descriptor.script) system)

end Session

/-! ## 4. Operations -/

/-- Shows failed calls as errors of the network. -/
def guarded {α : Type} (x : CallM α) : SocketM α := x.adaptExcept fun f => .net (.ofSystem f)

/-- Shows failed calls as they are. -/
def bare {α : Type} (x : CallM α) : SocketM α := x.adaptExcept .system

/-- Refuses the operation on a socket that is closed. -/
def requireOpen (operation : String) : SocketM Unit := fun s =>
  if s.socket.closed then .error (.net (.closed operation)) s else .ok () s

/-- One thing more is said. -/
def say (level : Log.Level) (source : Log.Source) (message : String) : SocketM Unit :=
  modify fun s => s.say level source message

/-! ## 5. What closing leaves behind -/

/-- Closing touches nothing of the socket but what it is for: the buffer, the mark, and the
descriptor, of which the queue of `close` and the mark. -/
theorem Session.socket_closeElsewhere (s : Session) (h : s.socket.closed = false) :
    s.closeElsewhere.socket =
      { s.socket with
        closed := true, buffer := []
        descriptor := { s.socket.descriptor with
          script := s.socket.descriptor.script.takeClose.2, dead := true } } := by
  simp only [closeElsewhere, close, h, release]
  cases (s.socket.descriptor.script.takeClose).1.outcome <;> rfl

/-- A second closing does nothing. -/
theorem Session.close_of_closed {s : Session} (h : s.socket.closed = true) :
    close s = .ok () s := by
  simp [close, h]

theorem Session.closeElsewhere_of_closed {s : Session} (h : s.socket.closed = true) :
    s.closeElsewhere = s := by
  rw [closeElsewhere, close_of_closed h]
  rfl

/-- After it was closed a socket is closed, whether or not the system failed. -/
theorem Session.closed_closeElsewhere (s : Session) : s.closeElsewhere.socket.closed = true := by
  by_cases h : s.socket.closed = true
  · rw [closeElsewhere_of_closed h, h]
  · rw [socket_closeElsewhere s (by simpa using h)]

/-- Closing leaves what the peer is still to send as it is. -/
theorem Session.recv_closeElsewhere (s : Session) :
    s.closeElsewhere.socket.descriptor.script.recv = s.socket.descriptor.script.recv := by
  by_cases h : s.socket.closed = true
  · rw [closeElsewhere_of_closed h]
  · rw [socket_closeElsewhere s (by simpa using h)]
    rfl

/-- Closing leaves the connections that wait as they are. -/
theorem Session.accept_closeElsewhere (s : Session) :
    s.closeElsewhere.socket.descriptor.script.accept = s.socket.descriptor.script.accept := by
  by_cases h : s.socket.closed = true
  · rw [closeElsewhere_of_closed h]
  · rw [socket_closeElsewhere s (by simpa using h)]
    rfl

/-- Closing leaves the mark of the end of the stream as it is. -/
theorem Session.ended_closeElsewhere (s : Session) :
    s.closeElsewhere.socket.ended = s.socket.ended := by
  by_cases h : s.socket.closed = true
  · rw [closeElsewhere_of_closed h]
  · rw [socket_closeElsewhere s (by simpa using h)]

/-! ## 6. What a call leaves behind -/

namespace Session

variable {α : Type} {operation : Operation} {answer : Answer} {r : Descriptor.Response α}

/-- What the peer is still to send after a call is what the call left of it. -/
@[simp] theorem recv_afterCall (s : Session) :
    (s.afterCall operation answer r).socket.descriptor.script.recv = r.descriptor.script.recv := by
  unfold afterCall disturbed
  split
  · rw [recv_closeElsewhere]; rfl
  · rfl

/-- The connections that wait after a call are those that the call left. -/
@[simp] theorem accept_afterCall (s : Session) :
    (s.afterCall operation answer r).socket.descriptor.script.accept
      = r.descriptor.script.accept := by
  unfold afterCall disturbed
  split
  · rw [accept_closeElsewhere]; rfl
  · rfl

/-- A call leaves the mark of the end of the stream as it is. -/
@[simp] theorem ended_afterCall (s : Session) :
    (s.afterCall operation answer r).socket.ended = s.socket.ended := by
  unfold afterCall disturbed
  split
  · rw [ended_closeElsewhere]; rfl
  · rfl

/-- A call succeeds when it has a result, and there is nothing more to it than the note of the call
and what other threads did. -/
theorem call_eq_ok_iff {take : Script → Reply α × Script}
    {usual : Descriptor → Except SystemFailure α} {data : α → Answer} {s s' : Session} {a : α} :
    call operation take usual data s = .ok a s' ↔
      (s.socket.descriptor.reply take usual).result = .ok a ∧
        s' = s.afterCall operation (data a) (s.socket.descriptor.reply take usual) := by
  unfold call
  dsimp only
  cases h : (s.socket.descriptor.reply take usual).result with
  | error f => simp
  | ok b =>
    simp only [EStateM.Result.ok.injEq, Except.ok.injEq]
    constructor
    · rintro ⟨rfl, rfl⟩; exact ⟨rfl, rfl⟩
    · rintro ⟨rfl, rfl⟩; exact ⟨rfl, rfl⟩

/-- A call fails when it has no result. -/
theorem call_eq_error_iff {take : Script → Reply α × Script}
    {usual : Descriptor → Except SystemFailure α} {data : α → Answer} {s s' : Session}
    {f : SystemFailure} :
    call operation take usual data s = .error f s' ↔
      (s.socket.descriptor.reply take usual).result = .error f ∧
        s' = s.afterCall operation (.failed f) (s.socket.descriptor.reply take usual) := by
  unfold call
  dsimp only
  cases h : (s.socket.descriptor.reply take usual).result with
  | ok a => simp
  | error g =>
    simp only [EStateM.Result.error.injEq, Except.error.injEq]
    constructor
    · rintro ⟨rfl, rfl⟩; exact ⟨rfl, rfl⟩
    · rintro ⟨rfl, rfl⟩; exact ⟨rfl, rfl⟩

end Session

end HttpProbe
