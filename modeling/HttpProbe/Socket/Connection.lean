import HttpProbe.Socket.Naming

/-!
# Making connections

A socket is made (`Socket.create`), set up, and then either connects to a peer or binds to an
address, listens and accepts. `bind` and `connect` note the address that came of it, for which the
system is asked twice, once for the host and once for the port.

A timeout is set without a guard: a failure of the system to set it is shown as it is.
-/

namespace HttpProbe.Socket

/-! ## 1. Making and setting up -/

/-- Makes a socket. -/
def create (family kind protocol : Int) : EStateM Failure System Socket := fun s =>
  match System.create family kind protocol s with
  | .ok descriptor s => .ok { descriptor, family, kind, protocol } s
  | .error f s => .error (.net (.ofSystem f)) s

/-- A socket of the usual family and kind. -/
def createDefault : EStateM Failure System Socket :=
  create Constant.familyInet Constant.kindStream 0

/-- Tells the system how long a call may take. -/
def applyTimeout (seconds : Option Binary64) : CallM Unit :=
  Session.act (.setTimeout seconds) Script.takeSetTimeout

/-- Sets how long a call may take; nothing for as long as it likes. -/
def setTimeout (seconds : Option Binary64) : SocketM Unit := do
  requireOpen "settimeout"
  bare (applyTimeout seconds)

/-- Sets an option. -/
def setOption (level option value : Int) : SocketM Unit := do
  requireOpen "setsockopt"
  guarded (Session.act (.setOption level option value) Script.takeSetOption)

/-- The number of the descriptor; a descriptor that was given back has none. -/
def descriptorNumber : SocketM Int := do
  requireOpen "fileno"
  let d := (← get).socket.descriptor
  return if d.dead then -1 else d.number

/-- Shuts one way or both ways down. -/
def shutdown (how : Int) : SocketM Unit := do
  requireOpen "shutdown"
  guarded (Session.act (.shutdown how) Script.takeShutdown)

/-! ## 2. Connecting -/

/-- Connects to an address, which is the peer's from then on. -/
def attach (address : Address) : CallM Unit := do
  Session.act (.connect address) Script.takeConnect
  modify fun s => { s with socket.descriptor.peer := some address }

/-- Connects to a host and service; `timeout` is set before if there is one. -/
def connect (host : String) (service : Service) (timeout : Option Binary64) : SocketM Unit := do
  requireOpen "connect"
  let address ← resolve host service
  if timeout.isSome then bare (applyTimeout timeout)
  guarded (attach address)
  say .debug .socket s!"connected to {← endpoint .there}"

/-! ## 3. Listening -/

/-- How many connections may wait. -/
def listenBacklog : Int := 1024

/-- The port that the system picks when any port will do. -/
def freePort : Int := 49152

/-- Takes a local address. -/
def occupy (address : Address) : CallM Unit := do
  Session.act (.bind address) Script.takeBind
  let port := if address.port = 0 then freePort else address.port
  modify fun s => { s with socket.descriptor.localAddress := { address with port } }

/-- Takes the address of a host and service for its own. -/
def bind (host : String) (service : Service) : SocketM Unit := do
  requireOpen "bind"
  let address ← resolve host service
  guarded (occupy address)
  say .debug .socket s!"bound to {← endpoint .here}"

/-- Starts to wait for connections. -/
def listen (backlog : Int) : SocketM Unit := do
  requireOpen "listen"
  guarded (Session.act (.listen backlog) Script.takeListen)

/-! ## 4. Accepting -/

/-- The peer of a connection of which nothing is said. -/
def usualCaller : Caller Script := { script := {}, peer := ⟨"127.0.0.1", 50000, []⟩ }

/-- The descriptor of a connection that was taken: it has the next number and the listener's own
address. -/
def adopted (caller : Caller Script) (s : Session) : Descriptor where
  number := s.system.nextNumber
  script := caller.script
  localAddress := s.socket.descriptor.localAddress
  peer := caller.peer

/-- A connection that was just taken waits for as long as it likes, whatever the listener's timeout
is. Nobody else knows it yet, so nobody closes it meanwhile. -/
def unhurry (d : Descriptor) : EStateM SystemFailure System Descriptor := fun s =>
  let r := d.reply Script.takeSetTimeout fun _ => .ok ()
  let note := fun answer => s.note (.called (.on d.number (.setTimeout none)) answer)
  match r.result with
  | .ok () => .ok r.descriptor (note .done)
  | .error f => .error f (note (.failed f))

/-- Asks the system for the next connection. -/
def takeCaller : CallM (Caller Script) :=
  Session.call .accept Script.takeAccept (fun _ => .ok usualCaller) fun _ => .done

/-- Takes the next connection; nothing if none is waiting. The connection is of the listener's
family and kind. -/
def accept : SocketM (Option Socket) := fun s =>
  if s.socket.closed then .error (.net (.closed "accept")) s
  else if s.socket.descriptor.script.accept.isEmpty then .ok none s
  else
    match takeCaller s with
    | .error f s => .error (.net (.ofSystem f)) s
    | .ok caller s =>
      match unhurry (adopted caller s) { s.system with nextNumber := s.system.nextNumber + 1 } with
      | .error f system => .error (.system f) { s with system }
      | .ok descriptor system =>
        .ok (some { s.socket with descriptor, buffer := [], ended := false, closed := false })
          { s with system }

/-! ## 5. How many connections wait -/

/-- How many connections wait to be taken. -/
def waiting (s : Session) : Nat := s.socket.descriptor.script.accept.length

/-- A connection that was asked for waits no longer, unless the descriptor was given back. -/
theorem waiting_takeCaller {s : Session} (h : s.socket.descriptor.script.accept.isEmpty = false) :
    waiting (after (takeCaller s)) < waiting s ∨
      ∃ s', takeCaller s = .error .badDescriptor s' := by
  cases hd : s.socket.descriptor.dead with
  | true => exact .inr ⟨_, Session.call_eq_error_iff.2 ⟨by rw [Descriptor.reply_of_dead hd], rfl⟩⟩
  | false =>
    left
    have hs : (s.socket.descriptor.reply Script.takeAccept fun _ => .ok usualCaller).descriptor.script
        = (s.socket.descriptor.script.takeAccept).2 := Descriptor.script_reply hd
    have hlt : (s.socket.descriptor.script.takeAccept).2.accept.length < waiting s := by
      unfold waiting Script.takeAccept
      cases ha : s.socket.descriptor.script.accept with
      | nil => simp [ha] at h
      | cons r rest => simp [Reply.next]
    cases ht : takeCaller s with
    | ok caller t =>
      obtain ⟨_, rfl⟩ := Session.call_eq_ok_iff.1 ht
      simpa only [after, waiting, Session.accept_afterCall, hs] using hlt
    | error f t =>
      obtain ⟨_, rfl⟩ := Session.call_eq_error_iff.1 ht
      simpa only [after, waiting, Session.accept_afterCall, hs] using hlt

/-- A connection that was accepted waits no longer. -/
theorem waiting_accept_ok {s s' : Session} {c : Socket} (h : accept s = .ok (some c) s') :
    waiting s' < waiting s := by
  unfold accept at h
  split at h
  · simp at h
  · split at h
    · simp at h
    · rename_i _ hw
      have hlt := waiting_takeCaller (by simpa using hw)
      split at h
      · simp at h
      · rename_i caller t ht
        rw [ht] at hlt
        split at h
        · simp at h
        · simp only [EStateM.Result.ok.injEq] at h
          obtain ⟨_, rfl⟩ := h
          rcases hlt with hlt | ⟨_, he⟩
          · exact hlt
          · simp at he

/-- A connection that timed out waits no longer. -/
theorem waiting_accept_timeout {s s' : Session} {e : NetError}
    (h : accept s = .error (.net e) s') (he : e.isTimeout = true) : waiting s' < waiting s := by
  unfold accept at h
  split at h
  · simp only [EStateM.Result.error.injEq, Failure.net.injEq] at h
    obtain ⟨rfl, _⟩ := h
    exact absurd he (by decide)
  · split at h
    · simp at h
    · rename_i _ hw
      have hlt := waiting_takeCaller (by simpa using hw)
      split at h
      · rename_i f t ht
        simp only [EStateM.Result.error.injEq, Failure.net.injEq] at h
        obtain ⟨rfl, rfl⟩ := h
        rw [ht] at hlt
        rcases hlt with hlt | ⟨_, hb⟩
        · exact hlt
        · simp only [EStateM.Result.error.injEq] at hb
          obtain ⟨rfl, _⟩ := hb
          exact absurd he (by decide)
      · split at h <;> simp at h

end HttpProbe.Socket
