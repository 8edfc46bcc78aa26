import Mathlib.Logic.Relation
import HttpProbe.Proofs.Connecting

/-!
# The steps of an operation

Every operation on a socket is made of a few kinds of steps: a call on the descriptor, during which
another thread may close the socket, a look-up, a word to the log, a change of what the socket
holds. Here this is said once for each operation, so that what a step keeps is kept by all of them:

* `Script.RepliesTo`: the queue that a call takes its reply from;
* `Session.Step may s t`, `Session.Steps may s t`: one step, and any number of them. `may` says on
  which sessions which calls are made;
* `Stepwise may x`: every run of `x` is made of such steps, with `Stepwise.bind` for one operation
  after the other and `Stepwise.ofOpen` for one that is refused on a closed socket;
* `stepwise_nameOf`, `stepwise_read` and their like: the operations, each with the calls that it may
  make. A call right after the guard is made on an open socket only; a later one may find the socket
  closed by another thread.
-/

namespace HttpProbe

/-! ## 1. Replies -/

/-- A call of this operation takes its reply by this function. -/
inductive Script.RepliesTo : Operation → {α : Type} → (Script → Reply α × Script) → Prop where
  | setTimeout (seconds : Option Binary64) : RepliesTo (.setTimeout seconds) takeSetTimeout
  | setOption (level option value : Int) : RepliesTo (.setOption level option value) takeSetOption
  | bind (address : Address) : RepliesTo (.bind address) takeBind
  | listen (backlog : Int) : RepliesTo (.listen backlog) takeListen
  | accept : RepliesTo .accept takeAccept
  | connect (address : Address) : RepliesTo (.connect address) takeConnect
  | send (data : Bytes) : RepliesTo (.send data) takeSend
  | sendAll (data : Bytes) : RepliesTo (.sendAll data) takeSendAll
  | recv (size : Nat) : RepliesTo (.recv size) (takeRecv size)
  | getsockname : RepliesTo .getsockname takeGetsockname
  | getpeername : RepliesTo .getpeername takeGetpeername
  | shutdown (how : Int) : RepliesTo (.shutdown how) takeShutdown

/-! ## 2. Steps -/

/-- On which sessions which calls are made. -/
abbrev Permit := Session → Operation → Prop

namespace Session

/-- One step of what is done with the socket of a session. -/
inductive Step (may : Permit) (s : Session) : Session → Prop where
  /-- A call on the descriptor, during which another thread may close the socket. -/
  | call {α : Type} {operation : Operation} {answer : Answer} {take : Script → Reply α × Script}
      {usual : Descriptor → Except SystemFailure α} (hmay : may s operation)
      (htake : Script.RepliesTo operation take) :
    Step may s (s.afterCall operation answer (s.socket.descriptor.reply take usual))
  | close (hmay : may s .close) : Step may s s.closeElsewhere
  /-- Addresses are looked up. Another thread may close the socket meanwhile, as in a call. -/
  | lookUp {host : String} {service : Option String} {family kind protocol : Int} {answer : Answer} :
    Step may s (s.afterOutside s.socket.descriptor.script.takeLookUp
      ({ s.system with lookUps := (System.nextOutcome s.system.lookUps).2 }.note
        (.called (.getaddrinfo host service family kind protocol) answer)))
  | describe {address : Address} {answer : Answer} :
    Step may s (s.afterOutside s.socket.descriptor.script.takeDescribe
      ({ s.system with descriptions := (System.nextOutcome s.system.descriptions).2 }.note
        (.called (.getnameinfo address) answer)))
  | say (source : Log.Source) (message : String) : Step may s (s.say .debug source message)
  /-- What was received and not read yet changes, or the end of the stream is noted. -/
  | store (buffer : Bytes) (ended : Bool) :
    Step may s { s with socket := { s.socket with buffer, ended } }
  /-- The socket has a peer from now on. -/
  | attach {address : Address} (hmay : ∃ t, may t (.connect address)) :
    Step may s { s with socket.descriptor.peer := some address }
  /-- The socket has an address of its own from now on. -/
  | occupy {address localAddress : Address} (hmay : ∃ t, may t (.bind address)) :
    Step may s { s with socket.descriptor.localAddress := localAddress }
  /-- A connection that was accepted is told to wait for as long as it likes. -/
  | adopt {answer : Answer} (hmay : ∃ t, may t .accept) :
    Step may s { s with
      system := { s.system with nextNumber := s.system.nextNumber + 1 }.note
        (.called (.on s.system.nextNumber (.setTimeout none)) answer) }

/-- Any number of steps. -/
abbrev Steps (may : Permit) : Session → Session → Prop := Relation.ReflTransGen (Step may)

/-- What every step keeps is kept by any number of them. -/
theorem Steps.keep {may : Permit} {R : Session → Session → Prop} (hrefl : ∀ s, R s s)
    (htrans : ∀ {s t u}, R s t → R t u → R s u) (hstep : ∀ {s t}, Step may s t → R s t)
    {s t : Session} (h : Steps may s t) : R s t := by
  induction h with
  | refl => exact hrefl s
  | tail _ h ih => exact htrans ih (hstep h)

end Session

/-! ## 3. Runs -/

/-- Every run of `x` is made of steps that `may` allows. -/
structure Stepwise {ε α : Type} (may : Permit) (x : EStateM ε Session α) : Prop where
  steps : ∀ s : Session, Session.Steps may s (after (x s))

section Runs

variable {may : Permit} {ε ε' α β : Type} {x : EStateM ε Session α} {s : Session}

open Session

theorem Stepwise.of_ok (hx : Stepwise may x) {a : α} {t : Session} (h : x s = .ok a t) :
    Steps may s t := by
  have hs := hx.steps s
  rw [h] at hs
  exact hs

theorem Stepwise.of_error (hx : Stepwise may x) {e : ε} {t : Session} (h : x s = .error e t) :
    Steps may s t := by
  have hs := hx.steps s
  rw [h] at hs
  exact hs

theorem steps_bind {k : α → EStateM ε Session β} (hx : Steps may s (after (x s)))
    (hk : ∀ a, Stepwise may (k a)) : Steps may s (after ((x >>= k) s)) := by
  cases hr : x s with
  | error e t =>
    rw [bind_of_error hr]
    rw [hr] at hx
    exact hx
  | ok a t =>
    rw [bind_of_ok hr]
    rw [hr] at hx
    exact hx.trans ((hk a).steps t)

/-- **One operation after the other.** -/
theorem Stepwise.bind {k : α → EStateM ε Session β} (hx : Stepwise may x)
    (hk : ∀ a, Stepwise may (k a)) : Stepwise may (x >>= k) :=
  ⟨fun s => steps_bind (hx.steps s) hk⟩

theorem stepwise_pure (a : α) : Stepwise may (pure a : EStateM ε Session α) :=
  ⟨fun _ => .refl⟩

theorem stepwise_throw (e : ε) : Stepwise may (throw e : EStateM ε Session α) :=
  ⟨fun _ => .refl⟩

theorem stepwise_get : Stepwise may (get : EStateM ε Session Session) :=
  ⟨fun _ => .refl⟩

theorem stepwise_say (source : Log.Source) (message : String) :
    Stepwise may (say .debug source message) :=
  ⟨fun _ => .single (.say source message)⟩

theorem stepwise_requireOpen (operation : String) : Stepwise may (requireOpen operation) := by
  refine ⟨fun s => ?_⟩
  unfold requireOpen
  split <;> exact .refl

/-- An operation that is refused on a closed socket is made of what it does on an open one. -/
theorem Stepwise.ofOpen {operation : String} {k : Unit → SocketM β}
    (h : ∀ s : Session, s.socket.closed = false → Steps may s (after (k () s))) :
    Stepwise may (requireOpen operation >>= k) := by
  refine ⟨fun s => ?_⟩
  cases hc : s.socket.closed with
  | true =>
    rw [bind_of_error (requireOpen_of_closed hc operation)]
    exact .refl
  | false =>
    rw [bind_of_ok (requireOpen_of_open hc operation)]
    exact h s hc

theorem steps_adaptExcept (hx : Steps may s (after (x s))) (f : ε → ε') :
    Steps may s (after (x.adaptExcept f s)) := by
  unfold EStateM.adaptExcept
  cases hr : x s with
  | ok a t =>
    rw [hr] at hx
    exact hx
  | error e t =>
    rw [hr] at hx
    exact hx

theorem Stepwise.adaptExcept (hx : Stepwise may x) (f : ε → ε') :
    Stepwise may (x.adaptExcept f) :=
  ⟨fun s => steps_adaptExcept (hx.steps s) f⟩

/-- One call on the descriptor. -/
theorem steps_call {operation : Operation} {take : Script → Reply α × Script}
    {usual : Descriptor → Except SystemFailure α} {data : α → Answer} (hmay : may s operation)
    (htake : Script.RepliesTo operation take) :
    Steps may s (after (Session.call operation take usual data s)) := by
  unfold Session.call
  dsimp only
  split
  · exact .single (.call hmay htake)
  · exact .single (.call hmay htake)

theorem stepwise_lookUp (host : String) (service : Option String) (family kind protocol : Int) :
    Stepwise may (outside Script.takeLookUp (System.lookUp host service family kind protocol)) := by
  refine ⟨fun s => ?_⟩
  unfold outside
  rw [System.lookUp_eq]
  cases s.system.found host service <;> exact .single .lookUp

theorem stepwise_describe (address : Address) :
    Stepwise may (outside Script.takeDescribe (System.describe address)) := by
  refine ⟨fun s => ?_⟩
  unfold outside
  rw [System.describe_eq]
  cases s.system.named address <;> exact .single .describe

end Runs

/-! ## 4. Addresses -/

namespace Socket

open Session

section Operations

variable {may : Permit} {s : Session}

/-- The call that asks for the address of an end. -/
def End.operation : End → Operation
  | .here => .getsockname
  | .there => .getpeername

theorem steps_addressOf {e : End} (hmay : may s e.operation) :
    Steps may s (after (addressOf e s)) := by
  cases e with
  | here => exact steps_call hmay .getsockname
  | there => exact steps_call hmay .getpeername

theorem stepwise_nameOf {e : End}
    (hmay : ∀ s : Session, s.socket.closed = false → may s e.operation) :
    Stepwise may (nameOf e) := by
  refine .ofOpen fun s hopen => steps_bind (steps_adaptExcept ?_ _) fun names => ?_
  · exact steps_bind (steps_addressOf (hmay s hopen)) stepwise_describe
  · cases names with
    | mk host service =>
      dsimp only
      cases Whole.read service with
      | ok port => exact stepwise_pure (host, port)
      | error why => exact stepwise_throw _

theorem stepwise_hostOf {e : End}
    (hmay : ∀ s : Session, s.socket.closed = false → may s e.operation) :
    Stepwise may (hostOf e) :=
  (stepwise_nameOf hmay).bind fun _ => stepwise_pure _

theorem stepwise_portOf {e : End}
    (hmay : ∀ s : Session, s.socket.closed = false → may s e.operation) :
    Stepwise may (portOf e) :=
  (stepwise_nameOf hmay).bind fun _ => stepwise_pure _

theorem stepwise_endpoint {e : End}
    (hmay : ∀ s : Session, s.socket.closed = false → may s e.operation) :
    Stepwise may (endpoint e) :=
  (stepwise_hostOf hmay).bind fun _ => (stepwise_portOf hmay).bind fun _ => stepwise_pure _

theorem stepwise_isConnected
    (hmay : ∀ s : Session, s.socket.closed = false → may s .getpeername) :
    Stepwise may isConnected := by
  refine ⟨fun s => ?_⟩
  unfold isConnected
  split
  · exact .refl
  · rename_i hopen
    have hsteps := steps_addressOf (e := .there) (hmay s (eq_false_of_ne_true hopen))
    revert hsteps
    cases addressOf .there s <;> exact id

theorem stepwise_resolve (host : String) (service : Service) :
    Stepwise may (resolve host service) := by
  refine stepwise_get.bind fun s => ?_
  cases unaskable? s.system host service with
  | some f => exact stepwise_throw f
  | none =>
    refine ((stepwise_lookUp ..).adaptExcept _).bind fun found => ?_
    cases found with
    | nil => exact stepwise_throw _
    | cons address rest => exact stepwise_pure address

/-! ## 5. Setting up, connecting, accepting -/

/-- An operation of a single call that has no result. -/
theorem stepwise_act {name : String} {operation : Operation} {take : Script → Reply Unit × Script}
    (hmay : ∀ s : Session, s.socket.closed = false → may s operation)
    (htake : Script.RepliesTo operation take) :
    Stepwise may (do requireOpen name; guarded (act operation take) : SocketM Unit) :=
  .ofOpen fun s hopen => steps_adaptExcept (steps_call (hmay s hopen) htake) _

theorem stepwise_setTimeout {seconds : Option Binary64}
    (hmay : ∀ s : Session, s.socket.closed = false → may s (.setTimeout seconds)) :
    Stepwise may (setTimeout seconds) :=
  .ofOpen fun s hopen => steps_adaptExcept (steps_call (hmay s hopen) (.setTimeout seconds)) _

theorem stepwise_descriptorNumber : Stepwise may descriptorNumber :=
  .ofOpen fun _ _ => .refl

theorem stepwise_attach {address : Address} (hmay : ∀ s, may s (.connect address)) :
    Stepwise may (attach address) := by
  refine ⟨fun s => steps_bind (steps_call (hmay s) (.connect address)) fun _ => ?_⟩
  exact ⟨fun t => .single (.attach ⟨t, hmay t⟩)⟩

theorem stepwise_connect {host : String} {service : Service} {timeout : Option Binary64}
    (htimeout : ∀ s, may s (.setTimeout timeout)) (hconnect : ∀ s a, may s (.connect a))
    (hname : ∀ s : Session, s.socket.closed = false → may s .getpeername) :
    Stepwise may (connect host service timeout) := by
  refine (stepwise_requireOpen _).bind fun _ => (stepwise_resolve host service).bind fun address => ?_
  have hgreet : Stepwise may (do
      guarded (attach address)
      HttpProbe.say .debug .socket s!"connected to {← endpoint .there}" : SocketM Unit) :=
    ((stepwise_attach fun s => hconnect s address).adaptExcept _).bind fun _ =>
      (stepwise_endpoint (e := .there) hname).bind fun _ => stepwise_say ..
  cases timeout with
  | none => exact hgreet
  | some seconds =>
    have hset : Stepwise may (bare (applyTimeout (some seconds))) :=
      ⟨fun s => steps_adaptExcept (steps_call (htimeout s) (.setTimeout _)) _⟩
    exact hset.bind fun _ => hgreet

theorem stepwise_occupy {address : Address} (hmay : ∀ s, may s (.bind address)) :
    Stepwise may (occupy address) := by
  refine ⟨fun s => steps_bind (steps_call (hmay s) (.bind address)) fun _ => ?_⟩
  exact ⟨fun t => .single (.occupy ⟨t, hmay t⟩)⟩

theorem stepwise_bind {host : String} {service : Service} (hbind : ∀ s a, may s (.bind a))
    (hname : ∀ s : Session, s.socket.closed = false → may s .getsockname) :
    Stepwise may (bind host service) :=
  (stepwise_requireOpen _).bind fun _ => (stepwise_resolve host service).bind fun address =>
    ((stepwise_occupy fun s => hbind s address).adaptExcept _).bind fun _ =>
      (stepwise_endpoint (e := .here) hname).bind fun _ => stepwise_say ..

theorem stepwise_accept (hmay : ∀ s : Session, s.socket.closed = false → may s .accept) :
    Stepwise may accept := by
  refine ⟨fun s => ?_⟩
  unfold accept
  split
  · exact .refl
  rename_i hopen
  split
  · exact .refl
  have haccept := hmay s (eq_false_of_ne_true hopen)
  have htake : Steps may s (after (takeCaller s)) := steps_call haccept .accept
  cases hr : takeCaller s with
  | error f t =>
    rw [hr] at htake
    exact htake
  | ok caller t =>
    rw [hr] at htake
    dsimp only
    unfold unhurry
    dsimp only
    cases (Descriptor.reply (adopted caller t) Script.takeSetTimeout fun _ => .ok ()).result with
    | ok _ => exact htake.tail (.adopt ⟨s, haccept⟩)
    | error f => exact htake.tail (.adopt ⟨s, haccept⟩)

/-! ## 6. Reading and writing -/

theorem steps_receive {size : Nat} (hmay : may s (.recv size)) :
    Steps may s (after (receive size s)) := by
  have hcall : Steps may s (after (Session.call (.recv size) (Script.takeRecv size)
      (fun _ => .ok []) .delivered s)) := steps_call hmay (.recv size)
  unfold receive
  cases hr : Session.call (.recv size) (Script.takeRecv size) (fun _ => .ok []) .delivered s with
  | error f t =>
    rw [hr] at hcall
    exact hcall
  | ok data t =>
    rw [hr] at hcall
    dsimp only [after]
    split
    · exact hcall.tail (.store t.socket.buffer true)
    · exact hcall

theorem stepwise_read {size : Int}
    (hmay : ∀ s : Session, s.socket.closed = false → may s (.recv size.toNat)) :
    Stepwise may (read size) := by
  refine ⟨fun s => ?_⟩
  rw [read_eq]
  split
  · exact .refl
  rename_i hopen
  split
  · exact .refl
  split
  · exact .refl
  split
  · split
    · exact steps_receive (hmay s (eq_false_of_ne_true hopen))
    · exact .refl
  · exact .single (.store _ _)

theorem stepwise_readRaw (hmay : ∀ s, may s (.recv readSize)) : Stepwise may readRaw := by
  refine ⟨fun s => ?_⟩
  fun_induction readRaw s with
  | case1 s line rest hcut => exact .single (.store rest s.socket.ended)
  | case2 s hcut hended => exact .single (.store [] s.socket.ended)
  | case3 s hcut hended e t hreceive =>
    have hsteps := steps_receive (hmay s)
    rw [hreceive] at hsteps
    exact hsteps
  | case4 s hcut hended data t hreceive ih =>
    have hsteps := steps_receive (hmay s)
    rw [hreceive] at hsteps
    exact (hsteps.tail (.store (t.socket.buffer ++ data) t.socket.ended)).trans ih

theorem stepwise_readLine (hmay : ∀ s, may s (.recv readSize)) : Stepwise may readLine :=
  (stepwise_requireOpen _).bind fun _ => (stepwise_readRaw hmay).bind fun _ =>
    (stepwise_say ..).bind fun _ => stepwise_pure _

theorem steps_transmit {data : Bytes} {s : Session} (hmay : may s (.sendAll data)) :
    Steps may s (after (transmit data s)) :=
  steps_bind (steps_adaptExcept (steps_call hmay (.sendAll data)) _) fun _ =>
    (stepwise_say ..).bind fun _ => stepwise_pure _

theorem stepwise_write {payload : Payload}
    (hmay : ∀ data, payload.toBytes = .ok data →
      ∀ s : Session, s.socket.closed = false → may s (.sendAll data)) :
    Stepwise may (write payload) := by
  refine ⟨fun s => ?_⟩
  cases hc : s.socket.closed with
  | true =>
    rw [write_of_closed hc]
    exact .refl
  | false =>
    cases hdata : payload.toBytes with
    | error run =>
      rw [write_of_error hc hdata]
      exact .refl
    | ok data =>
      rw [write_of_ok hc hdata]
      exact steps_transmit (hmay data hdata s hc)

theorem stepwise_writeLine {payload : Payload}
    (hmay : ∀ data (s : Session), s.socket.closed = false → may s (.sendAll data)) :
    Stepwise may (writeLine payload) := by
  refine ⟨fun s => ?_⟩
  cases hdata : payload.toBytes with
  | error run =>
    rw [writeLine_of_error hdata]
    exact .refl
  | ok data =>
    rw [writeLine_of_ok hdata]
    exact (stepwise_write fun data' _ => hmay data').steps s

theorem stepwise_send {data : Bytes}
    (hmay : ∀ s : Session, s.socket.closed = false → may s (.send data)) :
    Stepwise may (send data) :=
  .ofOpen fun s hopen => steps_adaptExcept (steps_call (hmay s hopen) (.send data)) _

end Operations

end Socket

end HttpProbe
