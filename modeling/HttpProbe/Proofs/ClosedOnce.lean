import HttpProbe.Proofs.Confinement

/-!
# A socket is closed once, and is of no use afterwards

A socket may be closed by its owner, more than once and at the end of a block in which it is used,
and by another thread during any call. Whichever comes first gives the descriptor back, and from
then on every operation is refused before it does anything:

* `Script.closers`: how many of the replies to come have another thread close the socket;
* `Session.Closes called s t`: from `s` to `t` the descriptor was given back exactly if the socket
  was open before and is closed now, and it was closed exactly if it was asked for;
* `Socket.Action`, `Socket.runs`: runs of any operations. One that failed does not end a run;
* `perform_of_closed`: what an operation on a closed socket comes to;
* **`closed_once`**: all of this for every run.
-/

namespace HttpProbe

/-! ## 1. Closings to come -/

/-- During how many calls of a queue another thread closes the socket. -/
def Interference.closers (q : List Interference) : Nat := q.countP closing

theorem Interference.closers_cons (m : Interference) (rest : List Interference) :
    closers rest + m.closing.toNat = closers (m :: rest) := by
  unfold closers
  cases hm : m.closing with
  | false => rw [List.countP_cons_of_neg (by rw [hm]; exact Bool.false_ne_true)]; rfl
  | true => rw [List.countP_cons_of_pos hm]; rfl

theorem Interference.closers_next (q : List Interference) :
    closers (next q).2 + (next q).1.closing.toNat = closers q := by
  cases q with
  | nil => rfl
  | cons m rest => exact closers_cons m rest

/-- How many replies of a queue have another thread close the socket. -/
def Reply.closers {α : Type} (q : List (Reply α)) : Nat :=
  Interference.closers (q.map Reply.toInterference)

theorem Reply.closers_next {α : Type} (q : List (Reply α)) :
    closers (next q).2 + (next q).1.closing.toNat = closers q := by
  cases q with
  | nil => rfl
  | cons r rest => exact Interference.closers_cons r.toInterference _

namespace Script

/-- How many replies to come have another thread close the socket. Closing itself is not counted: it
is under way already. -/
def closers (s : Script) : Nat :=
  Reply.closers s.setTimeout + Reply.closers s.setOption + Reply.closers s.bind
    + Reply.closers s.listen + Reply.closers s.accept + Reply.closers s.connect
    + Reply.closers s.send + Reply.closers s.sendAll + Reply.closers s.recv
    + Reply.closers s.getsockname + Reply.closers s.getpeername + Reply.closers s.shutdown
    + Interference.closers s.lookUp + Interference.closers s.describe

/-- What is left of a reception that was too long closes nothing. -/
theorem closers_takeRecv (size : Nat) (s : Script) :
    Reply.closers (s.takeRecv size).2.recv + (s.takeRecv size).1.closing.toNat
      = Reply.closers s.recv := by
  have hnext := Reply.closers_next s.recv
  unfold takeRecv
  dsimp only
  split
  · dsimp only
    split
    · exact hnext
    · rw [← hnext]
      rfl
  · exact hnext

/-- A call takes one reply, so a closing that does not come with it is still to come. -/
theorem RepliesTo.closers {operation : Operation} {α : Type} {take : Script → Reply α × Script}
    (h : RepliesTo operation take) (s : Script) :
    (take s).2.closers + (take s).1.closing.toNat = s.closers := by
  cases h with
  | recv size =>
    have hrecv := closers_takeRecv size s
    have hother : (s.takeRecv size).2 = { s with recv := (s.takeRecv size).2.recv } := by
      unfold takeRecv
      dsimp only
      split <;> rfl
    rw [hother] at hrecv ⊢
    simp only [Script.closers] at hrecv ⊢
    omega
  | _ =>
    -- Every other queue loses its first reply, and the others stay as they are.
    simp only [Script.closers, takeSetTimeout, takeSetOption, takeBind, takeListen, takeAccept,
      takeConnect, takeSend, takeSendAll, takeGetsockname, takeGetpeername, takeShutdown]
    grind [Reply.closers_next]

theorem closers_takeLookUp (s : Script) :
    s.takeLookUp.2.closers + s.takeLookUp.1.closing.toNat = s.closers := by
  have hnext := Interference.closers_next s.lookUp
  simp only [Script.closers, takeLookUp]
  omega

theorem closers_takeDescribe (s : Script) :
    s.takeDescribe.2.closers + s.takeDescribe.1.closing.toNat = s.closers := by
  have hnext := Interference.closers_next s.describe
  simp only [Script.closers, takeDescribe]
  omega

end Script

/-- A descriptor that was given back takes no reply, and nobody closes the socket meanwhile. -/
theorem Descriptor.closers_reply {operation : Operation} {α : Type}
    {take : Script → Reply α × Script} (h : Script.RepliesTo operation take) (d : Descriptor)
    (usual : Descriptor → Except SystemFailure α) :
    (d.reply take usual).descriptor.script.closers + (d.reply take usual).closing.toNat
      = d.script.closers := by
  unfold reply
  split
  · rfl
  · exact h.closers d.script

/-! ## 2. What a step does about closing -/

/-- Any calls but those that close the socket. -/
def Permit.notClosing : Permit := fun _ operation => operation ≠ .close

namespace Session

/-- How many replies to come have another thread close the socket. -/
abbrev closers (s : Session) : Nat := s.socket.descriptor.script.closers

/-- From `s` to `t` the descriptor was given back exactly if the socket was open before and is
closed now. It is closed now exactly if it was closed before, or its owner closed it (`called`), or
another thread did, whose reply is no more to come then. -/
structure Closes (called : Prop) (s t : Session) : Prop where
  number : t.socket.descriptor.number = s.socket.descriptor.number
  closers_le : t.closers ≤ s.closers
  closed : t.socket.closed = true ↔ s.socket.closed = true ∨ called ∨ t.closers < s.closers
  noted : ∃ es, s.system.Noted t.system es ∧
    Event.closings s.socket.descriptor.number es + s.socket.closed.toNat = t.socket.closed.toNat

namespace Closes

variable {p q : Prop} {s t u : Session}

theorem congr (h : s.Closes p t) (hpq : p ↔ q) : s.Closes q t :=
  ⟨h.number, h.closers_le, by rw [h.closed, hpq], h.noted⟩

theorem trans (h : s.Closes p t) (h' : t.Closes q u) : s.Closes (p ∨ q) u := by
  obtain ⟨es, hes, hclosings⟩ := h.noted
  obtain ⟨fs, hfs, hclosings'⟩ := h'.noted
  rw [h.number] at hclosings'
  have hle := h.closers_le
  have hle' := h'.closers_le
  refine ⟨h'.number.trans h.number, Nat.le_trans hle' hle, ?_, es ++ fs, hes.trans hfs, ?_⟩
  · -- The replies that are no more to come went in the first part or in the second one.
    have hless : u.closers < s.closers ↔ t.closers < s.closers ∨ u.closers < t.closers := by omega
    rw [h'.closed, h.closed, hless]
    grind
  · rw [Event.closings_append]
    omega

/-- Nothing is closed where the socket has the same script and the same mark as before. -/
theorem of_same {es : List Event} (hnumber : t.socket.descriptor.number = s.socket.descriptor.number)
    (hscript : t.socket.descriptor.script = s.socket.descriptor.script)
    (hclosed : t.socket.closed = s.socket.closed) (hnoted : s.system.Noted t.system es)
    (hes : Event.closings s.socket.descriptor.number es = 0) : s.Closes False t := by
  have hclosers : t.closers = s.closers := congrArg Script.closers hscript
  refine ⟨hnumber, Nat.le_of_eq hclosers, ?_, es, hnoted, by rw [hes, hclosed, Nat.zero_add]⟩
  rw [hclosed, hclosers]
  simp only [Nat.lt_irrefl, or_self, or_false]

theorem refl (s : Session) : s.Closes False s := of_same rfl rfl rfl (.refl _) rfl

end Closes

theorem closers_closeElsewhere (s : Session) : s.closeElsewhere.closers = s.closers := by
  cases hc : s.socket.closed with
  | true => rw [closeElsewhere_of_closed hc]
  | false =>
    unfold closers
    rw [socket_closeElsewhere s hc]
    rfl

/-- **Closing** gives the descriptor back if the socket is open, and it is closed in any case. -/
theorem closes_closeElsewhere (s : Session) : s.Closes True s.closeElsewhere := by
  have hhandled := handled_closeElsewhere s
  obtain ⟨es, hes, -, hclosings⟩ := hhandled.noted
  refine ⟨hhandled.number, Nat.le_of_eq (closers_closeElsewhere s), ?_, es, hes, hclosings⟩
  rw [closed_closeElsewhere]
  exact ⟨fun _ => .inr (.inl trivial), fun _ => rfl⟩

/-- **What other threads do** closes the socket exactly if it takes one of the closings to come. -/
theorem closes_disturbed {s u : Session} {m : Interference} {es : List Event}
    (hnumber : u.socket.descriptor.number = s.socket.descriptor.number)
    (hclosed : u.socket.closed = s.socket.closed) (hclosers : u.closers + m.closing.toNat = s.closers)
    (hnoted : s.system.Noted u.system es)
    (hes : Event.closings s.socket.descriptor.number es = 0) : s.Closes False (u.disturbed m) := by
  cases hc : m.closing with
  | false =>
    rw [hc] at hclosers
    rw [disturbed_of_not_closing hc]
    change u.closers = s.closers at hclosers
    refine ⟨hnumber, Nat.le_of_eq hclosers, ?_, es, hnoted, ?_⟩
    · show u.socket.closed = true ↔ _ ∨ _ ∨ u.closers < _
      rw [hclosed, hclosers]
      simp only [Nat.lt_irrefl, or_self, or_false]
    · rw [hes, Nat.zero_add]
      exact congrArg Bool.toNat hclosed.symm
  | true =>
    rw [hc] at hclosers
    rw [disturbed_of_closing hc]
    obtain ⟨hsame, -, -, fs, hfs, hclosings⟩ := closes_closeElsewhere (u.heard m)
    have hless : (u.heard m).closeElsewhere.closers < s.closers := by
      rw [closers_closeElsewhere, ← hclosers]
      exact Nat.lt_succ_self _
    refine ⟨hsame.trans hnumber, Nat.le_of_lt hless, ?_, _, hnoted.trans hfs, ?_⟩
    · exact ⟨fun _ => .inr (.inr hless), fun _ => closed_closeElsewhere _⟩
    · rw [Event.closings_append, hes, Nat.zero_add, ← hclosed, ← hnumber]
      exact hclosings

theorem closes_afterCall {operation : Operation} {α : Type} {take : Script → Reply α × Script}
    (hother : operation ≠ .close) (htake : Script.RepliesTo operation take) (answer : Answer)
    (usual : Descriptor → Except SystemFailure α) (s : Session) :
    s.Closes False (s.afterCall operation answer (s.socket.descriptor.reply take usual)) := by
  have hnumber := s.socket.descriptor.number_reply take usual
  refine closes_disturbed (u := (s.replied _).noteCall operation answer) hnumber rfl
    (Descriptor.closers_reply htake s.socket.descriptor usual) (System.Noted.note ..) ?_
  rw [show (s.replied _).socket.descriptor.number = s.socket.descriptor.number from hnumber]
  exact Event.closings_eq_zero hother answer

theorem Step.closes {s t : Session} (h : Step Permit.notClosing s t) : s.Closes False t := by
  cases h with
  | call hmay htake => exact closes_afterCall hmay htake _ _ s
  | close hmay => exact absurd rfl hmay
  | lookUp =>
    exact closes_disturbed rfl rfl (Script.closers_takeLookUp _) (System.Noted.note ..) rfl
  | describe =>
    exact closes_disturbed rfl rfl (Script.closers_takeDescribe _) (System.Noted.note ..) rfl
  | say => exact .of_same rfl rfl rfl (.refl _) rfl
  | store => exact .of_same rfl rfl rfl (.refl _) rfl
  | attach => exact .of_same rfl rfl rfl (.refl _) rfl
  | occupy => exact .of_same rfl rfl rfl (.refl _) rfl
  | adopt => exact .of_same rfl rfl rfl (System.Noted.note ..) rfl

theorem Steps.closes {s t : Session} (h : Steps Permit.notClosing s t) : s.Closes False t :=
  h.keep Closes.refl (fun h h' => (h.trans h').congr (or_self_iff)) Step.closes

end Session

namespace Socket

open Session

/-! ## 3. Runs of operations -/

/-- What the owner of a socket does with it. A block in which the socket is used is entered and
left; it is left in any case, whether or not an operation in it failed. -/
inductive Action where
  | enter
  | leave
  | close
  | read (size : Int)
  | receive (size : Int)
  | readLine
  | write (payload : Payload)
  | writeLine (payload : Payload)
  | flush
  | descriptorNumber
  | send (data : Bytes)
  | connect (host : String) (service : Service) (timeout : Option Binary64)
  | bind (host : String) (service : Service)
  | listen (backlog : Int)
  | accept
  | shutdown (how : Int)
  | setTimeout (seconds : Option Binary64)
  | setOption (level option value : Int)
  | hostOf (e : End)
  | portOf (e : End)
  | isConnected
  | display

/-- What an operation gives. -/
inductive Given where
  | nothing
  | octets (data : Bytes)
  | text (s : String)
  | number (n : Int)
  | verdict (b : Bool)
  | connection (c : Option Socket)

namespace Action

/-- Runs one operation. -/
def perform : Action → SocketM Given
  | enter => return .nothing
  | leave => do
    Session.close
    return .nothing
  | close => do
    Session.close
    return .nothing
  | read size => return .octets (← Socket.read size)
  | receive size => return .octets (← Socket.read size)
  | readLine => return .text (← Socket.readLine)
  | write payload => return .number (← Socket.write payload)
  | writeLine payload => return .number (← Socket.writeLine payload)
  | flush => do
    Socket.flush
    return .nothing
  | descriptorNumber => return .number (← Socket.descriptorNumber)
  | send data => return .number (← Socket.send data)
  | connect host service timeout => do
    Socket.connect host service timeout
    return .nothing
  | bind host service => do
    Socket.bind host service
    return .nothing
  | listen backlog => do
    Socket.listen backlog
    return .nothing
  | accept => return .connection (← Socket.accept)
  | shutdown how => do
    Socket.shutdown how
    return .nothing
  | setTimeout seconds => do
    Socket.setTimeout seconds
    return .nothing
  | setOption level option value => do
    Socket.setOption level option value
    return .nothing
  | hostOf e => return .text (← Socket.hostOf e)
  | portOf e => return .number (← Socket.portOf e)
  | isConnected => return .verdict (← Socket.isConnected)
  | display => return .text (← get).socket.display

/-- The operation closes the socket. -/
def closes : Action → Bool
  | leave => true
  | close => true
  | _ => false

/-- The run of a line that cannot be written: a line is written out before anything else. -/
def unwritten? : Action → Option Unencodable
  | writeLine payload => match payload.toBytes with
    | .ok _ => none
    | .error run => some run
  | _ => none

/-- The name under which an operation is refused on a closed socket, if it is. -/
def refusedAs? : Action → Option String
  | read _ => some "read"
  | receive _ => some "read"
  | readLine => some "read_line"
  | write _ => some "write"
  | writeLine _ => some "write"
  | flush => some "flush"
  | descriptorNumber => some "fileno"
  | send _ => some "send"
  | connect .. => some "connect"
  | bind .. => some "bind"
  | listen _ => some "listen"
  | accept => some "accept"
  | shutdown _ => some "shutdown"
  | setTimeout _ => some "settimeout"
  | setOption .. => some "setsockopt"
  | hostOf _ => some "getsockname"
  | portOf _ => some "getsockname"
  | _ => none

/-- What an operation that is not refused gives on a closed socket. -/
def idle (s : Socket) : Action → Given
  | isConnected => .verdict false
  | display => .text s.display
  | _ => .nothing

end Action

/-- The session after a run of operations. -/
def runs (s : Session) (actions : List Action) : Session :=
  actions.foldl (fun s a => after (a.perform s)) s

/-- The socket was closed during the run: by its owner, or by another thread during a call. Such a
call took a reply that has another thread close the socket, and there is one less to come. -/
def CloseCalled (s : Session) (actions : List Action) : Prop :=
  (∃ a ∈ actions, a.closes = true) ∨ (runs s actions).closers < s.closers

/-! ## 4. One operation -/

/-- **An operation on a closed socket** is refused or gives what there is to say without the system.
In any case it leaves everything as it was. -/
theorem perform_of_closed {s : Session} (h : s.socket.closed = true) (a : Action) :
    a.perform s = match a.unwritten?, a.refusedAs? with
      | some run, _ => .error (.unwritable (.text run)) s
      | none, some name => .error (.net (.closed name)) s
      | none, none => .ok (a.idle s.socket) s := by
  have hread : ∀ size, Socket.read size s = .error (.net (.closed "read")) s := fun size => by
    rw [read_eq, if_pos h]
  have hname : ∀ e, nameOf e s = .error (.net (.closed "getsockname")) s :=
    fun e => bind_of_error (requireOpen_of_closed h _)
  cases a with
  | enter => rfl
  | leave => exact bind_of_ok (close_of_closed h)
  | close => exact bind_of_ok (close_of_closed h)
  | read size => exact bind_of_error (hread size)
  | receive size => exact bind_of_error (hread size)
  | readLine => exact bind_of_error (readLine_of_closed h)
  | write payload => exact bind_of_error (write_of_closed h)
  | writeLine payload =>
    cases hdata : payload.toBytes with
    | error run =>
      have hrun : (Action.writeLine payload).unwritten? = some run := by
        rw [Action.unwritten?, hdata]
      rw [hrun]
      exact bind_of_error (writeLine_of_error hdata)
    | ok data =>
      have hnone : (Action.writeLine payload).unwritten? = none := by
        rw [Action.unwritten?, hdata]
      rw [hnone]
      exact bind_of_error ((writeLine_of_ok hdata).trans (write_of_closed h))
  | flush => exact bind_of_error (requireOpen_of_closed h _)
  | descriptorNumber => exact bind_of_error (bind_of_error (requireOpen_of_closed h _))
  | send data => exact bind_of_error (bind_of_error (requireOpen_of_closed h _))
  | connect host service timeout =>
    exact bind_of_error (bind_of_error (requireOpen_of_closed h _))
  | bind host service => exact bind_of_error (bind_of_error (requireOpen_of_closed h _))
  | listen backlog => exact bind_of_error (bind_of_error (requireOpen_of_closed h _))
  | accept => exact bind_of_error (if_pos h)
  | shutdown how => exact bind_of_error (bind_of_error (requireOpen_of_closed h _))
  | setTimeout seconds => exact bind_of_error (bind_of_error (requireOpen_of_closed h _))
  | setOption level option value => exact bind_of_error (bind_of_error (requireOpen_of_closed h _))
  | hostOf e => exact bind_of_error (bind_of_error (hname e))
  | portOf e => exact bind_of_error (bind_of_error (hname e))
  | isConnected => exact bind_of_ok (if_pos h)
  | display => rfl

/-- An operation that does not close the socket is made of steps that do not. -/
theorem stepwise_perform {a : Action} (ha : a.closes = false) :
    Stepwise Permit.notClosing a.perform := by
  have hname : ∀ (e : End) (s : Session), s.socket.closed = false →
      Permit.notClosing s e.operation := fun e _ _ => by
    cases e <;> exact Operation.noConfusion
  cases a with
  | enter => exact stepwise_pure _
  | leave => cases ha
  | close => cases ha
  | read size => exact (stepwise_read fun _ _ => Operation.noConfusion).bind fun _ => stepwise_pure _
  | receive size =>
    exact (stepwise_read fun _ _ => Operation.noConfusion).bind fun _ => stepwise_pure _
  | readLine =>
    exact (stepwise_readLine fun _ => Operation.noConfusion).bind fun _ => stepwise_pure _
  | write payload =>
    exact (stepwise_write fun _ _ _ _ => Operation.noConfusion).bind fun _ => stepwise_pure _
  | writeLine payload =>
    exact (stepwise_writeLine fun _ _ _ => Operation.noConfusion).bind fun _ => stepwise_pure _
  | flush => exact (stepwise_requireOpen _).bind fun _ => stepwise_pure _
  | descriptorNumber => exact stepwise_descriptorNumber.bind fun _ => stepwise_pure _
  | send data => exact (stepwise_send fun _ _ => Operation.noConfusion).bind fun _ => stepwise_pure _
  | connect host service timeout =>
    exact (stepwise_connect (fun _ => Operation.noConfusion) (fun _ _ => Operation.noConfusion)
      (hname .there)).bind fun _ => stepwise_pure _
  | bind host service =>
    exact (stepwise_bind (fun _ _ => Operation.noConfusion) (hname .here)).bind
      fun _ => stepwise_pure _
  | listen backlog =>
    exact (stepwise_act (fun _ _ => Operation.noConfusion) (.listen backlog)).bind
      fun _ => stepwise_pure _
  | accept => exact (stepwise_accept fun _ _ => Operation.noConfusion).bind fun _ => stepwise_pure _
  | shutdown how =>
    exact (stepwise_act (fun _ _ => Operation.noConfusion) (.shutdown how)).bind
      fun _ => stepwise_pure _
  | setTimeout seconds =>
    exact (stepwise_setTimeout fun _ _ => Operation.noConfusion).bind fun _ => stepwise_pure _
  | setOption level option value =>
    exact (stepwise_act (fun _ _ => Operation.noConfusion) (.setOption level option value)).bind
      fun _ => stepwise_pure _
  | hostOf e => exact (stepwise_hostOf (hname e)).bind fun _ => stepwise_pure _
  | portOf e => exact (stepwise_portOf (hname e)).bind fun _ => stepwise_pure _
  | isConnected => exact (stepwise_isConnected (hname .there)).bind fun _ => stepwise_pure _
  | display => exact stepwise_get.bind fun _ => stepwise_pure _

theorem after_close (s : Session) :
    after ((do Session.close; return Given.nothing : SocketM Given) s)
      = s.closeElsewhere := by
  unfold closeElsewhere
  cases h : close s with
  | ok _ t => rw [bind_of_ok h]; rfl
  | error f t => rw [bind_of_error h]; rfl

theorem closes_perform (a : Action) (s : Session) :
    s.Closes (a.closes = true) (after (a.perform s)) := by
  have hclosing : s.Closes (true = true)
      (after ((do Session.close; return Given.nothing : SocketM Given) s)) := by
    rw [after_close]
    exact (closes_closeElsewhere s).congr (iff_of_true trivial rfl)
  cases ha : a.closes with
  | true =>
    cases a with
    | leave => exact hclosing
    | close => exact hclosing
    | _ => cases ha
  | false =>
    exact ((stepwise_perform ha).steps s).closes.congr (iff_of_false id Bool.false_ne_true)

/-! ## 5. Runs -/

theorem closes_runs (s : Session) (actions : List Action) :
    s.Closes (∃ a ∈ actions, a.closes = true) (runs s actions) := by
  induction actions generalizing s with
  | nil => exact (Closes.refl s).congr (iff_of_false id fun ⟨_, h, _⟩ => List.not_mem_nil h)
  | cons a rest ih =>
    exact ((closes_perform a s).trans (ih _)).congr (by simp only [List.mem_cons, exists_eq_or_imp])

/-- A run on a closed socket does nothing. -/
theorem runs_of_closed {s : Session} (h : s.socket.closed = true) (actions : List Action) :
    runs s actions = s := by
  induction actions with
  | nil => rfl
  | cons a rest ih =>
    have ha : after (a.perform s) = s := by
      rw [perform_of_closed h a]
      cases a.unwritten? with
      | some run => rfl
      | none => cases a.refusedAs? <;> rfl
    show runs (after (a.perform s)) rest = s
    rw [ha, ih]

/-- Nothing can be done with the socket any more. An operation is refused as one on a closed socket,
unless it is a line that cannot be written at all, or it gives what there is to say; it makes no
call, and nothing changes. -/
structure Unusable (s : Session) : Prop where
  closed : s.socket.closed = true
  refused : ∀ (a : Action) (name : String), a.unwritten? = none → a.refusedAs? = some name →
    a.perform s = .error (.net (.closed name)) s ∧
      (NetError.closed name).errno? = some Errno.badDescriptor
  unwritten : ∀ (a : Action) (run : Unencodable), a.unwritten? = some run →
    a.perform s = .error (.unwritable (.text run)) s
  idle : ∀ a : Action, a.refusedAs? = none → a.perform s = .ok (a.idle s.socket) s
  later : ∀ actions, runs s actions = s

theorem unusable_of_closed {s : Session} (h : s.socket.closed = true) : Unusable s where
  closed := h
  refused a name hnone ha := ⟨by rw [perform_of_closed h a, hnone, ha], rfl⟩
  unwritten a run ha := by rw [perform_of_closed h a, ha]
  idle a ha := by
    have hnone : a.unwritten? = none := by
      cases a with
      | writeLine => cases ha
      | _ => rfl
    rw [perform_of_closed h a, hnone, ha]
  later := runs_of_closed h

/-- **A socket is closed once.** Over a run of any operations its descriptor is given back at most
once, and it is given back exactly if the socket was closed by anyone, whether or not the system
failed to do so. From then on the socket is closed and nothing can be done with it. -/
theorem closed_once {s : Session} (hopen : s.socket.closed = false) (actions : List Action) :
    (∃ es, s.system.Noted (runs s actions).system es ∧
      Event.closings s.socket.descriptor.number es ≤ 1 ∧
      (Event.closings s.socket.descriptor.number es = 1 ↔ CloseCalled s actions)) ∧
    ((runs s actions).socket.closed = true ↔ CloseCalled s actions) ∧
    (CloseCalled s actions → Unusable (runs s actions)) := by
  have hcloses := closes_runs s actions
  have hclosed : (runs s actions).socket.closed = true ↔ CloseCalled s actions := by
    rw [hcloses.closed, hopen]
    simp only [Bool.false_eq_true, false_or, CloseCalled]
  obtain ⟨es, hes, hclosings⟩ := hcloses.noted
  rw [hopen, Bool.toNat_false, Nat.add_zero] at hclosings
  refine ⟨⟨es, hes, ?_, ?_⟩, hclosed, fun h => unusable_of_closed (hclosed.2 h)⟩
  · rw [hclosings]
    exact Bool.toNat_le _
  · rw [hclosings, Bool.toNat_eq_one, hclosed]

/-- Another thread closes the socket while its owner reads, and the system fails to close it. -/
def raced : Session where
  socket := { descriptor := { number := 3, script :=
    { recv := [{ outcome := .value [104, 105], closing := true }]
      close := [{ outcome := .failure (.coded Errno.inputOutput "Input/output error") }] } } }
  system := {}

/-- The owner leaves a block in which the socket was closed by another thread, and tries
to write. -/
theorem closed_once_raced :
    raced.socket.closed = false ∧
      CloseCalled raced [.enter, .read 4, .leave, .close] ∧
      Unusable (runs raced [.enter, .read 4, .leave, .close]) :=
  have hcalled : CloseCalled raced [.enter, .read 4, .leave, .close] := .inr (by decide)
  ⟨rfl, hcalled, (closed_once (s := raced) rfl _).2.2 hcalled⟩

/-- On a closed socket a line that cannot be written is refused for that, and the same text without
a line feed for the socket. -/
theorem closed_once_unwritten :
    CloseCalled raced [.close] ∧ (runs raced [.close]).socket.closed = true ∧
      (Action.write (.text [.lone 0])).perform (runs raced [.close])
        = .error (.net (.closed "write")) (runs raced [.close]) ∧
      ∃ run, (Action.writeLine (.text [.lone 0])).perform (runs raced [.close])
        = .error (.unwritable (.text run)) (runs raced [.close]) :=
  ⟨.inl ⟨.close, List.mem_singleton_self _, rfl⟩, rfl, rfl, _, rfl⟩

end Socket

end HttpProbe
