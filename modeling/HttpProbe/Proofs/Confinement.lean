import HttpProbe.Proofs.Exchange
import HttpProbe.Proofs.Visits

/-!
# What an operation does outside its socket

An operation on a socket may fail at any of its calls, and other threads may act during each of
them. Whatever happens, it makes calls on its own descriptor only, it makes no socket, and it gives
the descriptor back exactly when the socket becomes closed:

* `Event.Concerns`, `Event.closings`: the events of one descriptor, and how often it was given back;
* `Session.Handled`: what holds after anything that was done with the socket of a session;
* `Interference`, `Script.Within`: what other threads may do by a script, and `Session.Stays`: what
  stays as it was when they do no more than that;
* `handled_closeElsewhere`: a closing by another thread is no different;
* `Step.leaves`, `Steps.leaves`: both hold after any steps that take no connection and do not close
  the socket, so they hold after every run of an operation that is made of such steps (`Confined`).
-/

namespace HttpProbe

/-! ## 1. The events of one descriptor -/

/-- The event gives the descriptor of number `n` back. -/
def Event.closes (n : Nat) : Event → Bool
  | .called (.on m .close) _ => m == n
  | _ => false

/-- How often the descriptor of number `n` was given back. -/
def Event.closings (n : Nat) (es : List Event) : Nat := es.countP (Event.closes n)

/-- The event is a look-up, the end of a thread, or a call on the descriptor of number `n`. No
socket is made and no connection is taken. -/
inductive Event.Concerns (n : Nat) : Event → Prop where
  | lookUp {host : String} {service : Option String} {family kind protocol : Int}
    {answer : Answer} : Concerns n (.called (.getaddrinfo host service family kind protocol) answer)
  | describe {address : Address} {answer : Answer} :
    Concerns n (.called (.getnameinfo address) answer)
  | operation {operation : Operation} {answer : Answer} (h : operation ≠ .accept) :
    Concerns n (.called (.on n operation) answer)
  | threadEnded {f : Failure} : Concerns n (.threadEnded f)

theorem Event.closings_append (n : Nat) (es fs : List Event) :
    closings n (es ++ fs) = closings n es + closings n fs :=
  List.countP_append

theorem Event.notMem_of_concerns {n m : Nat} {es : List Event} (h : ∀ e ∈ es, e.Concerns n)
    (answer : Answer) : .called (.on m .accept) answer ∉ es := by
  intro he
  cases h _ he with
  | operation hother => exact hother rfl

theorem Event.closings_of_concerns {n m : Nat} {es : List Event} (h : ∀ e ∈ es, e.Concerns n)
    (hm : m ≠ n) : closings m es = 0 := by
  refine List.countP_eq_zero.2 fun e he hcloses => ?_
  cases h e he with
  | lookUp => cases hcloses
  | describe => cases hcloses
  | threadEnded => cases hcloses
  | @operation operation answer hother =>
    cases operation <;> first | cases hcloses | exact hm (beq_iff_eq.1 hcloses).symm

theorem Event.closings_eq_zero {n : Nat} {operation : Operation} (h : operation ≠ .close)
    (answer : Answer) : closings n [.called (.on n operation) answer] = 0 := by
  cases operation <;> first | rfl | exact absurd rfl h

theorem Event.closings_of_close (n : Nat) (answer : Answer) :
    closings n [.called (.on n .close) answer] = 1 :=
  List.countP_eq_length.2 fun e he => by
    rw [List.mem_singleton.1 he]
    exact beq_self_eq_true n

/-! ## 2. What other threads may do -/

/-- No other thread does anything. -/
def Interference.none : Interference := {}

/-- Other threads may close the socket. -/
def Interference.closes : Interference := { closing := true }

/-- Other threads do no more than `i` allows. -/
def Interference.Within (i m : Interference) : Prop :=
  (m.closing = true → i.closing = true) ∧ (m.stopping = true → i.stopping = true)

instance (i m : Interference) : Decidable (i.Within m) :=
  inferInstanceAs (Decidable (_ ∧ _))

/-- During the call that is replied to, other threads do no more than `i` allows. -/
abbrev Reply.Within {α : Type} (i : Interference) (r : Reply α) : Prop := i.Within r.toInterference

/-- During all calls but those that take a connection, and during look-ups, other threads do no more
than `i` allows. -/
structure Script.Within (i : Interference) (s : Script) : Prop where
  setTimeout : ∀ r ∈ s.setTimeout, r.Within i
  setOption : ∀ r ∈ s.setOption, r.Within i
  bind : ∀ r ∈ s.bind, r.Within i
  listen : ∀ r ∈ s.listen, r.Within i
  connect : ∀ r ∈ s.connect, r.Within i
  send : ∀ r ∈ s.send, r.Within i
  sendAll : ∀ r ∈ s.sendAll, r.Within i
  recv : ∀ r ∈ s.recv, r.Within i
  getsockname : ∀ r ∈ s.getsockname, r.Within i
  getpeername : ∀ r ∈ s.getpeername, r.Within i
  shutdown : ∀ r ∈ s.shutdown, r.Within i
  lookUp : ∀ m ∈ s.lookUp, i.Within m
  describe : ∀ m ∈ s.describe, i.Within m

/-- What is taken comes off a queue other than that of connections; `during` is what other threads
do meanwhile. -/
structure Script.Regular {β : Type} (during : β → Interference) (take : Script → β × Script) :
    Prop where
  accept : ∀ s : Script, (take s).2.accept = s.accept
  reply : ∀ (i : Interference) (s : Script), s.Within i → i.Within (during (take s).1)
  rest : ∀ (i : Interference) (s : Script), s.Within i → (take s).2.Within i

section Replies

variable {α : Type} {i m : Interference} {q : List (Reply α)}

theorem Interference.within_of_alone (hclosing : m.closing = false) (hstopping : m.stopping = false) :
    i.Within m :=
  ⟨fun h => absurd (hclosing.symm.trans h) Bool.false_ne_true,
    fun h => absurd (hstopping.symm.trans h) Bool.false_ne_true⟩

/-- No other thread acts during a call for which nothing is allowed. -/
theorem Interference.alone_of_within (h : none.Within m) :
    m.closing = false ∧ m.stopping = false :=
  ⟨eq_false_of_ne_true fun hr => absurd (h.1 hr) Bool.false_ne_true,
    eq_false_of_ne_true fun hr => absurd (h.2 hr) Bool.false_ne_true⟩

theorem Reply.within_next (h : ∀ r ∈ q, r.Within i) : (Reply.next q).1.Within i := by
  cases q with
  | nil => exact Interference.within_of_alone rfl rfl
  | cons r rest => exact h r List.mem_cons_self

theorem Reply.within_rest (h : ∀ r ∈ q, r.Within i) : ∀ r ∈ (Reply.next q).2, r.Within i :=
  fun r hr => h r (Reply.mem_of_mem_next hr)

theorem Interference.within_next {q : List Interference} (h : ∀ m ∈ q, i.Within m) :
    i.Within (Interference.next q).1 := by
  cases q with
  | nil => exact Interference.within_of_alone rfl rfl
  | cons m rest => exact h m List.mem_cons_self

theorem Interference.within_rest {q : List Interference} (h : ∀ m ∈ q, i.Within m) :
    ∀ m ∈ (Interference.next q).2, i.Within m :=
  fun m hm => h m (Interference.mem_of_mem_next hm)

end Replies

namespace Script

/-- What is left of a reception that was too long is a reply of its own, during which no other
thread acts. -/
theorem regular_takeRecv (size : Nat) : Regular Reply.toInterference (takeRecv size) where
  accept s := by
    unfold takeRecv
    dsimp only
    split <;> rfl
  reply i s h := by
    have hnext := Reply.within_next h.recv
    unfold takeRecv
    dsimp only
    split
    · exact hnext
    · exact hnext
  rest i s h := by
    have hrest := Reply.within_rest h.recv
    unfold takeRecv
    dsimp only
    split
    · refine { h with recv := fun r hr => ?_ }
      dsimp only at hr
      split at hr
      · exact hrest r hr
      · rcases List.mem_cons.1 hr with rfl | hr
        · exact Interference.within_of_alone rfl rfl
        · exact hrest r hr
    · exact { h with recv := hrest }

/-- Every queue but that of connections is regular. -/
theorem RepliesTo.regular {operation : Operation} {α : Type} {take : Script → Reply α × Script}
    (h : RepliesTo operation take) (hother : operation ≠ .accept) :
    Regular Reply.toInterference take := by
  cases h with
  | accept => exact absurd rfl hother
  | recv size => exact regular_takeRecv size
  | setTimeout =>
    exact ⟨fun _ => rfl, fun _ _ h => Reply.within_next h.setTimeout,
      fun _ _ h => { h with setTimeout := Reply.within_rest h.setTimeout }⟩
  | setOption =>
    exact ⟨fun _ => rfl, fun _ _ h => Reply.within_next h.setOption,
      fun _ _ h => { h with setOption := Reply.within_rest h.setOption }⟩
  | bind =>
    exact ⟨fun _ => rfl, fun _ _ h => Reply.within_next h.bind,
      fun _ _ h => { h with bind := Reply.within_rest h.bind }⟩
  | listen =>
    exact ⟨fun _ => rfl, fun _ _ h => Reply.within_next h.listen,
      fun _ _ h => { h with listen := Reply.within_rest h.listen }⟩
  | connect =>
    exact ⟨fun _ => rfl, fun _ _ h => Reply.within_next h.connect,
      fun _ _ h => { h with connect := Reply.within_rest h.connect }⟩
  | send =>
    exact ⟨fun _ => rfl, fun _ _ h => Reply.within_next h.send,
      fun _ _ h => { h with send := Reply.within_rest h.send }⟩
  | sendAll =>
    exact ⟨fun _ => rfl, fun _ _ h => Reply.within_next h.sendAll,
      fun _ _ h => { h with sendAll := Reply.within_rest h.sendAll }⟩
  | getsockname =>
    exact ⟨fun _ => rfl, fun _ _ h => Reply.within_next h.getsockname,
      fun _ _ h => { h with getsockname := Reply.within_rest h.getsockname }⟩
  | getpeername =>
    exact ⟨fun _ => rfl, fun _ _ h => Reply.within_next h.getpeername,
      fun _ _ h => { h with getpeername := Reply.within_rest h.getpeername }⟩
  | shutdown =>
    exact ⟨fun _ => rfl, fun _ _ h => Reply.within_next h.shutdown,
      fun _ _ h => { h with shutdown := Reply.within_rest h.shutdown }⟩

theorem regular_takeLookUp : Regular id takeLookUp where
  accept _ := rfl
  reply _ _ h := Interference.within_next h.lookUp
  rest _ _ h := { h with lookUp := Interference.within_rest h.lookUp }

theorem regular_takeDescribe : Regular id takeDescribe where
  accept _ := rfl
  reply _ _ h := Interference.within_next h.describe
  rest _ _ h := { h with describe := Interference.within_rest h.describe }

end Script

/-! ## 3. What is done with one socket -/

namespace Session

/-- Something was done with the socket of a session, and nothing else. The descriptor was given back
exactly if the socket was open before and is closed now. -/
structure Handled (s t : Session) : Prop where
  number : t.socket.descriptor.number = s.socket.descriptor.number
  accept : t.socket.descriptor.script.accept = s.socket.descriptor.script.accept
  sockets : t.system.sockets = s.system.sockets
  nextNumber : t.system.nextNumber = s.system.nextNumber
  noted : ∃ es, s.system.Noted t.system es ∧
    (∀ e ∈ es, e.Concerns s.socket.descriptor.number) ∧
    Event.closings s.socket.descriptor.number es + s.socket.closed.toNat = t.socket.closed.toNat

/-- What other threads leave as it was when they do no more than `i`. -/
structure Stays (i : Interference) (s t : Session) : Prop where
  within : t.socket.descriptor.script.Within i
  isOpen : i.closing = false → t.socket.closed = s.socket.closed
  stopAsked : i.stopping = false → t.system.stopAsked = s.system.stopAsked

theorem Handled.refl (s : Session) : s.Handled s :=
  ⟨rfl, rfl, rfl, rfl, [], .refl _, (fun _ h => nomatch h), Nat.zero_add _⟩

theorem Handled.trans {s t u : Session} (h : s.Handled t) (h' : t.Handled u) : s.Handled u := by
  obtain ⟨es, hes, hown, hclosings⟩ := h.noted
  obtain ⟨fs, hfs, hown', hclosings'⟩ := h'.noted
  rw [h.number] at hown' hclosings'
  refine ⟨h'.number.trans h.number, h'.accept.trans h.accept, h'.sockets.trans h.sockets,
    h'.nextNumber.trans h.nextNumber, es ++ fs, hes.trans hfs, fun e he => ?_, ?_⟩
  · rcases List.mem_append.1 he with he | he
    · exact hown e he
    · exact hown' e he
  · rw [Event.closings_append]
    omega

theorem Stays.trans {i : Interference} {s t u : Session} (h : s.Stays i t) (h' : t.Stays i u) :
    s.Stays i u where
  within := h'.within
  isOpen := fun hi => (h'.isOpen hi).trans (h.isOpen hi)
  stopAsked := fun hi => (h'.stopAsked hi).trans (h.stopAsked hi)

/-! ## 4. Closing -/

theorem noted_closeElsewhere {s : Session} (hopen : s.socket.closed = false) :
    ∃ answer, (∀ c, (Event.called c answer).delivered = []) ∧
      s.system.Noted s.closeElsewhere.system
        [.called (.on s.socket.descriptor.number .close) answer] := by
  rcases close_cases hopen rfl with ⟨t, ht, hnoted⟩ | ⟨f, t, ht, hnoted⟩
  · rw [closeElsewhere, ht]
    exact ⟨_, fun _ => rfl, hnoted⟩
  · rw [closeElsewhere, ht]
    exact ⟨_, fun _ => rfl, hnoted⟩

theorem system_closeElsewhere (s : Session) :
    s.closeElsewhere.system.sockets = s.system.sockets ∧
      s.closeElsewhere.system.nextNumber = s.system.nextNumber ∧
      s.closeElsewhere.system.stopAsked = s.system.stopAsked := by
  unfold closeElsewhere close
  split
  · exact ⟨rfl, rfl, rfl⟩
  · unfold release
    dsimp only
    cases (s.socket.descriptor.script.takeClose).1.outcome <;> exact ⟨rfl, rfl, rfl⟩

/-- **Closing** gives the descriptor back if the socket is open. -/
theorem handled_closeElsewhere (s : Session) : s.Handled s.closeElsewhere := by
  obtain ⟨hsockets, hnext, -⟩ := system_closeElsewhere s
  cases hc : s.socket.closed with
  | true =>
    rw [closeElsewhere_of_closed hc]
    exact .refl s
  | false =>
    obtain ⟨answer, -, hnoted⟩ := noted_closeElsewhere hc
    have hsocket := socket_closeElsewhere s hc
    refine ⟨by rw [hsocket], accept_closeElsewhere s, hsockets, hnext, _, hnoted, fun e he => ?_, ?_⟩
    · rw [List.mem_singleton.1 he]
      exact .operation (by decide)
    · rw [Event.closings_of_close, closed_closeElsewhere, hc]
      rfl

theorem within_closeElsewhere {i : Interference} {s : Session}
    (h : s.socket.descriptor.script.Within i) :
    s.closeElsewhere.socket.descriptor.script.Within i := by
  cases hc : s.socket.closed with
  | true =>
    rw [closeElsewhere_of_closed hc]
    exact h
  | false =>
    rw [socket_closeElsewhere s hc]
    exact { h with }

/-! ## 5. One call -/

theorem handled_heard (s : Session) (m : Interference) : s.Handled (s.heard m) :=
  ⟨rfl, rfl, rfl, rfl, [], .refl _, (fun _ h => nomatch h), Nat.zero_add _⟩

/-- **What other threads do** is done with the socket. -/
theorem handled_disturbed (s : Session) (m : Interference) : s.Handled (s.disturbed m) := by
  cases hc : m.closing with
  | false =>
    rw [disturbed_of_not_closing hc]
    exact handled_heard s m
  | true =>
    rw [disturbed_of_closing hc]
    exact (handled_heard s m).trans (handled_closeElsewhere _)

theorem stays_disturbed {i m : Interference} {s : Session}
    (hscript : s.socket.descriptor.script.Within i) (hm : i.Within m) :
    s.Stays i (s.disturbed m) := by
  have hheard : s.Stays i (s.heard m) := by
    refine ⟨hscript, fun _ => rfl, fun hi => ?_⟩
    have hstop : m.stopping = false :=
      eq_false_of_ne_true fun hs => absurd (hi.symm.trans (hm.2 hs)) Bool.false_ne_true
    show (s.system.stopAsked || m.stopping) = _
    rw [hstop, Bool.or_false]
  cases hc : m.closing with
  | false =>
    rw [disturbed_of_not_closing hc]
    exact hheard
  | true =>
    rw [disturbed_of_closing hc]
    refine hheard.trans ⟨within_closeElsewhere hheard.within, fun hi => ?_,
      fun _ => (system_closeElsewhere _).2.2⟩
    exact absurd (hi.symm.trans (hm.1 hc)) Bool.false_ne_true

section Call

variable {α : Type} {operation : Operation} {answer : Answer} {take : Script → Reply α × Script}
  {usual : Descriptor → Except SystemFailure α}

/-- What the descriptor says to a call, and what other threads do during it. -/
theorem reply_cases (d : Descriptor) (usual : Descriptor → Except SystemFailure α)
    (htake : Script.Regular Reply.toInterference take) :
    (d.reply take usual).descriptor.number = d.number ∧
      (d.reply take usual).descriptor.script.accept = d.script.accept ∧
      ∀ i, d.script.Within i → (d.reply take usual).descriptor.script.Within i ∧
        i.Within (d.reply take usual).toInterference := by
  unfold Descriptor.reply
  split
  · exact ⟨rfl, rfl, fun i h => ⟨h, Interference.within_of_alone rfl rfl⟩⟩
  · exact ⟨rfl, htake.accept _, fun i h => ⟨htake.rest i _ h, htake.reply i _ h⟩⟩

variable (htake : Script.Regular Reply.toInterference take)

include htake

theorem handled_afterCall (hcall : operation ≠ .accept ∧ operation ≠ .close) (s : Session) :
    s.Handled (s.afterCall operation answer (s.socket.descriptor.reply take usual)) := by
  obtain ⟨hnumber, haccept, -⟩ := reply_cases s.socket.descriptor usual htake
  refine Handled.trans (t := (s.replied _).noteCall operation answer)
    ⟨hnumber, haccept, rfl, rfl, _, System.Noted.note .., fun e he => ?_, ?_⟩ (handled_disturbed _ _)
  · rw [List.mem_singleton.1 he]
    exact hnumber ▸ .operation hcall.1
  · show Event.closings _ [.called (.on
      (s.socket.descriptor.reply take usual).descriptor.number operation) answer] + _ = _
    rw [hnumber, Event.closings_eq_zero hcall.2, Nat.zero_add]
    rfl

theorem stays_afterCall {i : Interference} (s : Session)
    (h : s.socket.descriptor.script.Within i) :
    s.Stays i (s.afterCall operation answer (s.socket.descriptor.reply take usual)) := by
  obtain ⟨-, -, hreply⟩ := reply_cases s.socket.descriptor usual htake
  obtain ⟨hwithin, hmeanwhile⟩ := hreply i h
  exact Stays.trans (t := (s.replied _).noteCall operation answer)
    ⟨hwithin, fun _ => rfl, fun _ => rfl⟩ (stays_disturbed hwithin hmeanwhile)

end Call

end Session

/-! ## 6. What is noted of a call -/

namespace Socket

/-- What another thread leaves of a socket that it closes. -/
structure Dropped (t : Session) : Prop where
  closed : t.socket.closed = true
  dead : t.socket.descriptor.dead = true
  buffer : t.socket.buffer = []

/-- What other threads do is not noted, unless it is that one closes the socket. -/
theorem disturbed_cases (s : Session) (m : Interference) :
    let t := s.disturbed m
    t.socket.descriptor.number = s.socket.descriptor.number ∧
      t.socket.ended = s.socket.ended ∧
      ((s.system.Noted t.system [] ∧ t.socket.buffer = s.socket.buffer ∧
          t.socket.closed = s.socket.closed) ∨
        s.socket.closed = false ∧
          ∃ closing, (∀ c, (Event.called c closing).delivered = []) ∧
            s.system.Noted t.system [.called (.on s.socket.descriptor.number .close) closing] ∧
            Dropped t) := by
  dsimp only
  cases hc : m.closing with
  | false =>
    rw [Session.disturbed_of_not_closing hc]
    exact ⟨rfl, rfl, .inl ⟨.refl _, rfl, rfl⟩⟩
  | true =>
    rw [Session.disturbed_of_closing hc]
    cases hclosed : (s.heard m).socket.closed with
    | true =>
      rw [Session.closeElsewhere_of_closed hclosed]
      exact ⟨rfl, rfl, .inl ⟨.refl _, rfl, rfl⟩⟩
    | false =>
      obtain ⟨closing, hanswer, hclosing⟩ := Session.noted_closeElsewhere hclosed
      have hsocket := Session.socket_closeElsewhere (s.heard m) hclosed
      exact ⟨by rw [hsocket]; rfl, Session.ended_closeElsewhere (s.heard m),
        .inr ⟨hclosed, closing, hanswer, hclosing,
          by rw [hsocket], by rw [hsocket], by rw [hsocket]⟩⟩

/-- Nothing but a closing is noted of what other threads do. -/
theorem noted_disturbed (s : Session) (m : Interference) :
    ∃ es, s.system.Noted (s.disturbed m).system es ∧
      ∀ e ∈ es, ∃ closing, e = .called (.on s.socket.descriptor.number .close) closing := by
  obtain ⟨-, -, ⟨hnoted, -⟩ | ⟨-, closing, -, hnoted, -⟩⟩ := disturbed_cases s m
  · exact ⟨_, hnoted, fun _ h => nomatch h⟩
  · exact ⟨_, hnoted, fun e he => ⟨closing, List.mem_singleton.1 he⟩⟩

/-- A call is noted alone, or together with the closing of the socket by another thread. -/
theorem afterCall_cases {α : Type} (take : Script → Reply α × Script) (operation : Operation)
    (usual : Descriptor → Except SystemFailure α) (answer : Answer) (s : Session) :
    let t := s.afterCall operation answer (s.socket.descriptor.reply take usual)
    t.socket.descriptor.number = s.socket.descriptor.number ∧
      t.socket.ended = s.socket.ended ∧
      ((s.system.Noted t.system [.called (.on s.socket.descriptor.number operation) answer] ∧
          t.socket.buffer = s.socket.buffer ∧ t.socket.closed = s.socket.closed) ∨
        s.socket.closed = false ∧
          ∃ closing, (∀ c, (Event.called c closing).delivered = []) ∧
            s.system.Noted t.system
              [.called (.on s.socket.descriptor.number operation) answer,
                .called (.on s.socket.descriptor.number .close) closing] ∧ Dropped t) := by
  have hnumber := s.socket.descriptor.number_reply take usual
  have hnoted : s.system.Noted
      ((s.replied (s.socket.descriptor.reply take usual)).noteCall operation answer).system
      [.called (.on s.socket.descriptor.number operation) answer] := by
    rw [← hnumber]
    exact System.Noted.note ..
  obtain ⟨hsame, hended, ⟨hquiet, hbuffer, hclosed⟩ | ⟨hopen, closing, hanswer, hclosing, hdropped⟩⟩ :=
    disturbed_cases ((s.replied (s.socket.descriptor.reply take usual)).noteCall operation answer)
      (s.socket.descriptor.reply take usual).toInterference
  · exact ⟨hsame.trans hnumber, hended, .inl ⟨hnoted.trans hquiet, hbuffer, hclosed⟩⟩
  · refine ⟨hsame.trans hnumber, hended, .inr ⟨hopen, closing, hanswer, ?_, hdropped⟩⟩
    rw [← hnumber]
    exact (hnumber ▸ hnoted).trans hclosing

end Socket

/-! ## 7. What is left -/

/-- Something was done with the socket, and other threads left of it what they leave. -/
structure Session.Leaves (s t : Session) : Prop where
  handled : s.Handled t
  stays : ∀ i : Interference, s.socket.descriptor.script.Within i → s.Stays i t

/-- No call was made: the descriptor, the mark, and all of the system but what was said are as they
were. -/
structure Session.Alike (s t : Session) : Prop where
  number : t.socket.descriptor.number = s.socket.descriptor.number
  script : t.socket.descriptor.script = s.socket.descriptor.script
  closed : t.socket.closed = s.socket.closed
  system : ∃ log, t.system = { s.system with log }

namespace Session

variable {s t u : Session}

theorem Leaves.refl (s : Session) : s.Leaves s :=
  ⟨.refl s, fun _ hi => ⟨hi, fun _ => rfl, fun _ => rfl⟩⟩

theorem Leaves.trans (h : s.Leaves t) (h' : t.Leaves u) : s.Leaves u where
  handled := h.handled.trans h'.handled
  stays := fun i hi => (h.stays i hi).trans (h'.stays i (h.stays i hi).within)

theorem Alike.leaves (h : s.Alike t) : s.Leaves t := by
  obtain ⟨hnumber, hscript, hclosed, log, hlog⟩ := h
  have hnoted : s.system.Noted t.system [] := by
    rw [hlog]
    exact .refl _
  have hclosings : Event.closings s.socket.descriptor.number [] + s.socket.closed.toNat
      = t.socket.closed.toNat := by
    rw [hclosed]
    exact Nat.zero_add _
  have hhandled : s.Handled t :=
    { number := hnumber
      accept := by rw [hscript]
      sockets := by rw [hlog]
      nextNumber := by rw [hlog]
      noted := ⟨[], hnoted, (fun _ h => nomatch h), hclosings⟩ }
  exact ⟨hhandled, fun i hi => ⟨hscript ▸ hi, fun _ => hclosed, fun _ => by rw [hlog]⟩⟩

end Session

/-! ## 8. Steps and runs -/

/-- Any calls but those that take a connection and those that close the socket. -/
def Permit.regular : Permit := fun _ operation => operation ≠ .accept ∧ operation ≠ .close

/-- The event is a call, and if it is one on a descriptor then one that is allowed. Closing always
is, and where connections are taken they are told to wait for as long as they like. -/
def Event.Allowed (may : Permit) : Event → Prop
  | .called (.on _ operation) _ =>
    operation = .close ∨ (∃ s, may s operation) ∨ (operation = .setTimeout none ∧ ∃ s, may s .accept)
  | .called _ _ => True
  | .threadEnded _ => False

namespace Session

/-- A look-up, during which other threads do no more than the script says. -/
theorem leaves_afterOutside {s : Session} {take : Script → Interference × Script} {system : System}
    {e : Event} (htake : Script.Regular id take) (hsockets : system.sockets = s.system.sockets)
    (hnext : system.nextNumber = s.system.nextNumber)
    (hstop : system.stopAsked = s.system.stopAsked) (hnoted : s.system.Noted system [e])
    (hconcerns : e.Concerns s.socket.descriptor.number)
    (hcloses : Event.closings s.socket.descriptor.number [e] = 0) :
    s.Leaves (s.afterOutside (take s.socket.descriptor.script) system) := by
  let t : Session :=
    { s with socket.descriptor.script := (take s.socket.descriptor.script).2, system }
  have hall : ∀ e' ∈ [e], e'.Concerns s.socket.descriptor.number := by
    intro e' he
    rw [List.mem_singleton.1 he]
    exact hconcerns
  have hclosings : Event.closings s.socket.descriptor.number [e] + s.socket.closed.toNat
      = s.socket.closed.toNat := by
    rw [hcloses]
    exact Nat.zero_add _
  have hhandled : s.Handled t :=
    ⟨rfl, htake.accept _, hsockets, hnext, [e], hnoted, hall, hclosings⟩
  refine ⟨hhandled.trans (handled_disturbed t _), fun i hi => ?_⟩
  have hstays : s.Stays i t := ⟨htake.rest i _ hi, fun _ => rfl, fun _ => hstop⟩
  exact hstays.trans (stays_disturbed hstays.within (htake.reply i _ hi))

theorem Step.leaves {s t : Session} (h : Step Permit.regular s t) : s.Leaves t := by
  cases h with
  | call hmay htake =>
    have hregular := htake.regular hmay.1
    exact ⟨handled_afterCall hregular hmay s, fun _ => stays_afterCall hregular s⟩
  | close hmay => exact absurd rfl hmay.2
  | lookUp =>
    exact leaves_afterOutside Script.regular_takeLookUp rfl rfl rfl (System.Noted.note ..) .lookUp rfl
  | describe =>
    exact leaves_afterOutside Script.regular_takeDescribe rfl rfl rfl (System.Noted.note ..) .describe
      rfl
  | say => exact Alike.leaves ⟨rfl, rfl, rfl, _, rfl⟩
  | store => exact Alike.leaves ⟨rfl, rfl, rfl, _, rfl⟩
  | attach => exact Alike.leaves ⟨rfl, rfl, rfl, _, rfl⟩
  | occupy => exact Alike.leaves ⟨rfl, rfl, rfl, _, rfl⟩
  | adopt hmay =>
    obtain ⟨u, hmay⟩ := hmay
    exact absurd rfl hmay.1

/-- **Steps are confined** to the socket. -/
theorem Steps.leaves {s t : Session} (h : Steps Permit.regular s t) : s.Leaves t :=
  h.keep Leaves.refl Leaves.trans Step.leaves

/-- **Steps make the calls that they may.** -/
theorem Steps.allowed {may : Permit} {s t : Session} (h : Steps may s t) :
    ∃ es, s.system.Noted t.system es ∧ ∀ e ∈ es, e.Allowed may := by
  have hone : ∀ e : Event, e.Allowed may → ∀ e' ∈ [e], e'.Allowed may := by
    intro e he e' he'
    rw [List.mem_singleton.1 he']
    exact he
  have houtside : ∀ {s : Session} {system : System} {e : Event} (r : Interference × Script),
      s.system.Noted system [e] → e.Allowed may →
      ∃ es, s.system.Noted (s.afterOutside r system).system es ∧ ∀ e ∈ es, e.Allowed may := by
    intro s system e r hnoted he
    obtain ⟨es, hes, hcloses⟩ :=
      Socket.noted_disturbed { s with socket.descriptor.script := r.2, system } r.1
    refine ⟨e :: es, hnoted.trans hes, List.forall_mem_cons.2 ⟨he, fun e' he' => ?_⟩⟩
    obtain ⟨closing, rfl⟩ := hcloses e' he'
    exact .inl rfl
  refine Steps.keep (R := fun s t => ∃ es, s.system.Noted t.system es ∧ ∀ e ∈ es, e.Allowed may)
    (fun s => ⟨[], .refl _, fun _ h => nomatch h⟩) ?_ ?_ h
  · rintro s t u ⟨es, hes, hall⟩ ⟨fs, hfs, hall'⟩
    exact ⟨es ++ fs, hes.trans hfs, List.forall_mem_append.2 ⟨hall, hall'⟩⟩
  · intro s t hstep
    cases hstep with
    | @call α operation answer take usual hmay htake =>
      have hcall : ∀ n, (Event.called (.on n operation) answer).Allowed may :=
        fun _ => .inr (.inl ⟨s, hmay⟩)
      obtain ⟨-, -, ⟨hnoted, -⟩ | ⟨-, closing, -, hnoted, -⟩⟩ :=
        Socket.afterCall_cases take operation usual answer s
      · exact ⟨_, hnoted, hone _ (hcall _)⟩
      · exact ⟨_, hnoted, List.forall_mem_cons.2 ⟨hcall _, hone _ (.inl rfl)⟩⟩
    | close hmay =>
      cases hc : s.socket.closed with
      | true =>
        rw [closeElsewhere_of_closed hc]
        exact ⟨[], .refl _, fun _ h => nomatch h⟩
      | false =>
        obtain ⟨answer, -, hnoted⟩ := noted_closeElsewhere hc
        exact ⟨_, hnoted, hone _ (.inl rfl)⟩
    | lookUp => exact houtside _ (System.Noted.note ..) trivial
    | describe => exact houtside _ (System.Noted.note ..) trivial
    | say => exact ⟨[], .refl _, fun _ h => nomatch h⟩
    | store => exact ⟨[], .refl _, fun _ h => nomatch h⟩
    | attach => exact ⟨[], .refl _, fun _ h => nomatch h⟩
    | occupy => exact ⟨[], .refl _, fun _ h => nomatch h⟩
    | adopt hmay => exact ⟨_, System.Noted.note .., hone _ (.inr (.inr ⟨rfl, hmay⟩))⟩

end Session

/-- Every run of `x` is confined to its socket. -/
structure Confined {ε α : Type} (x : EStateM ε Session α) : Prop where
  leaves : ∀ s : Session, s.Leaves (after (x s))

section Runs

variable {ε α : Type} {x : EStateM ε Session α}

theorem Stepwise.confined (hx : Stepwise Permit.regular x) : Confined x :=
  ⟨fun s => (hx.steps s).leaves⟩

theorem Confined.of_ok (hx : Confined x) {s t : Session} {a : α} (h : x s = .ok a t) :
    s.Leaves t := by
  have hs := hx.leaves s
  rw [h] at hs
  exact hs

theorem Confined.of_error (hx : Confined x) {s t : Session} {e : ε} (h : x s = .error e t) :
    s.Leaves t := by
  have hs := hx.leaves s
  rw [h] at hs
  exact hs

end Runs

theorem Socket.confined_portOf (e : End) : Confined (portOf e) := by
  refine (stepwise_portOf fun _ _ => ?_).confined
  cases e <;> exact ⟨Operation.noConfusion, Operation.noConfusion⟩

namespace Responder

theorem leaves_serve (plan : Plan) (s : Session) : s.Leaves (serve plan s).session :=
  (steps_serve (fun _ _ => ⟨Operation.noConfusion, Operation.noConfusion⟩)
    (fun _ _ => ⟨Operation.noConfusion, Operation.noConfusion⟩)
    (fun _ _ _ _ => ⟨Operation.noConfusion, Operation.noConfusion⟩) s).leaves

/-- A visit ends with the connection closed. -/
theorem conclude_eq (v : Visit) :
    ∃ t, v.session.Alike t ∧ v.conclude.2 = t.closeElsewhere := by
  obtain ⟨u, hu, hclosed⟩ := conclude_cases v
  refine ⟨u, ?_, hclosed⟩
  rcases hu with rfl | ⟨message, rfl⟩
  · exact ⟨rfl, rfl, rfl, _, rfl⟩
  · exact ⟨rfl, rfl, rfl, _, rfl⟩

end Responder

end HttpProbe
