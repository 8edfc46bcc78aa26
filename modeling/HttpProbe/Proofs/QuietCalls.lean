import HttpProbe.Socket.Basic

/-!
# Calls during which nobody closes the socket

Another thread may close a socket during any call on it. Where none does, a call is simple: the
descriptor says what its script holds, the call is noted with its answer, and nothing else happens.
This file fixes how such a session is spoken of:

* `System.Noted s t es`: from `s` to `t` the events `es` happened and no others;
* `Script.Quiet`: nobody closes the socket during a call that a client makes;
* `Session.settled`: the session after a call in which nobody closed the socket (`call_quiet`);
* `Session.Keeps`, `Session.Called`: what such a call leaves as it was (`call_ok`, `call_error`).
-/

namespace HttpProbe

/-! ## 1. What was noted -/

/-- From `s` to `t` the events `es` happened, in this order, and no others. -/
def System.Noted (s t : System) (es : List Event) : Prop :=
  t.events.toList = s.events.toList ++ es

namespace System.Noted

theorem refl (s : System) : s.Noted s [] := (List.append_nil _).symm

theorem trans {s t u : System} {es fs : List Event} (h : s.Noted t es) (h' : t.Noted u fs) :
    s.Noted u (es ++ fs) := by
  have hu : u.events.toList = t.events.toList ++ fs := h'
  have ht : t.events.toList = s.events.toList ++ es := h
  rw [System.Noted, hu, ht, List.append_assoc]

theorem note (s : System) (e : Event) : s.Noted (s.note e) [e] := Array.toList_push

theorem unique {s t : System} {es fs : List Event} (h : s.Noted t es) (h' : s.Noted t fs) :
    es = fs :=
  List.append_cancel_left (h.symm.trans h')

end System.Noted

/-! ## 2. Scripts in which nobody closes the socket -/

/-- Nobody closes the socket during one of the calls that a client makes. -/
structure Script.Quiet (s : Script) : Prop where
  setTimeout : ∀ r ∈ s.setTimeout, r.closing = false
  connect : ∀ r ∈ s.connect, r.closing = false
  sendAll : ∀ r ∈ s.sendAll, r.closing = false
  recv : ∀ r ∈ s.recv, r.closing = false
  getpeername : ∀ r ∈ s.getpeername, r.closing = false
  lookUp : ∀ m ∈ s.lookUp, m.closing = false
  describe : ∀ m ∈ s.describe, m.closing = false

instance (s : Script) : Decidable s.Quiet :=
  decidable_of_iff
    ((∀ r ∈ s.setTimeout, r.closing = false) ∧ (∀ r ∈ s.connect, r.closing = false) ∧
      (∀ r ∈ s.sendAll, r.closing = false) ∧ (∀ r ∈ s.recv, r.closing = false) ∧
      (∀ r ∈ s.getpeername, r.closing = false) ∧ (∀ m ∈ s.lookUp, m.closing = false) ∧
      ∀ m ∈ s.describe, m.closing = false)
    ⟨fun ⟨h₁, h₂, h₃, h₄, h₅, h₆, h₇⟩ => ⟨h₁, h₂, h₃, h₄, h₅, h₆, h₇⟩,
      fun ⟨h₁, h₂, h₃, h₄, h₅, h₆, h₇⟩ => ⟨h₁, h₂, h₃, h₄, h₅, h₆, h₇⟩⟩

theorem Interference.closing_next {q : List Interference} (h : ∀ m ∈ q, m.closing = false) :
    (Interference.next q).1.closing = false := by
  cases q with
  | nil => rfl
  | cons m rest => exact h m List.mem_cons_self

theorem Interference.mem_of_mem_next {q : List Interference} {m : Interference}
    (h : m ∈ (Interference.next q).2) : m ∈ q := by
  cases q with
  | nil => exact h
  | cons m' rest => exact List.mem_cons_of_mem _ h

theorem Reply.closing_next {α : Type} {q : List (Reply α)} (h : ∀ r ∈ q, r.closing = false) :
    (Reply.next q).1.closing = false := by
  cases q with
  | nil => rfl
  | cons r rest => exact h r List.mem_cons_self

theorem Reply.mem_of_mem_next {α : Type} {q : List (Reply α)} {r : Reply α}
    (h : r ∈ (Reply.next q).2) : r ∈ q := by
  cases q with
  | nil => exact h
  | cons r' rest => exact List.mem_cons_of_mem _ h

theorem Reply.mem_of_next_value {α : Type} {q : List (Reply α)} {a : α}
    (h : (Reply.next q).1.outcome = .value a) : ∃ r ∈ q, r.outcome = .value a := by
  cases q with
  | nil => cases h
  | cons r rest => exact ⟨r, List.mem_cons_self, h⟩

theorem Reply.mem_of_next_failure {α : Type} {q : List (Reply α)} {f : SystemFailure}
    (h : (Reply.next q).1.outcome = .failure f) : ∃ r ∈ q, r.outcome = .failure f := by
  cases q with
  | nil => cases h
  | cons r rest => exact ⟨r, List.mem_cons_self, h⟩

namespace Script.Quiet

variable {s : Script}

theorem takeSetTimeout (h : s.Quiet) : s.takeSetTimeout.2.Quiet :=
  { h with setTimeout := fun r hr => h.setTimeout r (Reply.mem_of_mem_next hr) }

theorem takeConnect (h : s.Quiet) : s.takeConnect.2.Quiet :=
  { h with connect := fun r hr => h.connect r (Reply.mem_of_mem_next hr) }

theorem takeSendAll (h : s.Quiet) : s.takeSendAll.2.Quiet :=
  { h with sendAll := fun r hr => h.sendAll r (Reply.mem_of_mem_next hr) }

theorem takeGetpeername (h : s.Quiet) : s.takeGetpeername.2.Quiet :=
  { h with getpeername := fun r hr => h.getpeername r (Reply.mem_of_mem_next hr) }

theorem takeLookUp (h : s.Quiet) : s.takeLookUp.2.Quiet :=
  { h with lookUp := fun m hm => h.lookUp m (Interference.mem_of_mem_next hm) }

theorem takeDescribe (h : s.Quiet) : s.takeDescribe.2.Quiet :=
  { h with describe := fun m hm => h.describe m (Interference.mem_of_mem_next hm) }

/-- What is left of a reception that was too long is a reply of its own, and a quiet one. -/
theorem takeRecv (h : s.Quiet) (size : Nat) :
    (s.takeRecv size).1.closing = false ∧ (s.takeRecv size).2.Quiet := by
  have hrest : ∀ r ∈ (Reply.next s.recv).2, r.closing = false :=
    fun r hr => h.recv r (Reply.mem_of_mem_next hr)
  have hnext := Reply.closing_next h.recv
  unfold Script.takeRecv
  dsimp only
  split
  · refine ⟨hnext, { h with recv := fun r hr => ?_ }⟩
    dsimp only at hr
    split at hr
    · exact hrest r hr
    · rcases List.mem_cons.1 hr with rfl | hr
      · rfl
      · exact hrest r hr
  · exact ⟨hnext, { h with recv := hrest }⟩

end Script.Quiet

/-! ## 3. A call in which nobody closes the socket -/

/-- A call leaves the number of the descriptor as it is. -/
theorem Descriptor.number_reply {α : Type} (d : Descriptor) (take : Script → Reply α × Script)
    (usual : Descriptor → Except SystemFailure α) :
    (d.reply take usual).descriptor.number = d.number := by
  unfold reply
  split <;> rfl

namespace Session

variable {α : Type}

/-- The session after a call to which the descriptor said `r` and in which nobody closed it. -/
def settled (s : Session) (operation : Operation) (answer : Answer) (r : Descriptor.Response α) :
    Session :=
  ((s.replied r).noteCall operation answer).heard r.toInterference

theorem disturbed_of_not_closing {s : Session} {m : Interference} (h : m.closing = false) :
    s.disturbed m = s.heard m :=
  if_neg (ne_true_of_eq_false h)

theorem disturbed_of_closing {s : Session} {m : Interference} (h : m.closing = true) :
    s.disturbed m = (s.heard m).closeElsewhere :=
  if_pos h

theorem afterCall_of_not_closing {s : Session} {operation : Operation} {answer : Answer}
    {r : Descriptor.Response α} (h : r.closing = false) :
    s.afterCall operation answer r = s.settled operation answer r :=
  disturbed_of_not_closing h

theorem closing_reply {d : Descriptor} {take : Script → Reply α × Script}
    {usual : Descriptor → Except SystemFailure α} (h : (take d.script).1.closing = false) :
    (d.reply take usual).closing = false := by
  unfold Descriptor.reply
  split
  · rfl
  · exact h

/-- **A call in which nobody closes the socket** comes to what the descriptor says, and is noted. -/
theorem call_quiet {operation : Operation} {take : Script → Reply α × Script}
    {usual : Descriptor → Except SystemFailure α} {data : α → Answer} {s : Session}
    (h : (take s.socket.descriptor.script).1.closing = false) :
    call operation take usual data s =
      match (s.socket.descriptor.reply take usual).result with
      | .ok a => .ok a (s.settled operation (data a) (s.socket.descriptor.reply take usual))
      | .error f => .error f (s.settled operation (.failed f)
          (s.socket.descriptor.reply take usual)) := by
  have hr : (s.socket.descriptor.reply take usual).closing = false := closing_reply h
  cases hresult : (s.socket.descriptor.reply take usual).result with
  | ok a => simp only [call, hresult, afterCall_of_not_closing hr]
  | error f => simp only [call, hresult, afterCall_of_not_closing hr]

/-- The session after a call that is not on the descriptor and in which nobody closed it. -/
def apart (s : Session) (r : Interference × Script) (system : System) : Session :=
  { s with socket.descriptor.script := r.2, system }.heard r.1

/-- **A call that is not on the descriptor**, in which nobody closes the socket. -/
theorem outside_quiet {take : Script → Interference × Script} {x : EStateM SystemFailure System α}
    {s : Session} (h : (take s.socket.descriptor.script).1.closing = false) :
    outside take x s =
      match x s.system with
      | .ok a system => .ok a (s.apart (take s.socket.descriptor.script) system)
      | .error f system => .error f (s.apart (take s.socket.descriptor.script) system) := by
  have hleft : ∀ system, s.afterOutside (take s.socket.descriptor.script) system
      = s.apart (take s.socket.descriptor.script) system := fun _ => disturbed_of_not_closing h
  unfold outside
  cases x s.system with
  | ok a system => exact congrArg (EStateM.Result.ok a) (hleft system)
  | error f system => exact congrArg (EStateM.Result.error f) (hleft system)

/-- What a call in which nobody closes the socket leaves as it was. -/
structure Keeps (s t : Session) : Prop where
  closed : t.socket.closed = s.socket.closed
  number : t.socket.descriptor.number = s.socket.descriptor.number
  dead : t.socket.descriptor.dead = s.socket.descriptor.dead
  quiet : s.socket.descriptor.script.Quiet → t.socket.descriptor.script.Quiet

theorem Keeps.refl (s : Session) : s.Keeps s := ⟨rfl, rfl, rfl, id⟩

theorem Keeps.trans {s t u : Session} (h : s.Keeps t) (h' : t.Keeps u) : s.Keeps u where
  closed := h'.closed.trans h.closed
  number := h'.number.trans h.number
  dead := h'.dead.trans h.dead
  quiet := h'.quiet ∘ h.quiet

/-- The socket is open, and nobody else will close it. -/
structure Usable (s : Session) : Prop where
  isOpen : s.socket.closed = false
  alive : s.socket.descriptor.dead = false
  quiet : s.socket.descriptor.script.Quiet

theorem Usable.of_keeps {s t : Session} (h : s.Usable) (hk : s.Keeps t) : t.Usable where
  isOpen := hk.closed.trans h.isOpen
  alive := hk.dead.trans h.alive
  quiet := hk.quiet h.quiet

/-- A descriptor that was not given back uses one reply up to fail too. -/
theorem reply_error {d : Descriptor} {take : Script → Reply α × Script}
    {usual : Descriptor → Except SystemFailure α} {f : SystemFailure} (hd : d.dead = false)
    (h : (d.reply take usual).result = .error f) :
    (take d.script).1.outcome = .failure f ∨
      (take d.script).1.outcome = .usual ∧ usual d = .error f := by
  unfold Descriptor.reply at h
  rw [if_neg (by rw [hd]; exact Bool.false_ne_true)] at h
  dsimp only at h
  cases ho : (take d.script).1.outcome with
  | usual =>
    rw [ho] at h
    exact .inr ⟨rfl, h⟩
  | value a =>
    rw [ho] at h
    cases h
  | failure g =>
    rw [ho] at h
    cases h
    exact .inl rfl

/-- A call with this answer was made, and all else of the session that was not the call's is as it
was. -/
structure Called (s : Session) (operation : Operation) (answer : Answer) (t : Session) : Prop where
  keeps : s.Keeps t
  buffer : t.socket.buffer = s.socket.buffer
  ended : t.socket.ended = s.socket.ended
  peer : t.socket.descriptor.peer = s.socket.descriptor.peer
  descriptions : t.system.descriptions = s.system.descriptions
  limit : t.system.sizeLimit = s.system.sizeLimit
  noted : s.system.Noted t.system [.called (.on s.socket.descriptor.number operation) answer]

section Called

variable {operation : Operation} {take : Script → Reply α × Script}
  {usual : Descriptor → Except SystemFailure α} {data : α → Answer} {s t : Session}

theorem called_settled (answer : Answer)
    (h : s.socket.descriptor.script.Quiet → (take s.socket.descriptor.script).2.Quiet) :
    s.Called operation answer
      (s.settled operation answer (s.socket.descriptor.reply take usual)) := by
  have hnumber := s.socket.descriptor.number_reply take usual
  have hdead : (s.socket.descriptor.reply take usual).descriptor.dead
      = s.socket.descriptor.dead := by
    unfold Descriptor.reply
    split <;> rfl
  have hpeer : (s.socket.descriptor.reply take usual).descriptor.peer
      = s.socket.descriptor.peer := by
    unfold Descriptor.reply
    split <;> rfl
  have hquiet : s.socket.descriptor.script.Quiet →
      (s.socket.descriptor.reply take usual).descriptor.script.Quiet := by
    unfold Descriptor.reply
    split
    · exact id
    · exact h
  refine ⟨⟨rfl, hnumber, hdead, hquiet⟩, rfl, rfl, hpeer, rfl, rfl, ?_⟩
  rw [← hnumber]
  exact System.Noted.note ..

theorem call_ok {a : α} (hclosing : (take s.socket.descriptor.script).1.closing = false)
    (h : call operation take usual data s = .ok a t) :
    (s.socket.descriptor.reply take usual).result = .ok a ∧
      t = s.settled operation (data a) (s.socket.descriptor.reply take usual) := by
  rw [call_quiet hclosing] at h
  cases hr : (s.socket.descriptor.reply take usual).result with
  | error f => rw [hr] at h; cases h
  | ok b =>
    rw [hr] at h
    obtain ⟨rfl, rfl⟩ := EStateM.Result.ok.inj h
    exact ⟨rfl, rfl⟩

theorem call_error {f : SystemFailure}
    (hclosing : (take s.socket.descriptor.script).1.closing = false)
    (h : call operation take usual data s = .error f t) :
    (s.socket.descriptor.reply take usual).result = .error f ∧
      t = s.settled operation (.failed f) (s.socket.descriptor.reply take usual) := by
  rw [call_quiet hclosing] at h
  cases hr : (s.socket.descriptor.reply take usual).result with
  | ok b => rw [hr] at h; cases h
  | error f' =>
    rw [hr] at h
    obtain ⟨rfl, rfl⟩ := EStateM.Result.error.inj h
    exact ⟨rfl, rfl⟩

end Called

end Session

end HttpProbe
