import HttpProbe.Proofs.CallSequences
import HttpProbe.Proofs.LineReceptions

/-!
# One reception that nobody disturbs

A reader that has nothing left to read receives once. What that comes to is told from the next reply
alone, if nobody closes the socket meanwhile:

* `Part`, `Incoming`: what a reception may come to;
* `Reply.Hands`, `Reply.Brings`: the reply hands over these octets, or brings this;
* `Socket.Fresh`: there is nothing left to read;
* **`Socket.read_of_brings`**: a read of a fresh session comes to what the reply brings. Nothing
  else happens, and the session is fresh again (`Socket.Received`).
-/

namespace HttpProbe

/-! ## 1. What comes -/

/-- Octets that one reception can deliver. -/
structure Part where
  octets : Bytes
  filled : octets ≠ []
  fits : octets.length ≤ Socket.readSize

/-- What one reception comes to. -/
inductive Incoming where
  | part (p : Part)
  | ended
  | failed (f : SystemFailure)

namespace Incoming

/-- The octets that come. -/
def octets : Incoming → Bytes
  | part p => p.octets
  | _ => []

/-- What is noted of the reception. -/
def answer : Incoming → Answer
  | part p => .delivered p.octets
  | ended => .delivered []
  | failed f => .failed f

/-- What a read comes to that leaves this session. -/
def result (i : Incoming) (t : Session) : EStateM.Result Failure Session Bytes :=
  match i with
  | part p => .ok p.octets t
  | ended => .ok [] t
  | failed f => .error (.translated f) t

end Incoming

/-- The reply hands over this part of what the peer sends, and nobody closes the socket. -/
structure Reply.Hands (r : Reply Bytes) (part : Bytes) : Prop where
  outcome : r.outcome = .value part
  quiet : r.closing = false
  filled : part ≠ []
  fits : part.length ≤ Socket.readSize

/-- The reply brings what is to come, and nobody closes the socket. -/
inductive Reply.Brings (r : Reply Bytes) : Incoming → Prop where
  | part {p : Part} (h : r.Hands p.octets) : Brings r (.part p)
  | ended (hquiet : r.closing = false) (h : r.outcome = .usual ∨ r.outcome = .value []) :
    Brings r .ended
  | failed {f : SystemFailure} (hquiet : r.closing = false) (h : r.outcome = .failure f) :
    Brings r (.failed f)

/-! ## 2. What a read comes to -/

namespace Socket

/-- Nothing was received and not read yet, and the socket is open. -/
structure Fresh (s : Session) : Prop where
  isOpen : s.socket.closed = false
  alive : s.socket.descriptor.dead = false
  empty : s.socket.buffer = []

theorem Fresh.of_aside {s t : Session} (h : Fresh s) (haside : s.Aside t) : Fresh t :=
  ⟨haside.keeps.closed.trans h.isOpen, haside.keeps.dead.trans h.alive,
    haside.buffer.trans h.empty⟩

theorem takeRecv_of_brings {s : Script} {i : Incoming} (h : (Reply.next s.recv).1.Brings i) :
    s.takeRecv readSize = ((Reply.next s.recv).1, { s with recv := (Reply.next s.recv).2 }) := by
  unfold Script.takeRecv
  cases h with
  | @part p h =>
    have hfits : p.octets.length ≤ readSize := h.fits
    simp only [h.outcome, if_pos hfits, List.take_of_length_le hfits]
    rw [← h.outcome]
  | ended _ h =>
    rcases h with h | h
    · simp only [h]
    · simp only [h, List.take_nil, List.length_nil, if_pos (Nat.zero_le readSize)]
      rw [← h]
  | failed _ h => simp only [h]

theorem closing_of_brings {r : Reply Bytes} {i : Incoming} (h : r.Brings i) :
    r.closing = false := by
  cases h with
  | part h => exact h.quiet
  | ended hquiet _ => exact hquiet
  | failed hquiet _ => exact hquiet

/-- The session when a reception got this answer. -/
def afterReception (s : Session) (answer : Answer) : Session :=
  s.settled (.recv readSize) answer
    (s.socket.descriptor.reply (Script.takeRecv readSize) fun _ => .ok [])

/-- From `s` one reception led to `t`, and it was this. -/
structure Received (s : Session) (i : Incoming) (t : Session) : Prop where
  fresh : Fresh t
  number : t.socket.descriptor.number = s.socket.descriptor.number
  recv : t.socket.descriptor.script.recv = (Reply.next s.socket.descriptor.script.recv).2
  noted : s.system.Noted t.system [reception s.socket.descriptor.number i.answer]

section Reception

variable {s : Session} {i : Incoming}

theorem received_afterReception (hs : Fresh s)
    (h : (Reply.next s.socket.descriptor.script.recv).1.Brings i) :
    Received s i (afterReception s i.answer) := by
  have hcalled : s.Called (.recv readSize) i.answer (afterReception s i.answer) :=
    Session.called_settled _ fun hquiet => (hquiet.takeRecv readSize).2
  have hscript : (afterReception s i.answer).socket.descriptor.script
      = (s.socket.descriptor.script.takeRecv readSize).2 := Descriptor.script_reply hs.alive
  refine ⟨⟨hcalled.keeps.closed.trans hs.isOpen, hcalled.keeps.dead.trans hs.alive,
    hcalled.buffer.trans hs.empty⟩, hcalled.keeps.number, ?_, hcalled.noted⟩
  rw [hscript, takeRecv_of_brings h]

theorem call_of_brings (hs : Fresh s)
    (h : (Reply.next s.socket.descriptor.script.recv).1.Brings i) :
    Session.call (.recv readSize) (Script.takeRecv readSize) (fun _ => .ok []) .delivered s =
      match i with
      | .part p => .ok p.octets (afterReception s i.answer)
      | .ended => .ok [] (afterReception s i.answer)
      | .failed f => .error f (afterReception s i.answer) := by
  have htake := takeRecv_of_brings h
  have hclosing : (s.socket.descriptor.script.takeRecv readSize).1.closing = false := by
    rw [htake]
    exact closing_of_brings h
  have hresult : (s.socket.descriptor.reply (Script.takeRecv readSize)
      fun _ => .ok []).result = match i with
        | .part p => .ok p.octets
        | .ended => .ok []
        | .failed f => .error f := by
    rw [Descriptor.reply, if_neg (ne_true_of_eq_false hs.alive), htake]
    cases h with
    | part h => simp only [h.outcome]
    | ended _ h => rcases h with h | h <;> simp only [h]
    | failed _ h => simp only [h]
  rw [Session.call_quiet hclosing, hresult]
  cases i <;> rfl

/-- **One reception** comes to what its reply brings, and nothing else happens. -/
theorem read_of_brings (hs : Fresh s)
    (h : (Reply.next s.socket.descriptor.script.recv).1.Brings i) :
    ∃ t, read readSize s = i.result t ∧ Received s i t := by
  have hread : read readSize s = receive readSize s := by
    have htakes : s.system.takesSize (readSize : Int).toNat = true := takesSize_readSize _
    rw [read_eq, hs.isOpen, hs.empty, if_pos htakes]
    rfl
  have hreceived := received_afterReception hs h
  rw [hread, receive, call_of_brings hs h]
  cases i with
  | part p =>
    have hfilled : p.octets.isEmpty = false := List.isEmpty_eq_false_iff.2 p.filled
    refine ⟨_, ?_, hreceived⟩
    dsimp only
    rw [hfilled, if_neg Bool.false_ne_true]
    rfl
  | ended =>
    obtain ⟨⟨hopen, halive, hempty⟩, hnumber, hrecv, hnoted⟩ := hreceived
    exact ⟨_, rfl, ⟨hopen, halive, hempty⟩, hnumber, hrecv, hnoted⟩
  | failed f =>
    refine ⟨_, ?_, hreceived⟩
    dsimp only
    rw [hreceived.fresh.isOpen]
    rfl

end Reception

end Socket

end HttpProbe
