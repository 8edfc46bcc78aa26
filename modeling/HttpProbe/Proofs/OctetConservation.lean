import Mathlib.Data.List.Forall2
import HttpProbe.Proofs.LineReceptions

/-!
# No octet is lost and none is read twice

Reads of a size and reads of a line share one buffer, and either may fail half way. Over a run of
any operations on a stream that nobody closes meanwhile:

* `Use`, `Use.perform`, `history`: a run, operation by operation;
* `Takes`: the octets that one operation takes out of the stream. A read takes what it gives, a line
  is the text of what was taken, and an operation that fails takes nothing;
* `conserves_perform`: what was in the buffer and what one operation received is what it took and
  what is left in the buffer;
* **`octets_conserved`**: so it is after every operation of a run.
-/

namespace HttpProbe.Socket

/-! ## 1. Runs of operations -/

/-- An operation on a stream. -/
inductive Use where
  | read (size : Int)
  | readLine
  | write (payload : Payload)
  | writeLine (payload : Payload)
  | flush

/-- What an operation gives. -/
inductive Yield where
  | octets (data : Bytes)
  | line (text : String)
  | count (n : Nat)
  | nothing

def Use.perform : Use → SocketM Yield
  | read size => Yield.octets <$> Socket.read size
  | readLine => Yield.line <$> Socket.readLine
  | write payload => Yield.count <$> Socket.write payload
  | writeLine payload => Yield.count <$> Socket.writeLine payload
  | flush => (fun _ => Yield.nothing) <$> Socket.flush

/-- One operation of a run and what it came to. -/
structure Turn where
  use : Use
  result : EStateM.Result Failure Session Yield

/-- A run of operations. One that failed does not end it. -/
def history (s : Session) : List Use → List Turn
  | [] => []
  | u :: us => ⟨u, u.perform s⟩ :: history (after (u.perform s)) us

/-! ## 2. The octets that an operation takes -/

/-- The operation took these octets out of the stream. -/
inductive Takes : Turn → Bytes → Prop where
  | read {size : Int} {data : Bytes} {t : Session} (h : (data.length : Int) ≤ size) :
    Takes ⟨.read size, .ok (.octets data) t⟩ data
  | line {raw : Bytes} {t : Session} (h : Bytes.lineFeed ∉ raw) :
    Takes ⟨.readLine, .ok (.line (Utf8.decode raw)) t⟩ (raw ++ [Bytes.lineFeed])
  | lastLine {raw : Bytes} {t : Session} (h : Bytes.lineFeed ∉ raw)
      (hended : t.socket.ended = true) (hrest : t.socket.buffer = []) :
    Takes ⟨.readLine, .ok (.line (Utf8.decode raw)) t⟩ raw
  | write {payload : Payload} {data : Bytes} {t : Session} (h : payload.toBytes = .ok data) :
    Takes ⟨.write payload, .ok (.count data.length) t⟩ []
  | writeLine {payload : Payload} {data : Bytes} {t : Session} (h : payload.toBytes = .ok data) :
    Takes ⟨.writeLine payload, .ok (.count (data.length + 1)) t⟩ []
  | flush {t : Session} : Takes ⟨.flush, .ok .nothing t⟩ []
  | failed {u : Use} {e : Failure} {t : Session} : Takes ⟨u, .error e t⟩ []

/-- An operation from `s` that noted `es` and took `taken`. -/
structure Conserves (s : Session) (turn : Turn) (es : List Event) (taken : Bytes) : Prop where
  noted : s.system.Noted (after turn.result).system es
  quiet : (after turn.result).socket.descriptor.script.Quiet
  takes : Takes turn taken
  conserved : s.socket.buffer ++ Event.octets es
    = taken ++ (after turn.result).socket.buffer

section Operations

variable {s : Session} (hq : s.socket.descriptor.script.Quiet)

include hq

/-- An operation that is refused before anything is done. -/
theorem conserves_refused (u : Use) (e : Failure) : Conserves s ⟨u, .error e s⟩ [] [] :=
  ⟨.refl _, hq, .failed, List.append_nil _⟩

/-- An operation whose only call delivers no octets. -/
theorem conserves_called {operation : Operation} {answer : Answer} {t : Session} {turn : Turn}
    (hc : s.Called operation answer t) (hanswer : ∀ c, (Event.called c answer).delivered = [])
    (htakes : Takes turn []) (hsocket : (after turn.result).socket = t.socket)
    (hevents : (after turn.result).system.events = t.system.events) :
    Conserves s turn [.called (.on s.socket.descriptor.number operation) answer] [] where
  noted := by
    rw [System.Noted, hevents]
    exact hc.noted
  quiet := by
    rw [hsocket]
    exact hc.keeps.quiet hq
  takes := htakes
  conserved := by
    rw [Event.octets, List.flatMap_singleton, hanswer, hsocket, hc.buffer, List.append_nil,
      List.nil_append]

theorem conserves_read (size : Int) :
    ∃ es taken, Conserves s ⟨.read size, (Use.read size).perform s⟩ es taken := by
  cases h : Socket.read size s with
  | error e t =>
    have hp : (Use.read size).perform s = .error e t := map_of_error h
    rw [hp]
    rw [read_eq] at h
    split at h
    · cases h
      exact ⟨[], [], conserves_refused hq _ _⟩
    split at h
    · cases h
      exact ⟨[], [], conserves_refused hq _ _⟩
    split at h
    · cases h
    split at h
    · split at h
      · obtain ⟨f, rfl, hr⟩ := receive_error hq h
        exact ⟨_, [], conserves_called hq hr.called (fun _ => rfl) .failed rfl rfl⟩
      · cases h
        exact ⟨[], [], conserves_refused hq _ _⟩
    · cases h
  | ok data t =>
    have hp : (Use.read size).perform s = .ok (.octets data) t := map_of_ok h
    rw [hp]
    rw [read_eq] at h
    split at h
    · cases h
    split at h
    · cases h
    rename_i hsize
    split at h
    · rename_i hzero
      obtain ⟨rfl, rfl⟩ := EStateM.Result.ok.inj h
      exact ⟨[], [], .refl _, hq, .read (Int.le_of_eq hzero.symm), List.append_nil _⟩
    split at h
    · rename_i hempty
      split at h
      case isFalse => cases h
      have hd := receive_ok hq h
      have hbuf : s.socket.buffer = [] := List.isEmpty_iff.1 hempty
      have hlen := hd.length_le
      refine ⟨_, data, hd.noted, hd.keeps.quiet hq, .read (by omega), ?_⟩
      show s.socket.buffer ++ Event.octets [reception s.socket.descriptor.number (.delivered data)]
        = data ++ t.socket.buffer
      rw [octets_cons_delivered, hbuf, hd.buffer, hbuf]
      rfl
    · obtain ⟨rfl, rfl⟩ := EStateM.Result.ok.inj h
      have hlen : (s.socket.buffer.take size.toNat).length ≤ size.toNat := List.length_take_le ..
      refine ⟨[], s.socket.buffer.take size.toNat, .refl _, hq, .read (by omega), ?_⟩
      show s.socket.buffer ++ [] = _ ++ s.socket.buffer.drop size.toNat
      rw [List.append_nil, List.take_append_drop]

theorem conserves_readLine :
    ∃ es taken, Conserves s ⟨.readLine, Use.readLine.perform s⟩ es taken := by
  cases hc : s.socket.closed with
  | true =>
    have hp : Use.readLine.perform s = .error _ s := map_of_error (readLine_of_closed hc)
    rw [hp]
    exact ⟨[], [], conserves_refused hq _ _⟩
  | false =>
    obtain ⟨es, failure, hr⟩ := readsText_readLine hc hq
    cases hline : Socket.readLine s with
    | error e t =>
      have hp : Use.readLine.perform s = .error e t := map_of_error hline
      rw [hp]
      rw [hline] at hr
      cases hr with
      | failed h =>
        cases h.takes with
        | failed _ hbuf => exact ⟨es, [], h.noted, h.keeps.quiet hq, .failed, hbuf⟩
    | ok text t =>
      have hp : Use.readLine.perform s = .ok (.line text) t := map_of_ok hline
      rw [hp]
      rw [hline] at hr
      cases hr with
      | @line raw _ h =>
        have hquiet := h.keeps.quiet hq
        cases h.takes with
        | fed hfeed hbuf =>
          refine ⟨es, raw ++ [Bytes.lineFeed], h.noted, hquiet, .line hfeed, ?_⟩
          rw [hbuf, List.append_assoc]
          rfl
        | ended hfeed hbuf hrest hended =>
          refine ⟨es, raw, h.noted, hquiet, .lastLine hfeed hended hrest, ?_⟩
          show _ = raw ++ t.socket.buffer
          rw [hbuf, hrest, List.append_nil]

/-- Sending takes nothing out of the stream. -/
theorem conserves_transmit {data : Bytes} {u : Use}
    {given : Nat → Yield} (hu : u.perform s = (given <$> Socket.transmit data) s)
    (htakes : ∀ t, Takes ⟨u, .ok (given data.length) t⟩ []) :
    ∃ es taken, Conserves s ⟨u, u.perform s⟩ es taken := by
  rw [hu]
  have hclosing : (Script.takeSendAll s.socket.descriptor.script).1.closing = false :=
    Reply.closing_next hq.sendAll
  cases hact : Session.act (.sendAll data) Script.takeSendAll s with
  | error f t =>
    rw [map_of_error (transmit_of_error hact)]
    obtain ⟨-, rfl⟩ := Session.call_error hclosing hact
    exact ⟨_, [], conserves_called hq (Session.called_settled _ .takeSendAll) (fun _ => rfl)
      .failed rfl rfl⟩
  | ok a t =>
    rw [map_of_ok (transmit_of_ok hact)]
    obtain ⟨-, rfl⟩ := Session.call_ok hclosing hact
    exact ⟨_, [], conserves_called hq (Session.called_settled _ .takeSendAll) (fun _ => rfl)
      (htakes _) rfl rfl⟩

theorem conserves_write (payload : Payload) :
    ∃ es taken, Conserves s ⟨.write payload, (Use.write payload).perform s⟩ es taken := by
  cases hc : s.socket.closed with
  | true =>
    have hp : (Use.write payload).perform s = .error _ s := map_of_error (write_of_closed hc)
    rw [hp]
    exact ⟨[], [], conserves_refused hq _ _⟩
  | false =>
    cases h : payload.toBytes with
    | error run =>
      have hp : (Use.write payload).perform s = .error _ s := map_of_error (write_of_error hc h)
      rw [hp]
      exact ⟨[], [], conserves_refused hq _ _⟩
    | ok data => exact conserves_transmit hq (map_of_eq (write_of_ok hc h)) fun t => .write h

theorem conserves_writeLine (payload : Payload) :
    ∃ es taken, Conserves s ⟨.writeLine payload, (Use.writeLine payload).perform s⟩ es taken := by
  cases h : payload.toBytes with
  | error run =>
    have hp : (Use.writeLine payload).perform s = .error _ s := map_of_error (writeLine_of_error h)
    rw [hp]
    exact ⟨[], [], conserves_refused hq _ _⟩
  | ok data =>
    cases hc : s.socket.closed with
    | true =>
      have hp : (Use.writeLine payload).perform s = .error _ s :=
        map_of_error ((writeLine_of_ok h).trans (write_of_closed hc))
      rw [hp]
      exact ⟨[], [], conserves_refused hq _ _⟩
    | false =>
      refine conserves_transmit hq
        (map_of_eq ((writeLine_of_ok h).trans (write_octets hc))) fun t => ?_
      rw [List.length_append]
      exact .writeLine h

theorem conserves_flush : ∃ es taken, Conserves s ⟨.flush, Use.flush.perform s⟩ es taken := by
  cases hc : s.socket.closed with
  | true =>
    have hp : Use.flush.perform s = .error _ s := map_of_error (requireOpen_of_closed hc "flush")
    rw [hp]
    exact ⟨[], [], conserves_refused hq _ _⟩
  | false =>
    have hp : Use.flush.perform s = .ok .nothing s := map_of_ok (requireOpen_of_open hc "flush")
    rw [hp]
    exact ⟨[], [], .refl _, hq, .flush, List.append_nil _⟩

/-- What was in the buffer and what an operation received is what it took and what is left. -/
theorem conserves_perform (u : Use) : ∃ es taken, Conserves s ⟨u, u.perform s⟩ es taken := by
  cases u with
  | read size => exact conserves_read hq size
  | readLine => exact conserves_readLine hq
  | write payload => exact conserves_write hq payload
  | writeLine payload => exact conserves_writeLine hq payload
  | flush => exact conserves_flush hq

end Operations

/-! ## 3. Whole runs -/

/-- **Conservation of octets.** Whatever operations are made on a stream that nobody closes
meanwhile, there are octets that each of them took, such that after every one of them what was in
the buffer at first and what was received since is what was taken, in order, and what is in the
buffer. -/
theorem octets_conserved (s : Session) (hq : s.socket.descriptor.script.Quiet) (uses : List Use) :
    ∃ takings, List.Forall₂ Takes (history s uses) takings ∧
      ∀ k turn, (history s uses)[k]? = some turn →
        ∃ es, s.system.Noted (after turn.result).system es ∧
          s.socket.buffer ++ Event.octets es =
            (takings.take (k + 1)).flatten ++ (after turn.result).socket.buffer := by
  induction uses generalizing s with
  | nil => exact ⟨[], .nil, fun k turn h => nomatch h⟩
  | cons u us ih =>
    obtain ⟨es, taken, hu⟩ := conserves_perform hq u
    obtain ⟨takings, htakings, hrest⟩ := ih (after (u.perform s)) hu.quiet
    refine ⟨taken :: takings, .cons hu.takes htakings, fun k turn h => ?_⟩
    cases k with
    | zero =>
      cases h
      refine ⟨es, hu.noted, ?_⟩
      rw [hu.conserved, List.take_succ_cons, List.take_zero, List.flatten_singleton]
    | succ k =>
      obtain ⟨fs, hnoted, hconserved⟩ := hrest k turn h
      refine ⟨es ++ fs, hu.noted.trans hnoted, ?_⟩
      rw [Event.octets_append, ← List.append_assoc, hu.conserved, List.append_assoc, hconserved,
        List.take_succ_cons, List.flatten_cons, List.append_assoc]

/-- A stream whose peer sends a line in two parts, with a timeout between them, and then ends. -/
def brokenLine : Session where
  socket := { descriptor := { number := 3, script := { recv :=
    [{ outcome := .value [72, 105] }, { outcome := .failure .timeout },
      { outcome := .value [33, 10, 63] }] } } }
  system := {}

theorem octets_conserved_brokenLine :
    brokenLine.socket.descriptor.script.Quiet ∧
      ∃ takings, List.Forall₂ Takes
          (history brokenLine [.readLine, .readLine, .read 8, .flush, .readLine]) takings ∧
        ∀ k turn,
          (history brokenLine [.readLine, .readLine, .read 8, .flush, .readLine])[k]? = some turn →
            ∃ es, brokenLine.system.Noted (after turn.result).system es ∧
              brokenLine.socket.buffer ++ Event.octets es =
                (takings.take (k + 1)).flatten ++ (after turn.result).socket.buffer := by
  have hq : brokenLine.socket.descriptor.script.Quiet := by decide
  exact ⟨hq, octets_conserved brokenLine hq _⟩

end HttpProbe.Socket
