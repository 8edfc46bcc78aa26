import HttpProbe.Socket.Connection
import HttpProbe.Socket.Reading
import HttpProbe.Socket.Writing

/-!
# What the operations on a socket come to

An operation is refused on a closed socket, and else makes its calls one after the other until one
fails. Here each operation is opened once:

* `bind_of_ok`, `bind_of_error`, `map_of_ok`, `map_of_error`: one step of a run, and
  `exists_of_bind_ok` back from a run that went well to its steps;
* `requireOpen_of_closed`, `requireOpen_of_open`, `guarded_of_ok`, `guarded_of_error`: the guards;
* `read_eq`, `readLine_of_ok`, `write_of_ok` and `writeLine_of_ok` with their like: the whole
  operations.
-/

namespace HttpProbe

/-! ## 1. One step of a run -/

section Runs

variable {ε σ α β : Type} {x : EStateM ε σ α} {s t : σ}

theorem bind_of_ok {k : α → EStateM ε σ β} {a : α} (h : x s = .ok a t) :
    (x >>= k) s = k a t := by
  show EStateM.bind x k s = k a t
  rw [EStateM.bind, h]

theorem bind_of_error {k : α → EStateM ε σ β} {e : ε} (h : x s = .error e t) :
    (x >>= k) s = .error e t := by
  show EStateM.bind x k s = .error e t
  rw [EStateM.bind, h]

/-- A run of two steps that went well is one of the first step and one of the second. -/
theorem exists_of_bind_ok {k : α → EStateM ε σ β} {b : β} (h : (x >>= k) s = .ok b t) :
    ∃ a u, x s = .ok a u ∧ k a u = .ok b t := by
  cases hx : x s with
  | ok a u =>
    rw [bind_of_ok hx] at h
    exact ⟨a, u, rfl, h⟩
  | error e u =>
    rw [bind_of_error hx] at h
    cases h

theorem map_of_ok {f : α → β} {a : α} (h : x s = .ok a t) : (f <$> x) s = .ok (f a) t := by
  show EStateM.map f x s = .ok (f a) t
  rw [EStateM.map, h]

theorem map_of_eq {f : α → β} {y : EStateM ε σ α} (h : x s = y s) : (f <$> x) s = (f <$> y) s := by
  show EStateM.map f x s = EStateM.map f y s
  rw [EStateM.map, EStateM.map, h]

theorem map_of_error {f : α → β} {e : ε} (h : x s = .error e t) : (f <$> x) s = .error e t := by
  show EStateM.map f x s = .error e t
  rw [EStateM.map, h]

end Runs

/-! ## 2. Guards -/

section Guards

variable {α : Type} {s t : Session}

theorem requireOpen_of_closed (h : s.socket.closed = true) (operation : String) :
    requireOpen operation s = .error (.net (.closed operation)) s := by
  rw [requireOpen, if_pos h]

theorem requireOpen_of_open (h : s.socket.closed = false) (operation : String) :
    requireOpen operation s = .ok () s := by
  rw [requireOpen, h]
  rfl

theorem guarded_of_ok {x : CallM α} {a : α} (h : x s = .ok a t) : guarded x s = .ok a t := by
  rw [guarded, EStateM.adaptExcept, h]

theorem ok_of_guarded {x : CallM α} {a : α} (h : guarded x s = .ok a t) : x s = .ok a t := by
  cases hx : x s with
  | ok b u =>
    rw [guarded_of_ok hx] at h
    obtain ⟨rfl, rfl⟩ := EStateM.Result.ok.inj h
    rfl
  | error f u =>
    rw [guarded, EStateM.adaptExcept, hx] at h
    cases h

theorem guarded_of_error {x : CallM α} {f : SystemFailure} (h : x s = .error f t) :
    guarded x s = .error (.net (.ofSystem f)) t := by
  rw [guarded, EStateM.adaptExcept, h]

end Guards

/-! ## 3. Reading and writing -/

namespace Socket

theorem read_eq (size : Int) (s : Session) :
    read size s =
      if s.socket.closed then .error (.net (.closed "read")) s
      else if size < 0 then .error (.negativeSize size) s
      else if size = 0 then .ok [] s
      else if s.socket.buffer.isEmpty then
        if s.system.takesSize size.toNat then receive size.toNat s
        else .error (.oversized s.system.sizeRefusal) s
      else .ok (s.socket.buffer.take size.toNat)
        { s with socket.buffer := s.socket.buffer.drop size.toNat } := by
  unfold read
  cases hc : s.socket.closed with
  | true => exact bind_of_error (requireOpen_of_closed hc _)
  | false =>
    rw [bind_of_ok (requireOpen_of_open hc _), if_neg Bool.false_ne_true]
    by_cases h : size < 0
    · rw [if_pos h, if_pos h]
      rfl
    by_cases h0 : size = 0
    · rw [if_neg h, if_neg h, if_pos h0, if_pos h0]
      rfl
    rw [if_neg h, if_neg h, if_neg h0, if_neg h0]
    show (if s.socket.buffer.isEmpty then
      if s.system.takesSize size.toNat then receive size.toNat
      else throw (.oversized s.system.sizeRefusal) else _ : SocketM Bytes) s = _
    cases s.socket.buffer.isEmpty
    · rfl
    · cases s.system.takesSize size.toNat <;> rfl

section Lines

variable {s t : Session}

theorem readLine_of_closed (h : s.socket.closed = true) :
    readLine s = .error (.net (.closed "read_line")) s :=
  bind_of_error (requireOpen_of_closed h _)

theorem readLine_of_ok {raw : Bytes} (hopen : s.socket.closed = false)
    (h : readRaw s = .ok raw t) :
    readLine s = .ok (Utf8.decode raw)
      (t.say .debug .stream s!"RX line {Quoted.quote (Utf8.decode raw)}") := by
  unfold readLine
  rw [bind_of_ok (requireOpen_of_open hopen _)]
  exact bind_of_ok h

theorem readLine_of_error {e : Failure} (hopen : s.socket.closed = false)
    (h : readRaw s = .error e t) : readLine s = .error e t := by
  unfold readLine
  rw [bind_of_ok (requireOpen_of_open hopen _)]
  exact bind_of_error h

end Lines

section Writing

variable {s t : Session} {payload : Payload} {data : Bytes} {run : Unencodable}

theorem written_of_ok (h : payload.toBytes = .ok data) (s : Session) :
    written payload s = .ok data s := by
  rw [written, h]
  rfl

theorem written_of_error (h : payload.toBytes = .error run) (s : Session) :
    written payload s = .error (.unwritable (.text run)) s := by
  rw [written, h]
  rfl

theorem transmit_of_ok (h : Session.act (.sendAll data) Script.takeSendAll s = .ok () t) :
    transmit data s = .ok data.length (t.say .debug .stream s!"TX {data.length} bytes") :=
  bind_of_ok (guarded_of_ok h)

theorem transmit_of_error {f : SystemFailure}
    (h : Session.act (.sendAll data) Script.takeSendAll s = .error f t) :
    transmit data s = .error (.net (.ofSystem f)) t :=
  bind_of_error (guarded_of_error h)

theorem write_of_closed (h : s.socket.closed = true) :
    write payload s = .error (.net (.closed "write")) s :=
  bind_of_error (requireOpen_of_closed h _)

theorem write_of_ok (hopen : s.socket.closed = false) (h : payload.toBytes = .ok data) :
    write payload s = transmit data s := by
  unfold write
  rw [bind_of_ok (requireOpen_of_open hopen _)]
  exact bind_of_ok (written_of_ok h s)

theorem write_of_error (hopen : s.socket.closed = false) (h : payload.toBytes = .error run) :
    write payload s = .error (.unwritable (.text run)) s := by
  unfold write
  rw [bind_of_ok (requireOpen_of_open hopen _)]
  exact bind_of_error (written_of_error h s)

/-- Octets have no text to write out. -/
theorem write_octets (hopen : s.socket.closed = false) :
    write (.octets data) s = transmit data s :=
  write_of_ok hopen rfl

theorem writeLine_of_ok (h : payload.toBytes = .ok data) :
    writeLine payload s = write (.octets (data ++ [Bytes.lineFeed])) s :=
  bind_of_ok (written_of_ok h s)

theorem writeLine_of_error (h : payload.toBytes = .error run) :
    writeLine payload s = .error (.unwritable (.text run)) s :=
  bind_of_error (written_of_error h s)

end Writing

end Socket

end HttpProbe
