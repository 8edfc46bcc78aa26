import HttpProbe.Socket.Basic
import HttpProbe.Text.Quoted
import HttpProbe.Text.Utf8

/-!
# Reading

Reads of a given size and reads of a line share one buffer, so octets that came early are never
lost:

* `Socket.receive` takes octets from the system, past the buffer, and notes the end of the stream;
* `Socket.read` gives octets of the buffer if there are any, else it receives once;
* `Socket.readLine` gives the text before the next line feed, receiving until there is one or the
  stream ends. The octets that it takes out of the buffer are `readRaw`.

A line can take any number of receptions. They come to an end because each either notes the end of
the stream or leaves the peer less to send (`remaining_receive`).
-/

namespace HttpProbe.Socket

/-- How many octets are asked for at a time. -/
def readSize : Nat := 1024

/-- As many can be asked for of any system. -/
@[simp] theorem takesSize_readSize (s : System) : s.takesSize readSize = true := by
  unfold System.takesSize
  cases s.sizeLimit with
  | none => rfl
  | some limit => exact decide_eq_true limit.usual_le

/-! ## 1. Receiving -/

/-- Receives at most `size` octets from the system. None of them come at the end of the stream. A
failure on a socket that is closed by now is put down to the closing. -/
def receive (size : Nat) : SocketM Bytes := fun s =>
  match Session.call (.recv size) (Script.takeRecv size) (fun _ => .ok []) .delivered s with
  | .ok data s => .ok data (if data.isEmpty then { s with socket.ended := true } else s)
  | .error f s =>
    .error (.net (if s.socket.closed then .closed "receive" else .ofSystem f)) s

/-- How much there is still to receive: what the peer will send, and the end of the stream. -/
def remaining (s : Session) : Nat :=
  s.socket.descriptor.script.weight + if s.socket.ended then 0 else 1

theorem weight_of_recv_eq {s t : Script} (h : s.recv = t.recv) : s.weight = t.weight := by
  simp [Script.weight, h]

/-- A reception before the end of the stream leaves less to receive. -/
theorem remaining_receive {size : Nat} {s s' : Session} {data : Bytes} (hn : 0 < size)
    (hs : s.socket.ended = false) (h : receive size s = .ok data s') :
    remaining s' < remaining s := by
  have hle := Script.weight_takeRecv_le size s.socket.descriptor.script
  have hlt := Script.weight_takeRecv_lt (s := s.socket.descriptor.script) hn
  unfold receive at h
  split at h
  · rename_i out t hc
    simp only [EStateM.Result.ok.injEq] at h
    obtain ⟨rfl, rfl⟩ := h
    obtain ⟨hr, rfl⟩ := Session.call_eq_ok_iff.1 hc
    obtain ⟨_, hscript, hout⟩ := Descriptor.reply_ok hr
    have hw : (s.afterCall (.recv size) (.delivered out) (s.socket.descriptor.reply
        (Script.takeRecv size) fun _ => .ok [])).socket.descriptor.script.weight
        = (s.socket.descriptor.script.takeRecv size).2.weight :=
      weight_of_recv_eq (by rw [Session.recv_afterCall, hscript])
    cases out with
    | nil =>
      simp only [remaining, List.isEmpty_nil, if_true, hs, Bool.false_eq_true, if_false]
      omega
    | cons b rest =>
      have hne : Script.octets (s.socket.descriptor.script.takeRecv size).1 ≠ [] := by
        rcases hout with ho | ⟨_, ho⟩
        · simp [Script.octets, ho]
        · simp at ho
      have := hlt hne
      simp only [remaining, List.isEmpty_cons, Bool.false_eq_true, if_false,
        Session.ended_afterCall, hs]
      omega
  · simp at h

/-! ## 2. Reads of a given size -/

/-- Reads at most `size` octets: what was received before, if there is any, else what one reception
gives. None are read at the end of the stream, or if none were asked for. A reception of more octets
than the system can be asked for is refused. -/
def read (size : Int) : SocketM Bytes := do
  requireOpen "read"
  if size < 0 then throw (.negativeSize size)
  if size = 0 then return []
  let session ← get
  let buffer := session.socket.buffer
  if buffer.isEmpty then
    if session.system.takesSize size.toNat then receive size.toNat
    else throw (.oversized session.system.sizeRefusal)
  else
    modify fun s => { s with socket.buffer := buffer.drop size.toNat }
    return buffer.take size.toNat

/-! ## 3. Reads of a line -/

/-- Takes the octets before the next line feed out of the buffer, and the line feed with them. At
the end of the stream it takes all that is left. -/
def readRaw (s : Session) : EStateM.Result Failure Session Bytes :=
  match Bytes.cut? Bytes.lineFeed s.socket.buffer with
  | some (line, rest) => .ok line { s with socket.buffer := rest }
  | none =>
    if _open : s.socket.ended then .ok s.socket.buffer { s with socket.buffer := [] }
    else
      match _received : receive readSize s with
      | .error e s => .error e s
      | .ok data s' => readRaw { s' with socket.buffer := s'.socket.buffer ++ data }
termination_by remaining s
decreasing_by
  have := remaining_receive (by decide) (by simpa using _open) _received
  simpa [remaining] using this

/-- Reads a line: the text before the next line feed, or before the end of the stream. A carriage
return before the line feed belongs to the text. -/
def readLine : SocketM String := do
  requireOpen "read_line"
  let line := Utf8.decode (← readRaw)
  say .debug .stream s!"RX line {Quoted.quote line}"
  return line

end HttpProbe.Socket
