import HttpProbe.Socket.Basic
import HttpProbe.Text.Utf8

/-!
# Writing

What is written goes to the system at once. `Socket.write` sends everything or fails, `Socket.send`
sends what the system takes. A text is sent as its UTF-8 octets, if it has any (`Payload.toBytes`):
the text of a line is written out before it is asked whether the socket is open, any other text
after.
-/

namespace HttpProbe

/-- What is to be written. -/
inductive Payload where
  | text (t : Text)
  | octets (bs : Bytes)

/-- The octets that go over the wire. -/
def Payload.toBytes : Payload → Except Unencodable Bytes
  | text t =>
    match Codec.utf8.fault? t with
    | none => .ok (Utf8.encode t.string)
    | some run => .error run
  | octets bs => .ok bs

/-- A string goes over the wire in UTF-8. -/
theorem Payload.toBytes_text (s : String) : (text s).toBytes = .ok (Utf8.encode s) := by
  rw [toBytes, Codec.fault?_ofString, Text.string_ofString]

namespace Socket

/-- The octets of what is to be written; a text that has none is refused. -/
def written (payload : Payload) : SocketM Bytes :=
  match payload.toBytes with
  | .ok data => pure data
  | .error run => throw (.unwritable (.text run))

/-- Sends octets, and tells how many they were. -/
def transmit (data : Bytes) : SocketM Nat := do
  guarded (Session.act (.sendAll data) Script.takeSendAll)
  say .debug .stream s!"TX {data.length} bytes"
  return data.length

/-- Writes everything, and tells how many octets that was. -/
def write (payload : Payload) : SocketM Nat := do
  requireOpen "write"
  transmit (← written payload)

/-- Writes everything and a line feed. -/
def writeLine (payload : Payload) : SocketM Nat := do
  write (.octets ((← written payload) ++ [Bytes.lineFeed]))

/-- Sends what the system takes, and tells how many octets that was. -/
def send (data : Bytes) : SocketM Int := do
  requireOpen "send"
  guarded (Session.call (.send data) Script.takeSend (fun _ => .ok data.length) fun _ => .done)

/-- Nothing waits to be written, so there is nothing to do on an open socket. -/
def flush : SocketM Unit := requireOpen "flush"

end Socket

end HttpProbe
