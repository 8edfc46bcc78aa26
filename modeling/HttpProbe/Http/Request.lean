import HttpProbe.Text.CodePage
import HttpProbe.Text.Percent

/-!
# Requests

A request is a method, a target, a version and headers. On the wire it is its lines, each ended by a
carriage return and a line feed, and an empty line (`Request.toBytes`). The first line is ASCII, the
target escaped; the headers are Latin-1. A request with a code point that its line cannot carry has
no octets at all, and the target is looked at first: it is escaped by its UTF-8 form.
-/

namespace HttpProbe

/-- The version that is meant when none is given. -/
def defaultVersion : String := "HTTP/1.0"

structure Request where
  method : Text := "GET"
  target : Text := "/"
  version : Text := defaultVersion
  headers : List (Text × Text) := []
  deriving DecidableEq

namespace Request

/-- How messages show the request. -/
def display (r : Request) : Text :=
  Text.ofString "<Request " ++ r.method ++ Text.ofString " " ++ r.target ++ Text.ofString " "
    ++ r.version ++ Text.ofString s!" headers={r.headers.length}>"

/-- The first line. -/
def line (r : Request) : Text :=
  r.method ++ .char ' ' :: (Text.ofString (Percent.escape r.target.string) ++ .char ' ' :: r.version)

/-- The line of a header. -/
def headerLine (header : Text × Text) : Text := header.1 ++ .char ':' :: .char ' ' :: header.2

/-- The octets of the lines, without their ends; or the run that cannot be written. -/
def encodedLines (r : Request) : Except Unencodable (List Bytes) := do
  let first ← CodePage.ascii.encode r.line
  let rest ← r.headers.mapM fun header => CodePage.latin1.encode (headerLine header)
  return first :: rest

/-- Why a request has no octets: a run of its target or of a line cannot be written. -/
inductive Refusal where
  | target (run : Unencodable)
  | line (run : Unencodable)
  deriving DecidableEq

/-- What a message says of it. -/
def Refusal.message : Refusal → String
  | target run => run.message
  | line run => s!"Request not encodable: {run.message}"

/-- The octets of the request. -/
def toBytes (r : Request) : Except Refusal Bytes :=
  match Codec.utf8.fault? r.target with
  | some run => .error (.target run)
  | none =>
    match r.encodedLines with
    | .error run => .error (.line run)
    | .ok lines => .ok (lines.flatMap (· ++ Bytes.crlf) ++ Bytes.crlf)

end Request

end HttpProbe
