import HttpProbe.Http.Request
import HttpProbe.Number.Whole
import HttpProbe.Text.Quoted

/-!
# Status lines

The first line of a response: a version, a code of three digits, a reason.

* `StatusLine.toBytes` writes it in Latin-1, the code in at least three places, the reason only if
  there is one. A code of too many digits is not written;
* `StatusLine.ofText` reads it: after one line end at most, the version up to the first space, the
  code up to the second, and all the rest as the reason;
* `startsWith` is the test of a line by its first characters.
-/

namespace HttpProbe

/-- The first line of a response. -/
structure StatusLine where
  version : String := defaultVersion
  code : Int := 200
  /-- It may be empty. -/
  reason : String := "OK"
  deriving DecidableEq

namespace StatusLine

/-! ## 1. Writing -/

/-- A number in at least three places, filled up with zeros; a minus sign takes a place. -/
def threePlaces (n : Int) : String :=
  let digits := Nat.toDigits 10 n.natAbs
  let minus := if n < 0 then ['-'] else []
  String.ofList (minus ++ List.replicate (3 - minus.length - digits.length) '0' ++ digits)

/-- The line as text, without its end. -/
def text (s : StatusLine) : String :=
  let start := s!"{s.version} {threePlaces s.code}"
  if s.reason.isEmpty then start else s!"{start} {s.reason}"

/-- The octets of the line and its end. -/
def toBytes (s : StatusLine) : Except Unwritable Bytes :=
  if Whole.isWritten s.code then
    match CodePage.latin1.encode s.text with
    | .ok line => .ok (line ++ Bytes.crlf)
    | .error run => .error (.text run)
  else .error .number

/-- How messages show the line. -/
def display (s : StatusLine) : Except Unwritable String :=
  if Whole.isWritten s.code then
    .ok s!"<StatusLine {s.version} {s.code} {Quoted.quote s.reason}>"
  else .error .number

/-! ## 2. Reading -/

/-- Why a line is no status line. -/
inductive Malformed where
  | noCode (line : String)
  | badVersion (version : String)
  | badCode (code : String)
  deriving DecidableEq

/-- What a message says of it. -/
def Malformed.message : Malformed → String
  | noCode line => s!"Malformed status line: {Quoted.quote line}"
  | badVersion version => s!"Bad HTTP version: {Quoted.quote version}"
  | badCode code => s!"Bad status code: {Quoted.quote code}"

/-- The line without one line end: a carriage return and a line feed, or one of them. -/
def chomp (cs : List Char) : List Char :=
  match cs.reverse with
  | '\n' :: '\r' :: rest => rest.reverse
  | '\n' :: rest => rest.reverse
  | '\r' :: rest => rest.reverse
  | _ => cs

/-- What stands before the first space, and what stands after it if there is one. -/
def cutSpace (cs : List Char) : List Char × Option (List Char) :=
  match cs.dropWhile (· != ' ') with
  | [] => (cs, none)
  | _ :: rest => (cs.takeWhile (· != ' '), some rest)

/-- How every version starts. -/
def versionStart : List Char := "HTTP/".toList

/-- The value of a code, which is three ASCII digits. -/
def codeValue? : List Char → Option Nat
  | [a, b, c] =>
    if a.isDigit && b.isDigit && c.isDigit then some (Nat.ofDigitChars 10 [a, b, c] 0) else none
  | _ => none

/-- Reads a line. -/
def ofText (line : String) : Except Malformed StatusLine :=
  let cs := chomp line.toList
  match cutSpace cs with
  | (_, none) => .error (.noCode (String.ofList cs))
  | (version, some rest) =>
    let (code, reason) := cutSpace rest
    if !versionStart.isPrefixOf version then .error (.badVersion (String.ofList version))
    else match codeValue? code with
      | none => .error (.badCode (String.ofList code))
      | some n => .ok ⟨String.ofList version, n, String.ofList (reason.getD [])⟩

/-- Reads the octets of a line, in Latin-1. -/
def ofBytes (data : Bytes) : Except Malformed StatusLine := ofText (CodePage.decodeLatin1 data)

/-! ## 3. The test by the first characters -/

/-- Whether the line begins with the expected text. -/
def startsWith (line expected : String) : Bool := expected.toList.isPrefixOf line.toList

theorem startsWith_iff (line expected : String) :
    startsWith line expected = true ↔ expected.toList <+: line.toList := by
  simp [startsWith]

end StatusLine

end HttpProbe
