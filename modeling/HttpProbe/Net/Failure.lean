import HttpProbe.Number.Whole

/-!
# Failures

What the operating system may report, and what the program makes of it:

* `SystemFailure` is a failure as the system reports it, by a number and a text, either of which may
  be missing;
* `NetError` is the same failure as callers see it: of a socket, of a look-up of names, or of an
  operation on a socket that is closed;
* `NetError.ofSystem` takes the one to the other. A look-up keeps its number and text, every kind of
  timeout becomes one and the same error, and a failure without a number counts as a failure of
  input or output;
* `Failure` is all that can end an operation on a socket.
-/

namespace HttpProbe

/-! ## 1. Numbers -/

namespace Errno

def inputOutput : Int := 5

def badDescriptor : Int := 9

def notConnected : Int := 107

def timedOut : Int := 110

def serviceUnknown : Int := -8

end Errno

/-! ## 2. What the system reports -/

/-- A cause, as far as it is known. -/
inductive Cause where
  | unspecified
  | described (text : String)
  | numbered (errno : Option Int) (text : Option String)
  deriving DecidableEq

namespace Cause

/-- The number of the cause. -/
def errno? : Cause → Option Int
  | numbered errno _ => errno
  | _ => none

/-- The text that goes with the number. -/
def text? : Cause → Option String
  | numbered _ text => text
  | _ => none

/-- What stands in a message for what is missing. -/
def absent : String := "None"

/-- What a message says of the cause. -/
def message : Cause → String
  | unspecified => ""
  | described text => text
  | numbered errno text =>
    let number := (errno.map toString).getD absent
    s!"[Errno {number}] {text.getD absent}"

/-- The cause with what is missing filled in: without a number input or output failed, and without a
text the message describes it. -/
def completed (c : Cause) : Cause :=
  let text := match c.text? with
    | none | some "" => c.message
    | some text => text
  numbered (some (c.errno?.getD Errno.inputOutput)) (some text)

end Cause

/-- A failure as the system reports it: of a call, of a look-up of names, or because the time that
was set for the socket is over. -/
inductive SystemFailure where
  | call (cause : Cause)
  | lookup (code : Option Int) (text : Option String)
  | timeout
  deriving DecidableEq

namespace SystemFailure

/-- A failure with a number and a text. -/
def coded (errno : Int) (text : String) : SystemFailure := call (.numbered (some errno) (some text))

/-- What the system says of any call but closing on a descriptor that is closed. -/
def badDescriptor : SystemFailure := coded Errno.badDescriptor "Bad file descriptor"

/-- What the system says when it is asked for the peer of a socket that has none. -/
def notConnected : SystemFailure :=
  coded Errno.notConnected "Transport endpoint is not connected"

/-- What the look-up of names says of a service that it does not know. -/
def serviceUnknown : SystemFailure :=
  lookup (some Errno.serviceUnknown) (some "Servname not supported for ai_socktype")

/-- The cause behind the failure. -/
def cause : SystemFailure → Cause
  | call cause => cause
  | lookup code text => .numbered code text
  | timeout => .described "timed out"

/-- The number of the failure. -/
def errno? (f : SystemFailure) : Option Int := f.cause.errno?

/-- The text that goes with the number. -/
def text? (f : SystemFailure) : Option String := f.cause.text?

/-- What a message says of the failure. -/
def message (f : SystemFailure) : String := f.cause.message

/-- Whether the failure says that time is over: a call may say so by its number too. -/
def isTimeout : SystemFailure → Bool
  | timeout => true
  | call cause => cause.errno? == some Errno.timedOut
  | lookup .. => false

end SystemFailure

/-! ## 3. What callers see -/

/-- The kinds of error that are made from a failure of the system. -/
inductive NetErrorKind where
  | socket
  | resolve
  deriving DecidableEq

/-- A failure of the network, as callers see it. A closed error tells which operation was asked of a
socket that was closed before. -/
inductive NetError where
  | reported (kind : NetErrorKind) (cause : Cause)
  | closed (operation : String)
  deriving DecidableEq

namespace NetError

/-- The cause behind the error. -/
def cause : NetError → Cause
  | reported _ cause => cause
  | closed operation => .numbered (some Errno.badDescriptor) (some s!"{operation} on closed socket")

/-- The number of the error. -/
def errno? (e : NetError) : Option Int := e.cause.errno?

/-- The text that goes with the number. -/
def text? (e : NetError) : Option String := e.cause.text?

/-- What a message says of the error. -/
def message (e : NetError) : String := e.cause.message

/-- Whether the error says that time is over. -/
def isTimeout (e : NetError) : Bool := e.errno? == some Errno.timedOut

/-- The error that callers see when the system fails; `kind` is what it becomes unless a look-up of
names failed. -/
def ofSystemAs (kind : NetErrorKind) (f : SystemFailure) : NetError :=
  match f with
  | .lookup code text => .reported .resolve (.numbered code text)
  | _ =>
    if f.isTimeout then
      .reported kind (.numbered (some Errno.timedOut) (some "Operation timed out"))
    else .reported kind f.cause.completed

/-- The error that callers see when the system fails. -/
def ofSystem (f : SystemFailure) : NetError := ofSystemAs .socket f

/-- Every kind of timeout becomes one error. -/
theorem ofSystem_of_isTimeout {f : SystemFailure} (h : f.isTimeout = true) :
    ofSystem f = reported .socket (.numbered (some 110) (some "Operation timed out")) := by
  cases f with
  | lookup => simp [SystemFailure.isTimeout] at h
  | call => simp [ofSystem, ofSystemAs, h, Errno.timedOut]
  | timeout => rfl

end NetError

/-! ## 4. What ends an operation -/

/-- What can end an operation on a socket. -/
inductive Failure where
  | net (e : NetError)
  /-- A failure of the system that callers see as it is: setting a timeout is not guarded. -/
  | system (f : SystemFailure)
  | negativeSize (size : Int)
  /-- The system cannot be asked for so many octets. -/
  | oversized (why : String)
  /-- A look-up answered with a port that is no whole number. -/
  | badPort (why : Whole.Refusal)
  /-- A host cannot be written in the code that look-ups use. -/
  | badHost (why : String)
  | noAddress
  | unwritable (why : Unwritable)
  deriving DecidableEq

namespace Failure

/-- What a message says of the failure. -/
def message : Failure → String
  | net e => e.message
  | system f => f.message
  | negativeSize size => s!"negative read size: {size}"
  | oversized why => why
  | badPort why => why.message
  | badHost why => why
  | noAddress => "list index out of range"
  | unwritable why => why.message

end Failure

end HttpProbe
