import HttpProbe.Number.Whole

/-!
# Addresses and services

* `Address` is the address of one end of a connection: a host in numbers, a port, and for some
  families more numbers;
* `Service` is what a caller asks for: a name, a number, or nothing. A number is asked for by its
  decimal digits (`Service.text?`), if it has not too many of them (`Service.isWritten`).
-/

namespace HttpProbe

/-- The address of one end of a connection. -/
structure Address where
  host : String
  port : Int
  /-- What else the address family needs: a flow label and a scope, say. -/
  extra : List Int := []
  deriving DecidableEq

/-- The service that a caller asks for. -/
inductive Service where
  | unspecified
  | named (name : String)
  | numbered (port : Int)
  deriving DecidableEq

namespace Service

/-- The text by which the service is looked up. -/
def text? : Service → Option String
  | unspecified => none
  | named name => some name
  | numbered port => some (toString port)

/-- Whether there is such a text: a port may have too many digits for it. -/
def isWritten : Service → Bool
  | numbered port => Whole.isWritten port
  | _ => true

/-- How messages and results show the service. -/
def display (service : Service) : String := service.text?.getD "None"

end Service

end HttpProbe
