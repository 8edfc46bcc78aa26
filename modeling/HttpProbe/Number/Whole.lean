import HttpProbe.Number.NumberText
import HttpProbe.Text.CodePage
import HttpProbe.Text.Quoted

/-!
# Whole numbers

The grammar of a whole number in decimal digits (`read`): a sign or none, then digits with
separators between them. White space around it is that of `NumberText`. A text of more than 4300
digits is refused, however it goes on, so that reading stays cheap; and a number of as many digits
is not written (`isWritten`).
-/

namespace HttpProbe

namespace Whole

/-- Why a text is refused. -/
inductive Refusal where
  | malformed (text : String)
  | tooLong (digits : Nat)
  deriving DecidableEq

/-- The greatest count of digits that is read or written. -/
def maxDigits : Nat := 4300

/-! ## 1. Reading -/

/-- How much of a quoted text a message shows. -/
def maxShown : Nat := 200

/-- The text in quotes, cut off where it gets too long to show. -/
def shown (text : String) : String := String.ofList ((Quoted.quote text).toList.take maxShown)

/-- What a message says of a refusal. -/
def Refusal.message : Refusal → String
  | malformed text => s!"invalid literal for int() with base 10: {shown text}"
  | tooLong digits =>
    s!"Exceeds the limit ({maxDigits} digits) for integer string conversion: "
      ++ s!"value has {digits} digits; use sys.set_int_max_str_digits() to increase the limit"

/-- The whole number that a text spells. -/
def read (text : String) : Except Refusal Int :=
  let (negative, body) := NumberText.takeSign (NumberText.plain text)
  let isPart := fun c : Char => c.isDigit || c == '_'
  match NumberText.joinDigits? (body.takeWhile isPart) with
  | none => .error (.malformed text)
  | some digits =>
    if digits.isEmpty then .error (.malformed text)
    else if maxDigits < digits.length then .error (.tooLong digits.length)
    else if !(body.dropWhile isPart).isEmpty then .error (.malformed text)
    else
      let n : Int := NumberText.value digits
      .ok (if negative then -n else n)

/-! ## 2. Writing -/

/-- A number is written if it has no more digits than that. A sign is no digit. -/
def isWritten (n : Int) : Bool := (Nat.toDigits 10 n.natAbs).length ≤ maxDigits

end Whole

/-- Why something cannot be written: a text, for a run that its code does not have; a number, for it
has too many digits. -/
inductive Unwritable where
  | text (run : Unencodable)
  | number
  deriving DecidableEq

/-- What a message says of it. -/
def Unwritable.message : Unwritable → String
  | text run => run.message
  | number =>
    s!"Exceeds the limit ({Whole.maxDigits} digits) for integer string conversion; "
      ++ "use sys.set_int_max_str_digits() to increase the limit"

end HttpProbe
