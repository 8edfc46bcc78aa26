import HttpProbe.Number.Binary64
import HttpProbe.Number.NumberText

/-!
# Decimal numbers

The grammar of a decimal number and its value as the nearest binary64 number (`read?`). After a sign
there is either a word, in letters of any case (`inf`, `infinity`, `nan`), or digits with at most
one point, at least one digit in all, and then perhaps an exponent: `e`, a sign or none, digits.
White space around it and separators between digits are those of `NumberText`.
-/

namespace HttpProbe.Decimal

/-- The words that spell a number. -/
def ofWord? (negative : Bool) (cs : List Char) : Option Binary64 :=
  let word := String.ofList (cs.map Char.toLower)
  if word = "inf" ∨ word = "infinity" then some (.infinity negative)
  else if word = "nan" then some .nan
  else none

/-- What stands after the digits: nothing, or an exponent. -/
def exponent? : List Char → Option Int
  | [] => some 0
  | c :: rest =>
    if c = 'e' ∨ c = 'E' then
      let (negative, digits) := NumberText.takeSign rest
      if !digits.isEmpty && digits.all Char.isDigit then
        let n : Int := NumberText.value digits
        some (if negative then -n else n)
      else none
    else none

/-- The digits before the point, those after it, and what stands after the digits. -/
def splitPoint (cs : List Char) : List Char × List Char × List Char :=
  let whole := cs.takeWhile Char.isDigit
  match cs.dropWhile Char.isDigit with
  | '.' :: rest => (whole, rest.takeWhile Char.isDigit, rest.dropWhile Char.isDigit)
  | rest => (whole, [], rest)

/-- Digits with a point and an exponent. -/
def ofDigits? (negative : Bool) (cs : List Char) : Option Binary64 :=
  let (whole, fraction, rest) := splitPoint cs
  if whole.isEmpty && fraction.isEmpty then none
  else (exponent? rest).map fun e =>
    .ofDecimal negative (NumberText.value (whole ++ fraction)) (e - fraction.length)

/-- The number that a text spells; nothing if it spells none. -/
def read? (text : String) : Option Binary64 := do
  let cs ← NumberText.joinDigits? (NumberText.plain text)
  let (negative, body) := NumberText.takeSign cs
  (ofWord? negative body).orElse fun _ => ofDigits? negative body

end HttpProbe.Decimal
