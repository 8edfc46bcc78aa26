import HttpProbe.Text.Blank
import HttpProbe.Text.DecimalDigit

/-!
# Text that spells a number

What decimal numbers and whole numbers share in how they are spelled:

* `plain` brings a text of any script into ASCII: digits of all scripts become ASCII digits, white
  space becomes the plain space, and a character that can stand in no number becomes a mark that no
  number holds. A text of ASCII characters alone stays as it is. White space at the ends goes;
* `takeSign` takes a leading sign off;
* `joinDigits?` takes out the separators `_`, each of which must stand between two digits.
-/

namespace HttpProbe.NumberText

/-- One character of a text that is not all ASCII. The characters below the delete character stay,
be they white space or not. -/
def plainChar (c : Char) : Char :=
  if c.toNat < 0x7F then c
  else if Blank.isBlank c then ' '
  else match DecimalDigit.digitValue? c with
    | some n => Nat.digitChar n
    | none => '?'

/-- The text in ASCII, without white space at its ends. -/
def plain (text : String) : List Char :=
  let cs := text.toList
  let ascii := if cs.all fun c => c.toNat < 0x80 then cs else cs.map plainChar
  Blank.trim Blank.isAsciiBlank ascii

/-- Whether a minus sign leads the text, and the text after a leading sign. -/
def takeSign : List Char → Bool × List Char
  | '-' :: rest => (true, rest)
  | '+' :: rest => (false, rest)
  | cs => (false, cs)

/-- Whether every separator of the text stands between two digits, where `afterDigit` says that a
digit stands before the text. -/
def separatedFrom (afterDigit : Bool) : List Char → Bool
  | [] => true
  | c :: rest =>
    if c = '_' then afterDigit && rest.head?.any Char.isDigit && separatedFrom false rest
    else separatedFrom c.isDigit rest

/-- The text without its separators; nothing if one stands anywhere but between two digits. -/
def joinDigits? (cs : List Char) : Option (List Char) :=
  if separatedFrom false cs then some (cs.filter (· != '_')) else none

/-- The number that ASCII digits spell. -/
def value (digits : List Char) : Nat :=
  digits.foldl (fun n c => 10 * n + (c.toNat - '0'.toNat)) 0

end HttpProbe.NumberText
