import HttpProbe.Text.Escape
import HttpProbe.Text.Printable

/-!
# Quoted text

Text in messages stands in quotes, so that its ends and its invisible characters can be seen:

* the quotes are single, unless the text holds a single quote and no double quote (`mark`);
* the backslash and the mark are written after a backslash, the line feed, the carriage return and
  the tab as `\n`, `\r`, `\t`, and every other character that is not printable by its hexadecimal
  escape (`quoteChar`).
-/

namespace HttpProbe.Quoted

/-- The quote that a text is put into. -/
def mark (cs : List Char) : Char :=
  if cs.contains '\'' && !cs.contains '"' then '"' else '\''

/-- One character inside the quotes `q`. -/
def quoteChar (q c : Char) : List Char :=
  if c = '\\' || c = q then ['\\', c]
  else if c = '\n' then ['\\', 'n']
  else if c = '\r' then ['\\', 'r']
  else if c = '\t' then ['\\', 't']
  else if Printable.isPrintable c then [c]
  else Escape.escape c.toNat

/-- The text in quotes. -/
def quote (text : String) : String :=
  let cs := text.toList
  let q := mark cs
  String.ofList (q :: (cs.flatMap (quoteChar q) ++ [q]))

end HttpProbe.Quoted
