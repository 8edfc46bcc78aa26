/-!
# Hexadecimal escapes

Numbers in a fixed count of lower-case hexadecimal digits (`hex`), and the escape that stands for a
code point which a message cannot show as itself (`escape`): `\x`, `\u` or `\U`, then two, four or
eight digits, the shortest that fits.
-/

namespace HttpProbe.Escape

/-- The last `width` hexadecimal digits of a number, lower-case, with leading zeros. -/
def hex : (width : Nat) → Nat → List Char
  | 0, _ => []
  | width + 1, n => hex width (n / 16) ++ [Nat.digitChar (n % 16)]

/-- The escape of the code point with a number. -/
def escape (n : Nat) : List Char :=
  if n < 0x100 then '\\' :: 'x' :: hex 2 n
  else if n < 0x10000 then '\\' :: 'u' :: hex 4 n
  else '\\' :: 'U' :: hex 8 n

end HttpProbe.Escape
