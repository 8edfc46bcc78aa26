/-!
# White space

Two classes of white space, and the trimming of a text by a class:

* `isBlank` is the class of all scripts: the characters with the bidirectional type WS, B or S of
  the Unicode standard, and the space separators;
* `isAsciiBlank` is the class of plain number text: the space, the tab and the four line controls.
-/

namespace HttpProbe.Blank

/-- White space of any script: twenty-nine characters. -/
def isBlank (c : Char) : Bool :=
  let n := c.toNat
  (0x09 ≤ n && n ≤ 0x0D) || (0x1C ≤ n && n ≤ 0x20) || n == 0x85 || n == 0xA0 || n == 0x1680
    || (0x2000 ≤ n && n ≤ 0x200A) || n == 0x2028 || n == 0x2029 || n == 0x202F || n == 0x205F
    || n == 0x3000

/-- White space around plain number text: the space and U+0009 to U+000D. -/
def isAsciiBlank (c : Char) : Bool :=
  c == ' ' || (0x09 ≤ c.toNat && c.toNat ≤ 0x0D)

/-- The text without the characters of the class at its two ends. -/
def trim (blank : Char → Bool) (cs : List Char) : List Char :=
  ((cs.dropWhile blank).reverse.dropWhile blank).reverse

/-- White space of plain number text is white space. -/
theorem isBlank_of_isAsciiBlank {c : Char} (h : isAsciiBlank c = true) : isBlank c = true := by
  simp only [isAsciiBlank, Bool.or_eq_true, beq_iff_eq, Bool.and_eq_true, decide_eq_true_eq] at h
  rcases h with rfl | ⟨h₁, h₂⟩
  · decide
  · simp [isBlank, h₁, h₂]

end HttpProbe.Blank
