import HttpProbe.Bytes
import HttpProbe.Text.CodePage

/-!
# The head of a request, as it arrives

What a reader of requests has to know of the octets so far: whether they are enough (`isComplete`),
which is when a blank line has come or when there are too many of them, and what the first line says
(`firstLine`).
-/

namespace HttpProbe.Head

/-- So many octets are enough, whatever they are. -/
def maxLength : Nat := 65536

/-- The end of a line and a blank line. -/
def blankLine : Bytes := Bytes.crlf ++ Bytes.crlf

/-- The same with bare line feeds. -/
def bareBlankLine : Bytes := [Bytes.lineFeed, Bytes.lineFeed]

/-- Whether the octets so far are enough. -/
def isComplete (data : Bytes) : Bool :=
  Bytes.occurs blankLine data || Bytes.occurs bareBlankLine data || maxLength ≤ data.length

/-- The first line, in Latin-1. -/
def firstLine (data : Bytes) : String :=
  CodePage.decodeLatin1 (Bytes.before [Bytes.lineFeed] (Bytes.before Bytes.crlf data))

theorem length_lt_of_not_isComplete {data : Bytes} (h : isComplete data = false) :
    data.length < maxLength := by
  simp only [isComplete, Bool.or_eq_false_iff, decide_eq_false_iff_not, Nat.not_le] at h
  exact h.2

end HttpProbe.Head
