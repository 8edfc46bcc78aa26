import HttpProbe.Http.Head
import HttpProbe.Proofs.Exchange

/-!
# The first line of a request

The first line is found by two cuts: at the first carriage return with a line feed after it, and
then at the first line feed. Together they cut at the first line feed, whatever stands around it:

* `Bytes.before_cons`: a cut, octet by octet;
* `Head.line`: the octets before the first line feed, without a carriage return directly before it;
* **`firstLine_eq_line`**: the two cuts come to this line.
-/

namespace HttpProbe

namespace Bytes

/-! ## 1. One cut -/

theorem indexFrom?_add (pattern : Bytes) (n k : Nat) (bs : Bytes) :
    indexFrom? pattern (n + k) bs = (indexFrom? pattern n bs).map (· + k) := by
  induction bs generalizing n with
  | nil =>
    unfold indexFrom?
    cases pattern.isEmpty <;> rfl
  | cons b rest ih =>
    unfold indexFrom?
    cases pattern.isPrefixOf (b :: rest) with
    | true => rfl
    | false =>
      rw [if_neg Bool.false_ne_true, if_neg Bool.false_ne_true, ← ih, Nat.add_right_comm]

/-- A cut is made here, or it is made in the rest. -/
theorem before_cons (pattern : Bytes) (b : UInt8) (rest : Bytes) :
    before pattern (b :: rest) =
      if pattern.isPrefixOf (b :: rest) then [] else b :: before pattern rest := by
  unfold before
  rw [indexFrom?, indexFrom?_add]
  cases pattern.isPrefixOf (b :: rest) with
  | true => rfl
  | false =>
    rw [if_neg Bool.false_ne_true, if_neg Bool.false_ne_true]
    cases indexFrom? pattern 0 rest <;> rfl

theorem firstLine_cons {b : UInt8} (hb : b ≠ lineFeed) (rest : Bytes) :
    firstLine (b :: rest) = b :: firstLine rest :=
  List.takeWhile_cons_of_pos (bne_iff_ne.2 hb)

/-- A cut at one octet ends with the octets before it. -/
theorem before_lineFeed (bs : Bytes) : before [lineFeed] bs = firstLine bs := by
  induction bs with
  | nil => rfl
  | cons b rest ih =>
    have hprefix : [lineFeed].isPrefixOf (b :: rest) = (lineFeed == b) := Bool.and_true _
    rw [before_cons, hprefix, ih]
    by_cases hb : b = lineFeed
    · subst hb
      rfl
    · rw [if_neg (fun h => hb (beq_iff_eq.1 h).symm), firstLine_cons hb]

end Bytes

namespace Head

/-! ## 2. The line -/

/-- The octets without a carriage return at their end. -/
def dropReturn : Bytes → Bytes
  | [] => []
  | [b] => if b = Bytes.carriageReturn then [] else [b]
  | b :: rest => b :: dropReturn rest

/-- The octets before the first line feed, without a carriage return directly before it; all octets
if there is no line feed. -/
def line (data : Bytes) : Bytes :=
  if Bytes.lineFeed ∈ data then dropReturn (Bytes.firstLine data) else data

theorem line_lineFeed (rest : Bytes) : line (Bytes.lineFeed :: rest) = [] :=
  if_pos List.mem_cons_self

/-- Any other octet belongs to the line, unless it is a carriage return right before the
line feed. -/
theorem line_cons {b : UInt8} {rest : Bytes} (hb : b ≠ Bytes.lineFeed)
    (hend : ¬ (b = Bytes.carriageReturn ∧ ∃ tail, rest = Bytes.lineFeed :: tail)) :
    line (b :: rest) = b :: line rest := by
  by_cases hmem : Bytes.lineFeed ∈ rest
  · rw [line, line, if_pos hmem, if_pos (List.mem_cons_of_mem b hmem),
      Bytes.firstLine_cons hb]
    cases rest with
    | nil => cases hmem
    | cons c tail =>
      by_cases hc : c = Bytes.lineFeed
      · subst hc
        have hb' : b ≠ Bytes.carriageReturn := fun h => hend ⟨h, tail, rfl⟩
        exact if_neg hb'
      · rw [Bytes.firstLine_cons hc]
        rfl
  · have hmem' : Bytes.lineFeed ∉ b :: rest := by
      rw [List.mem_cons, not_or]
      exact ⟨hb.symm, hmem⟩
    rw [line, line, if_neg hmem, if_neg hmem']

theorem line_crlf (tail : Bytes) :
    line (Bytes.carriageReturn :: Bytes.lineFeed :: tail) = [] :=
  if_pos (List.mem_cons_of_mem _ List.mem_cons_self)

theorem firstLine_before_crlf (data : Bytes) :
    Bytes.firstLine (Bytes.before Bytes.crlf data) = line data := by
  induction data with
  | nil => rfl
  | cons b rest ih =>
    rw [Bytes.before_cons]
    by_cases hprefix : Bytes.crlf.isPrefixOf (b :: rest) = true
    · rw [if_pos hprefix]
      obtain ⟨tail, htail⟩ := List.isPrefixOf_iff_prefix.1 hprefix
      rw [← htail]
      exact (line_crlf tail).symm
    · rw [if_neg hprefix]
      by_cases hb : b = Bytes.lineFeed
      · subst hb
        exact (line_lineFeed rest).symm
      · rw [line_cons hb, ← ih]
        · exact Bytes.firstLine_cons hb _
        · rintro ⟨rfl, tail, rfl⟩
          exact hprefix (List.isPrefixOf_iff_prefix.2 ⟨tail, rfl⟩)

/-- **The first line** is what stands before the first line feed. -/
theorem firstLine_eq_line (data : Bytes) : firstLine data = CodePage.decodeLatin1 (line data) := by
  rw [firstLine, Bytes.before_lineFeed, firstLine_before_crlf]

/-- A bare line feed ends the line before a later carriage return does. -/
example : firstLine [97, 13, 98, 10, 99, 13, 10] = "a\rb" := by decide

end Head

end HttpProbe
