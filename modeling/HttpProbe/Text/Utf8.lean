import HttpProbe.Bytes

/-!
# UTF-8

* `encode` writes a text as octets: one to four octets a character.
* `decode` reads any octets as text. Well-formed sequences give their characters, and every maximal
  part that starts like a character and then goes wrong gives one replacement character U+FFFD, as
  the Unicode standard recommends; so does every octet that can start no character.

The reader is a machine that takes one octet at a time. Between characters it is in `start`; inside
one it knows which octets may come next (`owing`). An octet that may not come next ends the broken
part and is then read afresh, so no octet is ever skipped.
-/

namespace HttpProbe.Utf8

/-! ## 1. Writing -/

/-- The octets of one character. -/
def encodeChar (c : Char) : Bytes :=
  let n := c.toNat
  if n < 0x80 then [n.toUInt8]
  else if n < 0x800 then [(0xC0 + n / 0x40).toUInt8, (0x80 + n % 0x40).toUInt8]
  else if n < 0x10000 then
    [(0xE0 + n / 0x1000).toUInt8, (0x80 + n / 0x40 % 0x40).toUInt8, (0x80 + n % 0x40).toUInt8]
  else
    [(0xF0 + n / 0x40000).toUInt8, (0x80 + n / 0x1000 % 0x40).toUInt8,
      (0x80 + n / 0x40 % 0x40).toUInt8, (0x80 + n % 0x40).toUInt8]

/-- The octets of a text. -/
def encode (text : String) : Bytes := text.toList.flatMap encodeChar

/-! ## 2. Reading -/

/-- Stands for a part that is no character. -/
def replacement : Char := '\uFFFD'

/-- Which octets may come next inside a character. -/
inductive Next where
  | tail
  /-- After `0xE0`: a lesser octet would spell a character that two octets can spell. -/
  | afterE0
  /-- After `0xED`: a greater octet would spell a surrogate. -/
  | afterED
  /-- After `0xF0`: a lesser octet would spell a character that three octets can spell. -/
  | afterF0
  /-- After `0xF4`: a greater octet would leave the code space. -/
  | afterF4
  deriving DecidableEq

/-- The least octet that may come next. -/
def Next.low : Next → UInt8
  | .tail | .afterED | .afterF4 => 0x80
  | .afterE0 => 0xA0
  | .afterF0 => 0x90

/-- The greatest octet that may come next. -/
def Next.high : Next → UInt8
  | .tail | .afterE0 | .afterF0 => 0xBF
  | .afterED => 0x9F
  | .afterF4 => 0x8F

/-- Where the reader stands between two octets. -/
inductive State where
  | start
  /-- Inside a character whose bits so far are `value`: one octet that `next` admits is due, and
  `more` octets after it. -/
  | owing (next : Next) (more : Nat) (value : Nat)
  deriving DecidableEq

/-- The state after the first octet of a character of two octets or more. -/
def lead? (b : UInt8) : Option State :=
  if b < 0xC2 then none
  else if b < 0xE0 then some (.owing .tail 0 (b.toNat - 0xC0))
  else if b = 0xE0 then some (.owing .afterE0 1 0)
  else if b = 0xED then some (.owing .afterED 1 0xD)
  else if b < 0xF0 then some (.owing .tail 1 (b.toNat - 0xE0))
  else if b = 0xF0 then some (.owing .afterF0 2 0)
  else if b < 0xF4 then some (.owing .tail 2 (b.toNat - 0xF0))
  else if b = 0xF4 then some (.owing .afterF4 2 4)
  else none

/-- One octet between characters: the state after it and the characters it finishes. -/
def begin (b : UInt8) : State × List Char :=
  if b < 0x80 then (.start, [Char.ofNat b.toNat])
  else match lead? b with
    | some s => (s, [])
    | none => (.start, [replacement])

/-- One octet: the state after it and the characters it finishes. -/
def step : State → UInt8 → State × List Char
  | .start, b => begin b
  | .owing next more value, b =>
    if next.low ≤ b ∧ b ≤ next.high then
      let value := value * 0x40 + (b.toNat - 0x80)
      match more with
      | 0 => (.start, [Char.ofNat value])
      | more + 1 => (.owing .tail more value, [])
    else ((begin b).1, replacement :: (begin b).2)

/-- What the end of the octets adds: a character that is cut short is a broken part too. -/
def State.flush : State → List Char
  | .start => []
  | .owing .. => [replacement]

/-- The reader under way: where it stands, and the characters it has finished. -/
structure Reader where
  state : State := .start
  written : Array Char := #[]

/-- The reader takes one octet. -/
def Reader.feed (r : Reader) (b : UInt8) : Reader :=
  let (state, out) := step r.state b
  ⟨state, r.written ++ out⟩

/-- The characters that the octets stand for. -/
def decodeChars (bs : Bytes) : List Char :=
  let r := bs.foldl Reader.feed {}
  r.written.toList ++ r.state.flush

/-- The text that the octets stand for. -/
def decode (bs : Bytes) : String := String.ofList (decodeChars bs)

@[simp] theorem decodeChars_nil : decodeChars [] = [] := rfl

@[simp] theorem toList_decode (bs : Bytes) : (decode bs).toList = decodeChars bs := by
  simp [decode]

/-! ## 3. The reader's output, octet by octet -/

/-- What the reader writes from a state on. -/
def charsFrom (s : State) : Bytes → List Char
  | [] => s.flush
  | b :: rest => (step s b).2 ++ charsFrom (step s b).1 rest

theorem toList_foldl_feed (bs : Bytes) (r : Reader) :
    (bs.foldl Reader.feed r).written.toList ++ (bs.foldl Reader.feed r).state.flush
      = r.written.toList ++ charsFrom r.state bs := by
  induction bs generalizing r with
  | nil => rfl
  | cons b rest ih =>
    rw [List.foldl_cons, ih]
    simp [Reader.feed, charsFrom]

/-- Reading is the machine's output from the start. -/
theorem decodeChars_eq (bs : Bytes) : decodeChars bs = charsFrom .start bs := by
  simpa [decodeChars] using toList_foldl_feed bs {}

/-- An ASCII octet is never part of a broken character: after it the reader is
between characters. -/
theorem step_ascii (s : State) {b : UInt8} (hb : b < 0x80) :
    step s b = (.start, s.flush ++ [Char.ofNat b.toNat]) := by
  have hbegin : begin b = (.start, [Char.ofNat b.toNat]) := by rw [begin, if_pos hb]
  cases s with
  | start => exact hbegin
  | owing next more value =>
    have hout : ¬ (next.low ≤ b ∧ b ≤ next.high) := by
      have hlow : 0x80 ≤ next.low := by cases next <;> decide
      exact fun h => UInt8.not_le.2 hb (UInt8.le_trans hlow h.1)
    rw [step, if_neg hout, hbegin]
    rfl

/-- A text that is read across an ASCII octet is read in two parts. -/
theorem charsFrom_append_ascii (s : State) (x : Bytes) {b : UInt8} (hb : b < 0x80) (y : Bytes) :
    charsFrom s (x ++ b :: y) = charsFrom s x ++ Char.ofNat b.toNat :: charsFrom .start y := by
  induction x generalizing s with
  | nil => simp [charsFrom, step_ascii s hb]
  | cons c rest ih => simp [charsFrom, ih, List.append_assoc]

theorem decodeChars_append_ascii (x : Bytes) {b : UInt8} (hb : b < 0x80) (y : Bytes) :
    decodeChars (x ++ b :: y) = decodeChars x ++ Char.ofNat b.toNat :: decodeChars y := by
  simp only [decodeChars_eq, charsFrom_append_ascii _ _ hb]

theorem decodeChars_lineFeed (x y : Bytes) :
    decodeChars (x ++ Bytes.lineFeed :: y) = decodeChars x ++ '\n' :: decodeChars y :=
  decodeChars_append_ascii x (by decide) y

end HttpProbe.Utf8
