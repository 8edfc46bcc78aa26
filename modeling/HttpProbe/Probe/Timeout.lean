import HttpProbe.Number.Decimal
import HttpProbe.Text.Quoted

/-!
# Timeouts as text

A timeout is spelled by a number of seconds, or by one of the words that turn it off (`offWords`,
in any case and with white space around). The number must not be at most zero. What is no number at
all compares with nothing, so it is let through (`read_of_isNaN`).
-/

namespace HttpProbe.Timeout

/-- Why a text spells no timeout. -/
inductive Refusal where
  | notNumber (text : String)
  | notPositive (text : String)
  deriving DecidableEq

/-- What a message says of it. -/
def Refusal.message : Refusal → String
  | notNumber text => s!"could not convert string to float: {Quoted.quote text}"
  | notPositive text => s!"timeout must be positive: {Quoted.quote text}"

/-- The words that turn the timeout off. -/
def offWords : List String := ["0", "none", "off"]

/-- Whether the text turns the timeout off. -/
def isOff (text : String) : Bool :=
  String.ofList ((Blank.trim Blank.isBlank text.toList).map Char.toLower) ∈ offWords

/-- Reads a timeout; nothing stands for a timeout that is off. -/
def read (text : String) : Except Refusal (Option Binary64) :=
  if isOff text then .ok none
  else match Decimal.read? text with
    | none => .error (.notNumber text)
    | some x => if x.isAtMostZero then .error (.notPositive text) else .ok (some x)

/-- A timeout that was read is off or not at most zero. -/
theorem isAtMostZero_of_read {text : String} {x : Binary64} (h : read text = .ok (some x)) :
    x.isAtMostZero = false := by
  unfold read at h
  split at h
  · simp at h
  · split at h
    · simp at h
    · split at h
      · simp at h
      · simp only [Except.ok.injEq, Option.some.injEq] at h
        rename_i hx
        rw [← h]
        simpa using hx

/-- What is no number is let through. -/
theorem read_of_isNaN {text : String} {x : Binary64} (hoff : isOff text = false)
    (h : Decimal.read? text = some x) (hx : x.isNaN = true) : read text = .ok (some x) := by
  simp [read, hoff, h, Binary64.isAtMostZero_of_isNaN hx]

end HttpProbe.Timeout
