import HttpProbe.Text.Escape

/-!
# Binary64 numbers

A binary64 number of IEEE 754 is a word of 64 bits: a sign, eleven bits of exponent, fifty-two bits
of fraction. This file works on the words themselves, in exact arithmetic on natural numbers:

* `ofRatio` rounds a quotient to the nearest binary64 number, a half to the even neighbour;
* `ofDecimal` does so for `digits · 10 ^ exponent`, for an exponent of any size;
* `isNaN` and `isAtMostZero` are the two tests that a timeout has to pass. A number that is not a
  number compares with nothing, so it is not at most zero (`isAtMostZero_of_isNaN`).
-/

namespace HttpProbe

/-- A binary64 number, by its word. -/
structure Binary64 where
  /-- The word: sign, exponent and fraction, from the greatest bit down. -/
  bits : UInt64
  deriving DecidableEq

namespace Binary64

/-! ## 1. The words -/

/-- The word of the infinity without its sign, and the first that is no finite number. -/
def infinityWord : Nat := 0x7FF0000000000000

/-- The number of a word without its sign, and a sign. -/
def ofWord (negative : Bool) (word : Nat) : Binary64 :=
  ⟨UInt64.ofNat (word + if negative then 0x8000000000000000 else 0)⟩

/-- An infinity. -/
def infinity (negative : Bool) : Binary64 := ofWord negative infinityWord

/-- What is no number. -/
def nan : Binary64 := ofWord false 0x7FF8000000000000

/-- The word without its sign. -/
def magnitude (x : Binary64) : Nat := x.bits.toNat % 0x8000000000000000

/-- Whether the sign is set. -/
def isNegative (x : Binary64) : Bool := 0x8000000000000000 ≤ x.bits.toNat

/-- Whether it is no number. -/
def isNaN (x : Binary64) : Bool := infinityWord < x.magnitude

/-- Whether it compares as less than zero or equal to it. Both zeros do; what is no number does
not. -/
def isAtMostZero (x : Binary64) : Bool := !x.isNaN && (x.isNegative || x.magnitude == 0)

/-- Whether it compares as greater than zero. -/
def isPositive (x : Binary64) : Bool := !x.isNaN && !x.isNegative && x.magnitude != 0

/-- The word in sixteen hexadecimal digits. -/
def hex (x : Binary64) : String := String.ofList (Escape.hex 16 x.bits.toNat)

/-! ## 2. Rounding -/

/-- The quotient rounded to the nearest whole number, a half to the even neighbour. The divisor is
not zero. -/
def divNearest (num den : Nat) : Nat :=
  let q := num / den
  let twice := 2 * (num % den)
  if twice < den then q
  else if twice = den then q + q % 2
  else q + 1

/-- The exponent of the last bit that is kept of `num / den`: fifty-three bits from the first one,
but never below the last bit of the least number. -/
def lastBit (num den : Nat) : Int :=
  let guess : Int := (num.log2 : Int) - (den.log2 : Int)
  let fits : Bool :=
    if 0 ≤ guess then den * Nat.pow 2 guess.toNat ≤ num else den ≤ num * Nat.pow 2 (-guess).toNat
  max ((if fits then guess else guess - 1) - 52) (-1074)

/-- The binary64 number nearest to `num / den`, a half to the even neighbour, and the infinity from
half a step above the greatest finite number on. The divisor is not zero.

The count of last bits is the low part of the word, and every power of two that it passes carries
into the exponent; so one sum gives the word in every case. -/
def ofRatio (negative : Bool) (num den : Nat) : Binary64 :=
  if num = 0 then ofWord negative 0
  else
    let e := lastBit num den
    let count := if 0 ≤ e then divNearest num (den * Nat.pow 2 e.toNat)
      else divNearest (num * Nat.pow 2 (-e).toNat) den
    let word := (e + 1074).toNat * Nat.pow 2 52 + count
    if infinityWord ≤ word then infinity negative else ofWord negative word

/-- The binary64 number nearest to `digits · 10 ^ exponent`. A number of more than 310 digits before
the point is infinite, and one whose first digit stands behind more than 330 zeros is nought; so no
power of ten is larger than the text that spelled it needs. -/
def ofDecimal (negative : Bool) (digits : Nat) (exponent : Int) : Binary64 :=
  if digits = 0 then ofWord negative 0
  else
    let places : Int := (Nat.toDigits 10 digits).length + exponent
    if 310 < places then infinity negative
    else if places < -330 then ofWord negative 0
    else if 0 ≤ exponent then ofRatio negative (digits * Nat.pow 10 exponent.toNat) 1
    else ofRatio negative digits (Nat.pow 10 (-exponent).toNat)

/-! ## 3. The two tests -/

/-- What is no number is not at most zero. -/
theorem isAtMostZero_of_isNaN {x : Binary64} (h : x.isNaN = true) : x.isAtMostZero = false := by
  simp [isAtMostZero, h]

/-- A number that is not at most zero is greater than zero. -/
theorem isPositive_iff {x : Binary64} (h : x.isNaN = false) :
    x.isPositive = true ↔ x.isAtMostZero = false := by
  simp [isPositive, isAtMostZero, h]

example : (ofDecimal false 10 0).bits = 0x4024000000000000 := by decide +kernel
example : (ofDecimal false 1 (-1)).bits = 0x3FB999999999999A := by decide +kernel
example : (ofDecimal true 5 (-324)).bits = 0x8000000000000001 := by decide +kernel
example : (ofDecimal false 17976931348623159 292).bits = 0x7FF0000000000000 := by decide +kernel
example : nan.isNaN = true := by decide

end Binary64

end HttpProbe
