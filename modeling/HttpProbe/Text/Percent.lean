import HttpProbe.Text.Utf8

/-!
# Percent-escaping of a request target

A target may hold only characters of a fixed set: ASCII letters and digits, the unreserved marks and
the reserved ones, and the percent sign itself, so that a target which is already escaped stays as
it is. Every other character becomes `%XX` for each octet of its UTF-8 form, in upper-case
hexadecimal digits.

Main statements: `mem_escape` says that an escaped target holds characters of the set only, and
`escape_of_kept` that a target of the set is its own escaped form; so escaping twice is escaping
once (`escape_escape`).
-/

namespace HttpProbe.Percent

/-! ## 1. The characters that stay -/

/-- The marks that stay: unreserved, reserved, and the percent sign. -/
def marks : List Char := "_.-~/:@!$&'()*+,;=?#%[]".toList

/-- Whether a target shows the character as itself. -/
def isKept (c : Char) : Bool :=
  c.isAlphanum || marks.contains c

/-! ## 2. Escaping -/

/-- A hexadecimal digit, upper-case. -/
def digit (n : Nat) : Char := (Nat.digitChar n).toUpper

/-- The escape of one octet. -/
def escapeByte (b : UInt8) : List Char := ['%', digit (b.toNat / 16), digit (b.toNat % 16)]

/-- One character of a target. -/
def escapeChar (c : Char) : List Char :=
  if isKept c then [c] else (Utf8.encodeChar c).flatMap escapeByte

/-- The target with every character escaped that may not stand in it. -/
def escape (target : String) : String := String.ofList (target.toList.flatMap escapeChar)

/-! ## 3. The escaped form -/

theorem isKept_digit {n : Nat} (h : n < 16) : isKept (digit n) = true := by
  have : ∀ n : Fin 16, isKept (digit n) = true := by decide
  exact this ⟨n, h⟩

theorem isKept_of_mem_escapeByte {b : UInt8} {c : Char} (h : c ∈ escapeByte b) :
    isKept c = true := by
  have hb : b.toNat < 256 := b.toNat_lt
  simp only [escapeByte, List.mem_cons, List.not_mem_nil, or_false] at h
  rcases h with rfl | rfl | rfl
  · decide
  · exact isKept_digit (by omega)
  · exact isKept_digit (by omega)

/-- An escaped target holds characters of the set only. -/
theorem mem_escape {target : String} {c : Char} (h : c ∈ (escape target).toList) :
    isKept c = true := by
  simp only [escape, String.toList_ofList, List.mem_flatMap] at h
  obtain ⟨d, _, hc⟩ := h
  unfold escapeChar at hc
  split at hc
  · rename_i hd
    simp only [List.mem_singleton] at hc
    exact hc ▸ hd
  · obtain ⟨b, _, hb⟩ := List.mem_flatMap.1 hc
    exact isKept_of_mem_escapeByte hb

/-- A target of the set is its own escaped form. -/
theorem escape_of_kept {target : String} (h : ∀ c ∈ target.toList, isKept c = true) :
    escape target = target := by
  have : ∀ cs : List Char, (∀ c ∈ cs, isKept c = true) → cs.flatMap escapeChar = cs := by
    intro cs hcs
    induction cs with
    | nil => rfl
    | cons c rest ih =>
      rw [List.flatMap_cons, ih fun d hd => hcs d (by simp [hd]), escapeChar,
        if_pos (hcs c (by simp))]
      rfl
  rw [escape, this _ h, String.ofList_toList]

/-- Escaping twice is escaping once. -/
theorem escape_escape (target : String) : escape (escape target) = escape target :=
  escape_of_kept fun _ h => mem_escape h

end HttpProbe.Percent
