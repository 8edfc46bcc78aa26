/-!
# Texts

A text is what callers pass: a list of code points. A code point is a character or half of a
surrogate pair that stands alone, and no code can write such a half. Everywhere else the library has
strings, which are the texts of characters alone (`Text.ofString`).

Main statement: `eq_ofString_iff`, a text is that of its own characters when each code point is one.
-/

namespace HttpProbe

/-! ## 1. Code points -/

/-- A character, or half of a surrogate pair that stands alone. -/
inductive CodePoint where
  | char (c : Char)
  | lone (half : Fin 0x800)
  deriving DecidableEq

namespace CodePoint

def toNat : CodePoint → Nat
  | char c => c.toNat
  | lone half => 0xD800 + half

def char? : CodePoint → Option Char
  | char c => some c
  | lone _ => none

def isChar (p : CodePoint) : Bool := p.char?.isSome

/-- No character has the number of half a pair. -/
theorem toNat_injective {p q : CodePoint} (h : p.toNat = q.toNat) : p = q := by
  have hapart (c : Char) (half : Fin 0x800) : c.toNat ≠ 0xD800 + half := by
    intro hsame
    have hc : c.toNat < 0xD800 ∨ 0xDFFF < c.toNat ∧ c.toNat < 0x110000 := c.valid
    omega
  cases p with
  | char c =>
    cases q with
    | char d => exact congrArg char (Char.toNat_inj.1 h)
    | lone half => exact absurd h (hapart c half)
  | lone half =>
    cases q with
    | char d => exact absurd h.symm (hapart d half)
    | lone half' => exact congrArg lone (Fin.ext (Nat.add_left_cancel h))

/-- Half of a surrogate pair is beyond every code page. -/
theorem isChar_of_toNat_lt {p : CodePoint} (h : p.toNat < 0x100) : p.isChar = true := by
  cases p with
  | char c => rfl
  | lone half => exact absurd h (Nat.not_lt_of_le (Nat.le_trans (by decide) (Nat.le_add_right ..)))

end CodePoint

/-! ## 2. Texts -/

/-- A text as callers pass it. -/
abbrev Text : Type := List CodePoint

namespace Text

/-- The text of a string. -/
@[coe] def ofString (s : String) : Text := s.toList.map .char

instance : Coe String Text := ⟨ofString⟩

/-- The characters of a text. -/
def string (text : Text) : String := String.ofList (text.filterMap CodePoint.char?)

@[simp] theorem mem_ofString {s : String} {p : CodePoint} :
    p ∈ ofString s ↔ ∃ c ∈ s.toList, .char c = p := List.mem_map

theorem forall_mem_ofString {s : String} {P : CodePoint → Prop} :
    (∀ p ∈ ofString s, P p) ↔ ∀ c ∈ s.toList, P (.char c) := List.forall_mem_map

@[simp] theorem string_ofString (s : String) : (ofString s).string = s := by
  have hchars : ∀ cs : List Char, (cs.map CodePoint.char).filterMap CodePoint.char? = cs := by
    intro cs
    rw [List.filterMap_map]
    exact List.filterMap_some
  rw [string, ofString, hchars, String.ofList_toList]

theorem string_append (a b : Text) : string (a ++ b) = string a ++ string b := by
  rw [string, List.filterMap_append, String.ofList_append]
  rfl

theorem string_cons_char (c : Char) (rest : Text) :
    string (.char c :: rest) = String.singleton c ++ string rest :=
  string_append [.char c] rest

theorem ofString_injective {s t : String} (h : ofString s = ofString t) : s = t := by
  rw [← string_ofString s, h, string_ofString]

/-- **A text of characters alone** is that of its string. -/
theorem eq_ofString_iff {text : Text} :
    text = ofString text.string ↔ ∀ p ∈ text, p.isChar = true := by
  constructor
  · intro h
    rw [h]
    exact forall_mem_ofString.2 fun _ _ => rfl
  · intro h
    rw [ofString, string, String.toList_ofList]
    induction text with
    | nil => rfl
    | cons p rest ih =>
      obtain ⟨hp, hrest⟩ := List.forall_mem_cons.1 h
      cases p with
      | char c => exact congrArg (CodePoint.char c :: ·) (ih hrest)
      | lone half => cases hp

end Text

end HttpProbe
