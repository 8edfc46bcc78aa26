/-!
# Octet strings

The wire carries octets, not characters. This file fixes how they are written down and cut:

* `Bytes` is a list of octets, and `Bytes.lineFeed`, `Bytes.crlf` name the ones that end lines;
* `Bytes.cut?` cuts at the first octet of a given value, `Bytes.before` at the first occurrence of
  a pattern, and both keep nothing of what they cut at;
* `Bytes.occurs` says that a pattern stands somewhere in a string (`occurs_iff_infix`);
* `append_cons_inj`: any list is cut in one way at the first occurrence of an element.
-/

namespace HttpProbe

/-- A string of octets. -/
abbrev Bytes := List UInt8

namespace Bytes

/-! ## 1. Line ends -/

/-- The octet that ends a line. -/
def lineFeed : UInt8 := 0x0A

/-- The octet that may stand before a line feed. -/
def carriageReturn : UInt8 := 0x0D

/-- The two octets that end a line of a message head. -/
def crlf : Bytes := [carriageReturn, lineFeed]

/-! ## 2. Cutting -/

/-- What stands before the first octet `c` and what stands after it; nothing if `c` is absent. -/
def cut? (c : UInt8) (bs : Bytes) : Option (Bytes × Bytes) :=
  match bs.dropWhile (· != c) with
  | [] => none
  | _ :: rest => some (bs.takeWhile (· != c), rest)

/-- How many octets stand before the first occurrence of `pattern`, counted on from `count`. -/
def indexFrom? (pattern : Bytes) (count : Nat) : Bytes → Option Nat
  | [] => if pattern.isEmpty then some count else none
  | b :: rest =>
    if pattern.isPrefixOf (b :: rest) then some count else indexFrom? pattern (count + 1) rest

/-- What stands before the first occurrence of `pattern`; all of the string if there is none. -/
def before (pattern : Bytes) (bs : Bytes) : Bytes :=
  match indexFrom? pattern 0 bs with
  | some n => bs.take n
  | none => bs

/-! ## 3. Occurrences -/

/-- Whether `pattern` stands somewhere in the string. -/
def occurs (pattern : Bytes) : Bytes → Bool
  | [] => pattern.isEmpty
  | b :: rest => pattern.isPrefixOf (b :: rest) || occurs pattern rest

/-- A pattern occurs exactly when the string is something, then the pattern, then something. -/
theorem occurs_iff_infix (pattern bs : Bytes) : occurs pattern bs = true ↔ pattern <:+: bs := by
  induction bs with
  | nil => simp [occurs, List.infix_nil]
  | cons b rest ih =>
    simp only [occurs, Bool.or_eq_true, List.isPrefixOf_iff_prefix, ih, List.infix_cons_iff]

/-! ## 4. What a cut keeps -/

/-- A cut loses nothing but the octet it was made at, and it is made at the first such octet. -/
theorem cut?_eq_some {c : UInt8} {bs x y : Bytes} (h : cut? c bs = some (x, y)) :
    bs = x ++ c :: y ∧ c ∉ x := by
  induction bs generalizing x with
  | nil => simp [cut?] at h
  | cons b rest ih =>
    by_cases hb : b = c
    · subst hb
      simp only [cut?, List.dropWhile_cons, List.takeWhile_cons, bne_self_eq_false,
        Bool.false_eq_true, if_false, Option.some.injEq, Prod.mk.injEq] at h
      obtain ⟨rfl, rfl⟩ := h
      simp
    · have hb' : (b != c) = true := by simpa using hb
      simp only [cut?, List.dropWhile_cons, List.takeWhile_cons, hb', if_true] at h
      cases hd : rest.dropWhile (· != c) with
      | nil => simp [hd] at h
      | cons d tail =>
        simp only [hd, Option.some.injEq, Prod.mk.injEq] at h
        obtain ⟨rfl, rfl⟩ := h
        obtain ⟨h₁, h₂⟩ := ih (x := rest.takeWhile (· != c)) (by simp [cut?, hd])
        refine ⟨by rw [List.cons_append, ← h₁], ?_⟩
        simp only [List.mem_cons, not_or]
        exact ⟨fun e => hb e.symm, h₂⟩

/-- There is no cut exactly where the octet is absent. -/
theorem cut?_eq_none_iff {c : UInt8} {bs : Bytes} : cut? c bs = none ↔ c ∉ bs := by
  induction bs with
  | nil => simp [cut?]
  | cons b rest ih =>
    by_cases hb : b = c
    · subst hb
      simp [cut?]
    · have hb' : (b != c) = true := by simpa using hb
      have hc : ¬c = b := fun e => hb e.symm
      rw [List.mem_cons, not_or, ← ih]
      simp only [cut?, List.dropWhile_cons, hb', if_true, hc, not_false_eq_true, true_and]
      cases rest.dropWhile (· != c) <;> simp

end Bytes

section Cuts

variable {α : Type} {x : α} {a a' b b' : List α}

/-- What does not stand in the first part stands after it. -/
theorem exists_of_append_eq (ha : x ∉ a) (h : a ++ b = a' ++ x :: b') :
    ∃ between, a' = a ++ between ∧ b = between ++ x :: b' := by
  rcases List.append_eq_append_iff.1 h with ⟨between, ha', hb⟩ | ⟨between, hcut, hb'⟩
  · exact ⟨between, ha', hb⟩
  · cases between with
    | nil =>
      rw [List.append_nil] at hcut
      exact ⟨[], by rw [hcut, List.append_nil], hb'.symm⟩
    | cons y tail =>
      obtain ⟨rfl, -⟩ := List.cons.inj hb'
      exact absurd (hcut ▸ List.mem_append_right _ List.mem_cons_self) ha

/-- A list is cut in one way at the first occurrence of an element. -/
theorem append_cons_inj (ha : x ∉ a) (ha' : x ∉ a') (h : a ++ x :: b = a' ++ x :: b') :
    a = a' ∧ b = b' := by
  obtain ⟨between, rfl, hrest⟩ := exists_of_append_eq ha h
  cases between with
  | nil => exact ⟨(List.append_nil a).symm, (List.cons.inj hrest).2⟩
  | cons y tail =>
    obtain ⟨rfl, -⟩ := List.cons.inj hrest
    exact absurd (List.mem_append_right _ List.mem_cons_self) ha'

end Cuts

end HttpProbe
