import Mathlib.Data.List.TakeWhile
import HttpProbe.Number.Decimal

/-!
# Which texts spell what is no number

A decimal number can be spelled in digits and in words. Digits always come to a number, however
small or large it is, and so does the word for infinity. What is no number has one word of its own:

* `Blank.Pads`: a word with white space around it, and `Blank.trim_eq_iff`: trimming finds it;
* `Binary64.isNaN_ofDecimal`: rounding gives a number, be it nought or infinite;
* `NumberText.plain_eq_iff`: bringing a text into ASCII makes digits and spaces only, so a word of
  other characters stood in it from the start; `joinDigits?_eq_some_iff`: nor does it come from
  separators that were taken out;
* **`Decimal.read?_isNaN_iff`**: a text is read as no number exactly when it is that word, with a
  sign or none and white space around it (`Decimal.SpellsNaN`).
-/

namespace HttpProbe

/-! ## 1. Words in white space -/

namespace Blank

/-- The text is the word, with characters of the class before and after it. -/
def Pads (blank : Char → Bool) (word text : List Char) : Prop :=
  ∃ before after, text = before ++ word ++ after ∧ (∀ c ∈ before, blank c = true) ∧
    ∀ c ∈ after, blank c = true

section Pads

variable {blank : Char → Bool} {word text : List Char}

theorem pads_trim (text : List Char) : Pads blank (trim blank text) text := by
  refine ⟨text.takeWhile blank, ((text.dropWhile blank).reverse.takeWhile blank).reverse, ?_,
    fun c hc => List.mem_takeWhile_imp hc, fun c hc => ?_⟩
  · have hback : ((text.dropWhile blank).reverse.dropWhile blank).reverse
        ++ ((text.dropWhile blank).reverse.takeWhile blank).reverse = text.dropWhile blank := by
      rw [← List.reverse_append, List.takeWhile_append_dropWhile, List.reverse_reverse]
    rw [trim, List.append_assoc, hback, List.takeWhile_append_dropWhile]
  · exact List.mem_takeWhile_imp (List.mem_reverse.1 hc)

theorem dropWhile_append_word {before : List Char} (hbefore : ∀ c ∈ before, blank c = true)
    (hword : ∀ c ∈ word, blank c = false) (hne : word ≠ []) (after : List Char) :
    (before ++ (word ++ after)).dropWhile blank = word ++ after := by
  obtain ⟨c, rest, rfl⟩ := List.exists_cons_of_ne_nil hne
  have hc : blank c = false := hword c List.mem_cons_self
  rw [List.dropWhile_append_of_pos hbefore, List.cons_append,
    List.dropWhile_cons_of_neg (by simp [hc])]

/-- **Trimming finds the word** in white space, if it holds none. -/
theorem trim_eq_iff (hword : ∀ c ∈ word, blank c = false) (hne : word ≠ []) :
    trim blank text = word ↔ Pads blank word text := by
  constructor
  · rintro rfl
    exact pads_trim text
  · rintro ⟨before, after, rfl, hbefore, hafter⟩
    have hback : (after.reverse ++ word.reverse).dropWhile blank = word.reverse := by
      have hafter' : ∀ c ∈ after.reverse, blank c = true := by simpa using hafter
      have hword' : ∀ c ∈ word.reverse, blank c = false := by simpa using hword
      have hdrop := dropWhile_append_word hafter' hword' (by simpa using hne) []
      rwa [List.append_nil] at hdrop
    rw [trim, List.append_assoc, dropWhile_append_word hbefore hword hne, List.reverse_append,
      hback, List.reverse_reverse]

theorem Pads.mono {wide : Char → Bool} (hwide : ∀ c, blank c = true → wide c = true)
    (h : Pads blank word text) : Pads wide word text := by
  obtain ⟨before, after, htext, hbefore, hafter⟩ := h
  exact ⟨before, after, htext, fun c hc => hwide c (hbefore c hc),
    fun c hc => hwide c (hafter c hc)⟩

/-- A function that keeps the classes apart and makes the word out of nothing else keeps what stands
around the word. -/
theorem pads_map_iff {f : Char → Char} {narrow : Char → Bool}
    (hblank : ∀ c ∈ text, narrow (f c) = blank c) (hword : ∀ d ∈ word, ∀ c ∈ text, f c = d ↔ c = d)
    (hfix : ∀ d ∈ word, f d = d) :
    Pads narrow word (text.map f) ↔ Pads blank word text := by
  constructor
  · rintro ⟨before, after, htext, hbefore, hafter⟩
    obtain ⟨front, behind, rfl, hfront, rfl⟩ := List.map_eq_append_iff.1 htext
    obtain ⟨start, middle, rfl, rfl, hmiddle⟩ := List.map_eq_append_iff.1 hfront
    have hsame : middle = word := by
      refine List.ext_getElem (by simp [← hmiddle]) fun n hn hn' => ?_
      have hget : f middle[n] = word[n] := by simp [← hmiddle]
      refine (hword _ (List.getElem_mem hn') _ ?_).1 hget
      simp
    subst hsame
    refine ⟨start, behind, rfl, fun c hc => ?_, fun c hc => ?_⟩
    · rw [← hblank c (by simp [hc])]
      exact hbefore _ (List.mem_map_of_mem hc)
    · rw [← hblank c (by simp [hc])]
      exact hafter _ (List.mem_map_of_mem hc)
  · rintro ⟨before, after, rfl, hbefore, hafter⟩
    refine ⟨before.map f, after.map f, ?_, ?_, ?_⟩
    · rw [List.map_append, List.map_append, List.map_congr_left hfix, List.map_id']
    · simpa using fun c hc => (hblank c (by simp [hc])).trans (hbefore c hc)
    · simpa using fun c hc => (hblank c (by simp [hc])).trans (hafter c hc)

end Pads

end Blank

/-! ## 2. Rounding gives a number -/

namespace Binary64

theorem isNaN_ofWord {word : Nat} (h : word ≤ infinityWord) (negative : Bool) :
    (ofWord negative word).isNaN = false := by
  have hlow : word ≤ 0x7FF0000000000000 := h
  have hmagnitude : (ofWord negative word).magnitude = word := by
    unfold magnitude ofWord
    cases negative with
    | true => simp; omega
    | false => simp; omega
  simp [isNaN, hmagnitude, h]

theorem isNaN_infinity (negative : Bool) : (infinity negative).isNaN = false :=
  isNaN_ofWord (Nat.le_refl _) negative

theorem isNaN_ofRatio (negative : Bool) (num den : Nat) :
    (ofRatio negative num den).isNaN = false := by
  unfold ofRatio
  split
  · exact isNaN_ofWord (Nat.zero_le _) negative
  · dsimp only
    generalize (lastBit num den + 1074).toNat * Nat.pow 2 52 + _ = word
    split
    · exact isNaN_infinity negative
    · rename_i hword
      exact isNaN_ofWord (Nat.le_of_not_le hword) negative

/-- **Rounding a decimal gives a number**, whatever its size. -/
theorem isNaN_ofDecimal (negative : Bool) (digits : Nat) (exponent : Int) :
    (ofDecimal negative digits exponent).isNaN = false := by
  unfold ofDecimal
  split
  · exact isNaN_ofWord (Nat.zero_le _) negative
  · dsimp only
    split
    · exact isNaN_infinity negative
    · split
      · exact isNaN_ofWord (Nat.zero_le _) negative
      · split
        · exact isNaN_ofRatio ..
        · exact isNaN_ofRatio ..

end Binary64

/-! ## 3. Words in the text of a number -/

namespace NumberText

/-- White space around a number. The information separators are none. -/
def isBlank (c : Char) : Bool := Blank.isBlank c && !(0x1C ≤ c.toNat && c.toNat ≤ 0x1F)

/-- Characters that no other character becomes when a text is brought into ASCII. -/
structure IsLetter (c : Char) : Prop where
  ascii : c.toNat < 0x7F
  noBlank : Blank.isBlank c = false
  noMark : c ≠ '?'
  noDigit : c.isDigit = false

/-- What holds of every ASCII character by its number holds of it. -/
theorem of_ascii {P : Char → Prop} (hall : ∀ n : Fin 0x80, P (Char.ofNat n.val)) {c : Char}
    (h : c.toNat < 0x80) : P c := by
  have hc := hall ⟨c.toNat, h⟩
  rwa [Char.ofNat_toNat] at hc

theorem isAsciiBlank_of_ascii {c : Char} (h : c.toNat < 0x80) :
    Blank.isAsciiBlank c = isBlank c :=
  of_ascii (P := fun c => Blank.isAsciiBlank c = isBlank c) (by decide +kernel) h

theorem plainChar_cases {c : Char} (h : ¬ c.toNat < 0x7F) :
    Blank.isBlank c = true ∧ plainChar c = ' ' ∨
      Blank.isBlank c = false ∧ (plainChar c = '?' ∨ (plainChar c).isDigit = true) := by
  unfold plainChar
  rw [if_neg h]
  cases hblank : Blank.isBlank c with
  | true => exact .inl ⟨rfl, rfl⟩
  | false =>
    right
    rw [if_neg Bool.false_ne_true]
    cases hdigit : DecimalDigit.digitValue? c with
    | none => exact ⟨rfl, .inl rfl⟩
    | some n =>
      have hn := DecimalDigit.digitValue?_lt_ten hdigit
      exact ⟨rfl, .inr (by simp [Nat.isDigit_digitChar, hn])⟩

theorem isAsciiBlank_plainChar (c : Char) : Blank.isAsciiBlank (plainChar c) = isBlank c := by
  by_cases h : c.toNat < 0x7F
  · rw [plainChar, if_pos h]
    exact isAsciiBlank_of_ascii (by omega)
  · have hclass : isBlank c = Blank.isBlank c := by
      simp [isBlank]
      omega
    rw [hclass]
    rcases plainChar_cases h with ⟨hblank, hplain⟩ | ⟨hblank, hplain | hdigit⟩
    · rw [hblank, hplain]
      decide
    · rw [hblank, hplain]
      decide
    · rw [hblank]
      have hnumber : 0x30 ≤ (plainChar c).toNat := (Char.isDigit_iff_toNat.1 hdigit).1
      refine eq_false_of_ne_true fun hspace => ?_
      have hwide : Blank.isAsciiBlank (plainChar c) = true := hspace
      simp [Blank.isAsciiBlank] at hwide
      rcases hwide with hsame | hlow
      · rw [hsame] at hdigit
        exact absurd hdigit (by decide)
      · omega

theorem plainChar_eq_iff {c d : Char} (hd : IsLetter d) : plainChar c = d ↔ c = d := by
  by_cases h : c.toNat < 0x7F
  · rw [plainChar, if_pos h]
  · refine iff_of_false ?_ (fun hsame => h (hsame ▸ hd.ascii))
    rcases plainChar_cases h with ⟨-, hplain⟩ | ⟨-, hplain | hdigit⟩
    · rintro rfl
      rw [hplain] at hd
      exact absurd hd.noBlank (by decide)
    · rintro rfl
      exact hd.noMark hplain
    · rintro rfl
      exact absurd (hd.noDigit.symm.trans hdigit) Bool.false_ne_true

/-- **A word is left of a text** when it is brought into ASCII exactly when it stood there, with
white space around it. -/
theorem plain_eq_iff {text : String} {word : List Char} (hword : ∀ d ∈ word, IsLetter d)
    (hne : word ≠ []) : plain text = word ↔ Blank.Pads isBlank word text.toList := by
  have hnarrow : ∀ d ∈ word, Blank.isAsciiBlank d = false := fun d hd =>
    eq_false_of_ne_true fun h => absurd (Blank.isBlank_of_isAsciiBlank h)
      (by simp [(hword d hd).noBlank])
  unfold plain
  dsimp only
  rw [Blank.trim_eq_iff hnarrow hne]
  split
  · rename_i hall
    have hascii : ∀ c ∈ text.toList, c.toNat < 0x80 := by simpa using hall
    have hid : Blank.Pads Blank.isAsciiBlank word (text.toList.map id) ↔
        Blank.Pads isBlank word text.toList :=
      Blank.pads_map_iff (fun c hc => isAsciiBlank_of_ascii (hascii c hc))
        (fun _ _ _ _ => Iff.rfl) fun _ _ => rfl
    rwa [List.map_id] at hid
  · exact Blank.pads_map_iff (fun c _ => isAsciiBlank_plainChar c)
      (fun d hd c _ => plainChar_eq_iff (hword d hd)) fun d hd => (plainChar_eq_iff (hword d hd)).2 rfl

theorem separatedFrom_of_notMem {text : List Char} (h : '_' ∉ text) (afterDigit : Bool) :
    separatedFrom afterDigit text = true := by
  induction text generalizing afterDigit with
  | nil => rfl
  | cons c rest ih =>
    rw [List.mem_cons, not_or] at h
    rw [separatedFrom, if_neg (Ne.symm h.1)]
    exact ih h.2 _

/-- A separator is followed by a digit. -/
theorem notMem_of_separatedFrom {text : List Char} (hdigits : ∀ c ∈ text, c.isDigit = false)
    {afterDigit : Bool} (h : separatedFrom afterDigit text = true) : '_' ∉ text := by
  induction text generalizing afterDigit with
  | nil => exact List.not_mem_nil
  | cons c rest ih =>
    rw [List.forall_mem_cons] at hdigits
    rw [separatedFrom] at h
    split at h
    · cases rest with
      | nil => simp at h
      | cons d rest => simp [hdigits.2 d List.mem_cons_self] at h
    · rename_i hc
      rw [List.mem_cons, not_or]
      exact ⟨Ne.symm hc, ih hdigits.2 h⟩

/-- **Without digits there are no separators** to take out. -/
theorem joinDigits?_eq_some_iff {text word : List Char} (hdigits : ∀ c ∈ word, c.isDigit = false)
    (hword : '_' ∉ word) : joinDigits? text = some word ↔ text = word := by
  have hkeep {cs : List Char} (h : '_' ∉ cs) : cs.filter (· != '_') = cs :=
    List.filter_eq_self.2 fun c hc => by simp; rintro rfl; exact h hc
  unfold joinDigits?
  constructor
  · intro h
    split at h
    · rename_i hseparated
      obtain rfl := Option.some.inj h
      have hnone : ∀ c ∈ text, c.isDigit = false := by
        intro c hc
        by_cases hseparator : c = '_'
        · rw [hseparator]
          decide
        · exact hdigits c (List.mem_filter.2 ⟨hc, by simpa using hseparator⟩)
      exact (hkeep (notMem_of_separatedFrom hnone hseparated)).symm
    · cases h
  · rintro rfl
    rw [if_pos (separatedFrom_of_notMem hword false), hkeep hword]

/-- A leading sign, or none. -/
def IsSign (sign : List Char) : Prop := sign = [] ∨ sign = ['+'] ∨ sign = ['-']

theorem exists_of_takeSign {text body : List Char} {negative : Bool}
    (h : takeSign text = (negative, body)) : ∃ sign, IsSign sign ∧ text = sign ++ body := by
  unfold takeSign at h
  split at h
  · obtain ⟨rfl, rfl⟩ := Prod.mk.inj h
    exact ⟨['-'], .inr (.inr rfl), rfl⟩
  · obtain ⟨rfl, rfl⟩ := Prod.mk.inj h
    exact ⟨['+'], .inr (.inl rfl), rfl⟩
  · obtain ⟨rfl, rfl⟩ := Prod.mk.inj h
    exact ⟨[], .inl rfl, rfl⟩

theorem takeSign_append {sign body : List Char} (hsign : IsSign sign)
    (hbody : ∀ c ∈ body, c ≠ '+' ∧ c ≠ '-') :
    ∃ negative, takeSign (sign ++ body) = (negative, body) := by
  rcases hsign with rfl | rfl | rfl
  · refine ⟨false, ?_⟩
    rw [List.nil_append]
    unfold takeSign
    split
    · exact absurd rfl (hbody '-' List.mem_cons_self).2
    · exact absurd rfl (hbody '+' List.mem_cons_self).1
    · rfl
  · exact ⟨false, rfl⟩
  · exact ⟨true, rfl⟩

end NumberText

/-! ## 4. The word -/

namespace Decimal

open NumberText (IsSign IsLetter)

/-- The characters spell the word for what is no number, in letters of any case. -/
def IsNaNWord (word : List Char) : Prop := String.ofList (word.map Char.toLower) = "nan"

instance (word : List Char) : Decidable (IsNaNWord word) := inferInstanceAs (Decidable (_ = _))

/-- The text is that word, with a sign or none, and with white space around it. -/
def SpellsNaN (text : String) : Prop :=
  ∃ sign word, IsSign sign ∧ IsNaNWord word ∧
    Blank.Pads NumberText.isBlank (sign ++ word) text.toList

theorem toNat_lt_of_toLower {c d : Char} (h : c.toLower = d) (hd : d.toNat < 0x80) :
    c.toNat < 0x80 := by
  unfold Char.toLower at h
  split at h
  · rename_i hupper
    have hz : c.toNat ≤ 'Z'.toNat := UInt32.le_iff_toNat_le.1 hupper.2
    exact Nat.lt_of_le_of_lt hz (by decide)
  · rwa [h]

theorem mem_word {word : List Char} (h : IsNaNWord word) {c : Char} (hc : c ∈ word) :
    c ∈ ['n', 'N', 'a', 'A'] := by
  have hlower : c.toLower ∈ "nan".toList := by
    rw [← h, String.toList_ofList]
    exact List.mem_map_of_mem hc
  have hascii : ∀ d ∈ ['n', 'a', 'n'], d.toNat < 0x80 := by simp
  exact NumberText.of_ascii (P := fun c => c.toLower ∈ "nan".toList → c ∈ ['n', 'N', 'a', 'A'])
    (by decide +kernel) (toNat_lt_of_toLower rfl (hascii _ hlower)) hlower

theorem word_ne_nil {word : List Char} (h : IsNaNWord word) : word ≠ [] := by
  rintro rfl
  exact absurd h (by decide)

section Spelled

variable {sign word : List Char}

theorem mem_spelled (hsign : IsSign sign) (hword : IsNaNWord word) {c : Char}
    (hc : c ∈ sign ++ word) : c ∈ ['+', '-', 'n', 'N', 'a', 'A'] := by
  rcases List.mem_append.1 hc with hc | hc
  · rcases hsign with rfl | rfl | rfl <;> simp_all
  · have := mem_word hword hc
    simp_all

theorem isLetter_spelled (hsign : IsSign sign) (hword : IsNaNWord word) {c : Char}
    (hc : c ∈ sign ++ word) : IsLetter c := by
  have hmem := mem_spelled hsign hword hc
  simp only [List.mem_cons, List.not_mem_nil, or_false] at hmem
  rcases hmem with rfl | rfl | rfl | rfl | rfl | rfl <;>
    exact ⟨by decide, by decide, by decide, by decide⟩

/-- The text is cut down to the sign and the word exactly when they stand in it. -/
theorem joinDigits?_plain_iff (hsign : IsSign sign) (hword : IsNaNWord word) (text : String) :
    NumberText.joinDigits? (NumberText.plain text) = some (sign ++ word) ↔
      Blank.Pads NumberText.isBlank (sign ++ word) text.toList := by
  have hseparator : '_' ∉ sign ++ word := fun h =>
    absurd (mem_spelled hsign hword h) (by decide)
  rw [NumberText.joinDigits?_eq_some_iff
      (fun c hc => (isLetter_spelled hsign hword hc).noDigit) hseparator,
    NumberText.plain_eq_iff (fun c hc => isLetter_spelled hsign hword hc)
      (List.append_ne_nil_of_right_ne_nil _ (word_ne_nil hword))]

end Spelled

theorem isNaN_ofDigits? {negative : Bool} {cs : List Char} {x : Binary64}
    (h : ofDigits? negative cs = some x) : x.isNaN = false := by
  unfold ofDigits? at h
  dsimp only at h
  split at h
  · cases h
  · obtain ⟨e, -, rfl⟩ := Option.map_eq_some_iff.1 h
    exact Binary64.isNaN_ofDecimal ..

theorem isNaNWord_of_ofWord? {negative : Bool} {cs : List Char} {x : Binary64}
    (h : ofWord? negative cs = some x) (hx : x.isNaN = true) : IsNaNWord cs := by
  unfold ofWord? at h
  dsimp only at h
  split at h
  · obtain rfl := Option.some.inj h
    exact absurd ((Binary64.isNaN_infinity negative).symm.trans hx) Bool.false_ne_true
  · split at h
    · rename_i hnan
      exact hnan
    · cases h

theorem ofWord?_of_isNaNWord {cs : List Char} (h : IsNaNWord cs) (negative : Bool) :
    ofWord? negative cs = some .nan := by
  have hword : String.ofList (cs.map Char.toLower) = "nan" := h
  unfold ofWord?
  dsimp only
  rw [hword]
  rfl

/-- **A text is read as no number** exactly when it spells that. -/
theorem read?_isNaN_iff (text : String) :
    (∃ x, read? text = some x ∧ x.isNaN = true) ↔ SpellsNaN text := by
  unfold read?
  constructor
  · rintro ⟨x, hread, hx⟩
    obtain ⟨cs, hcs, hread⟩ := Option.bind_eq_some_iff.1 hread
    rcases htake : NumberText.takeSign cs with ⟨negative, body⟩
    obtain ⟨sign, hsign, rfl⟩ := NumberText.exists_of_takeSign htake
    rw [htake] at hread
    dsimp only at hread
    cases hof : ofWord? negative body with
    | none =>
      rw [hof] at hread
      exact absurd ((isNaN_ofDigits? hread).symm.trans hx) Bool.false_ne_true
    | some y =>
      rw [hof] at hread
      obtain rfl : y = x := Option.some.inj hread
      have hword := isNaNWord_of_ofWord? hof hx
      exact ⟨sign, body, hsign, hword, (joinDigits?_plain_iff hsign hword text).1 hcs⟩
  · rintro ⟨sign, word, hsign, hword, hpads⟩
    have hbody : ∀ c ∈ word, c ≠ '+' ∧ c ≠ '-' := by
      intro c hc
      have hmem := mem_word hword hc
      constructor
      · rintro rfl
        exact absurd hmem (by decide)
      · rintro rfl
        exact absurd hmem (by decide)
    obtain ⟨negative, htake⟩ := NumberText.takeSign_append hsign hbody
    refine ⟨.nan, ?_, by decide⟩
    rw [(joinDigits?_plain_iff hsign hword text).2 hpads]
    simp [htake, ofWord?_of_isNaNWord hword]

end Decimal

end HttpProbe
