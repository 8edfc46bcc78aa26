import HttpProbe.Net.Address
import HttpProbe.Number.Whole

/-!
# Numerals

A port is told as a text and read back as a number. A text of decimal digits, not more of them than
are read, is read as the number that they spell:

* `Whole.read_eq_of_digits`: reading such a text;
* `Numeric`, `Address.Numbered`: texts and ports that can be read;
* `Address.numbered_of_port`: every port of a network is one.
-/

namespace HttpProbe

/-! ## 1. Digits -/

section Digits

variable {cs : List Char} (hd : ∀ c ∈ cs, c.isDigit = true)

theorem isAsciiBlank_of_isDigit {c : Char} (h : c.isDigit = true) :
    Blank.isAsciiBlank c = false := by
  have hbounds := Char.isDigit_iff_toNat.1 h
  have hlow : 48 ≤ c.toNat := hbounds.1
  have hspace : c ≠ ' ' := fun e => by
    rw [e] at hlow
    exact absurd hlow (by decide)
  rw [Blank.isAsciiBlank, beq_false_of_ne hspace, Bool.false_or, Bool.and_eq_false_iff]
  exact .inr (decide_eq_false (by omega))

theorem ne_underscore_of_isDigit {c : Char} (h : c.isDigit = true) : c ≠ '_' := fun e => by
  rw [e] at h
  exact absurd h (by decide)

include hd

theorem dropWhile_isAsciiBlank_of_digits : cs.dropWhile Blank.isAsciiBlank = cs := by
  cases cs with
  | nil => rfl
  | cons c rest =>
    have hc := isAsciiBlank_of_isDigit (hd c List.mem_cons_self)
    rw [List.dropWhile_cons_of_neg (by rw [hc]; exact Bool.false_ne_true)]

theorem trim_of_digits : Blank.trim Blank.isAsciiBlank cs = cs := by
  have hrev : ∀ c ∈ cs.reverse, c.isDigit = true := fun c hc => hd c (List.mem_reverse.1 hc)
  rw [Blank.trim, dropWhile_isAsciiBlank_of_digits hd, dropWhile_isAsciiBlank_of_digits hrev,
    List.reverse_reverse]

theorem takeSign_of_digits : NumberText.takeSign cs = (false, cs) := by
  unfold NumberText.takeSign
  split
  · exact absurd (hd '-' List.mem_cons_self) (by decide)
  · exact absurd (hd '+' List.mem_cons_self) (by decide)
  · rfl

theorem separatedFrom_of_digits (afterDigit : Bool) :
    NumberText.separatedFrom afterDigit cs = true := by
  induction cs generalizing afterDigit with
  | nil => rfl
  | cons c rest ih =>
    have hc := ne_underscore_of_isDigit (hd c List.mem_cons_self)
    rw [NumberText.separatedFrom, if_neg hc]
    exact ih (fun x hx => hd x (List.mem_cons_of_mem _ hx)) _

theorem joinDigits?_of_digits : NumberText.joinDigits? cs = some cs := by
  have hall : ∀ c ∈ cs, (c != '_') = true := fun c hc =>
    bne_iff_ne.2 (ne_underscore_of_isDigit (hd c hc))
  rw [NumberText.joinDigits?, if_pos (separatedFrom_of_digits hd false),
    List.filter_eq_self.2 hall]

end Digits

/-! ## 2. Numerals -/

namespace Whole

theorem plain_of_digits {text : String} (hd : ∀ c ∈ text.toList, c.isDigit = true) :
    NumberText.plain text = text.toList := by
  have hascii : (text.toList.all fun c => decide (c.toNat < 0x80)) = true := by
    rw [List.all_eq_true]
    intro c hc
    have hhigh : c.toNat ≤ 57 := (Char.isDigit_iff_toNat.1 (hd c hc)).2
    exact decide_eq_true (by omega)
  unfold NumberText.plain
  dsimp only
  rw [if_pos hascii, trim_of_digits hd]

/-- **A numeral is read** as the number that its digits spell, unless it has too many of them. -/
theorem read_eq_of_digits {text : String} (hne : text.toList ≠ [])
    (hd : ∀ c ∈ text.toList, c.isDigit = true) :
    read text = if maxDigits < text.toList.length then .error (.tooLong text.toList.length)
      else .ok (NumberText.value text.toList : Int) := by
  have hpart : ∀ c ∈ text.toList, (c.isDigit || c == '_') = true := fun c hc => by
    rw [hd c hc, Bool.true_or]
  have htake : (text.toList ++ []).takeWhile (fun c => c.isDigit || c == '_')
      = text.toList ++ [].takeWhile (fun c => c.isDigit || c == '_') :=
    List.takeWhile_append_of_pos hpart
  have hdrop : (text.toList ++ []).dropWhile (fun c => c.isDigit || c == '_')
      = [].dropWhile (fun c => c.isDigit || c == '_') :=
    List.dropWhile_append_of_pos hpart
  rw [List.takeWhile_nil, List.append_nil] at htake
  rw [List.dropWhile_nil, List.append_nil] at hdrop
  unfold read
  rw [plain_of_digits hd, takeSign_of_digits hd]
  dsimp only
  rw [htake, hdrop, joinDigits?_of_digits hd]
  dsimp only
  rw [if_neg (by rw [List.isEmpty_iff]; exact hne)]
  rfl

theorem read_of_digits {text : String} (hne : text.toList ≠ [])
    (hd : ∀ c ∈ text.toList, c.isDigit = true) (hlen : text.toList.length ≤ maxDigits) :
    read text = .ok (NumberText.value text.toList : Int) := by
  rw [read_eq_of_digits hne hd, if_neg (Nat.not_lt.2 hlen)]

/-- A numeral of one digit more than can be read. -/
def overlong : String := String.ofList (List.replicate (maxDigits + 1) '1')

theorem isDigit_of_mem_overlong {c : Char} (h : c ∈ overlong.toList) : c.isDigit = true := by
  rw [overlong, String.toList_ofList] at h
  rw [(List.mem_replicate.1 h).2]
  rfl

theorem read_overlong : read overlong = .error (.tooLong (maxDigits + 1)) := by
  have hlength : overlong.toList.length = maxDigits + 1 := by
    rw [overlong, String.toList_ofList, List.length_replicate]
  have hne : overlong.toList ≠ [] := List.length_pos_iff.1 (hlength ▸ Nat.succ_pos _)
  rw [read_eq_of_digits hne fun _ => isDigit_of_mem_overlong, hlength,
    if_pos (Nat.lt_succ_self _)]

end Whole

/-- The text spells a whole number that can be read. -/
def Numeric (text : String) : Prop := ∃ n, Whole.read text = .ok n

/-- The port of the address, written down in digits, can be read again. This is how the system names
a port of which nothing else is said. -/
def Address.Numbered (a : Address) : Prop := Numeric (toString a.port)

theorem numeric_toString {n : Nat} (h : (Nat.toDigits 10 n).length ≤ Whole.maxDigits) :
    Numeric (toString (n : Int)) := by
  have hlist : (toString (n : Int)).toList = Nat.toDigits 10 n := Nat.toList_repr
  refine ⟨_, Whole.read_of_digits ?_ ?_ ?_⟩
  · rw [hlist]
    exact Nat.toDigits_ne_nil
  · intro c hc
    rw [hlist] at hc
    exact Nat.isDigit_of_mem_toDigits (by decide) (by decide) hc
  · rw [hlist]
    exact h

/-- **Every port of a network** can be written down and read again. -/
theorem Address.numbered_of_port {a : Address} (h : 0 ≤ a.port) (h' : a.port < 65536) :
    a.Numbered := by
  obtain ⟨n, hn⟩ := Int.eq_ofNat_of_zero_le h
  have hlen : (Nat.toDigits 10 n).length ≤ 5 :=
    (Nat.length_toDigits_le_iff (by decide) (by decide)).2 (by omega)
  unfold Numbered
  rw [hn]
  exact numeric_toString (Nat.le_trans hlen (by decide))

end HttpProbe
