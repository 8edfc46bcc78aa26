import HttpProbe.Text.Utf8

/-!
# What reading UTF-8 makes of its octets

The reader of `HttpProbe.Utf8` is a machine that takes one octet at a time. This file says what it
makes of whole characters and of what is none:

* `charsFrom_encodeChar`: between characters, the octets of a character are read as this character,
  whatever stands after them;
* `charsFrom_start_cases`: and there is no other way to a character. Octets that begin with the
  octets of no character begin with a broken part, which is read as U+FFFD;
* `decodeChars_encode`: so a text is read from what was written for it;
* `ascii_mem_of_mem_decodeChars`: and an ASCII character is read only where its octet stands;
* **`prefix_decodeChars_iff`**: and a text without U+FFFD begins what is read exactly where its own
  octets begin the octets. A broken part neither makes such a beginning nor hides it.

A first octet and the octets that it owes are tied together by `Leads` (which octets may come, and
the bits of the first one) and `Finishes` (the octets came, and the number they finish).
-/

namespace HttpProbe.Utf8

/-! ## 1. Numbers of octets and characters -/

theorem toNat_charOfNat {n : Nat} (h : n.isValidChar) : (Char.ofNat n).toNat = n := by
  unfold Char.ofNat
  rw [dif_pos h]
  rfl

theorem toUInt8_eq {n : Nat} {b : UInt8} (h : n = b.toNat) : n.toUInt8 = b := by
  subst h
  exact UInt8.ofNat_toNat

theorem toNat_toUInt8 {n : Nat} (h : n < 256) : n.toUInt8.toNat = n := by
  rw [Nat.toUInt8, UInt8.toNat_ofNat', Nat.mod_eq_of_lt h]

/-! ## 2. The octets that a first octet owes -/

/-- After a first octet that left the reader in `owing next more value` the octets `bs` came, each
as it was due, and finish the character of number `n`. -/
inductive Finishes : Next → Nat → Nat → Bytes → Nat → Prop where
  | last {next : Next} {value n : Nat} {b : UInt8} (hlow : next.low ≤ b) (hhigh : b ≤ next.high)
      (hn : n = value * 0x40 + (b.toNat - 0x80)) : Finishes next 0 value [b] n
  | more {next : Next} {more value n : Nat} {b : UInt8} {bs : Bytes} (hlow : next.low ≤ b)
      (hhigh : b ≤ next.high) (h : Finishes .tail more (value * 0x40 + (b.toNat - 0x80)) bs n) :
    Finishes next (more + 1) value (b :: bs) n

/-- What the first octet of a character says of the octets that it owes. -/
inductive Leads (b : UInt8) : Next → Nat → Nat → Prop where
  | two {value : Nat} (h : 0xC2 ≤ b.toNat) (h' : b.toNat < 0xE0) (hv : value = b.toNat - 0xC0) :
    Leads b .tail 0 value
  | three {next : Next} {value : Nat} (h : 0xE0 ≤ b.toNat) (h' : b.toNat < 0xF0)
      (hv : value = b.toNat - 0xE0)
      (hlow : next.low.toNat = if b.toNat = 0xE0 then 0xA0 else 0x80)
      (hhigh : next.high.toNat = if b.toNat = 0xED then 0x9F else 0xBF) : Leads b next 1 value
  | four {next : Next} {value : Nat} (h : 0xF0 ≤ b.toNat) (h' : b.toNat ≤ 0xF4)
      (hv : value = b.toNat - 0xF0)
      (hlow : next.low.toNat = if b.toNat = 0xF0 then 0x90 else 0x80)
      (hhigh : next.high.toNat = if b.toNat = 0xF4 then 0x8F else 0xBF) : Leads b next 2 value

theorem lead?_spec (b : UInt8) :
    (lead? b = none ∧ (b.toNat < 0xC2 ∨ 0xF4 < b.toNat)) ∨
      ∃ next more value, lead? b = some (.owing next more value) ∧ Leads b next more value := by
  unfold lead?
  simp only [UInt8.lt_iff_toNat_lt, ← UInt8.toNat_inj, UInt8.reduceToNat]
  by_cases h₁ : b.toNat < 0xC2
  · exact .inl ⟨if_pos h₁, .inl h₁⟩
  rw [if_neg h₁]
  by_cases h₂ : b.toNat < 0xE0
  · exact .inr ⟨_, _, _, if_pos h₂, .two (by omega) h₂ rfl⟩
  rw [if_neg h₂]
  by_cases h₃ : b.toNat = 0xE0
  · refine .inr ⟨_, _, _, if_pos h₃, .three (by omega) (by omega) (by omega) ?_ ?_⟩
    · rw [if_pos h₃]; rfl
    · rw [if_neg (by omega)]; rfl
  rw [if_neg h₃]
  by_cases h₄ : b.toNat = 0xED
  · refine .inr ⟨_, _, _, if_pos h₄, .three (by omega) (by omega) (by omega) ?_ ?_⟩
    · rw [if_neg h₃]; rfl
    · rw [if_pos h₄]; rfl
  rw [if_neg h₄]
  by_cases h₅ : b.toNat < 0xF0
  · refine .inr ⟨_, _, _, if_pos h₅, .three (by omega) h₅ rfl ?_ ?_⟩
    · rw [if_neg h₃]; rfl
    · rw [if_neg h₄]; rfl
  rw [if_neg h₅]
  by_cases h₆ : b.toNat = 0xF0
  · refine .inr ⟨_, _, _, if_pos h₆, .four (by omega) (by omega) (by omega) ?_ ?_⟩
    · rw [if_pos h₆]; rfl
    · rw [if_neg (by omega)]; rfl
  rw [if_neg h₆]
  by_cases h₇ : b.toNat < 0xF4
  · refine .inr ⟨_, _, _, if_pos h₇, .four (by omega) (by omega) rfl ?_ ?_⟩
    · rw [if_neg h₆]; rfl
    · rw [if_neg (by omega)]; rfl
  rw [if_neg h₇]
  by_cases h₈ : b.toNat = 0xF4
  · refine .inr ⟨_, _, _, if_pos h₈, .four (by omega) (by omega) (by omega) ?_ ?_⟩
    · rw [if_neg h₆]; rfl
    · rw [if_pos h₈]; rfl
  · exact .inl ⟨if_neg h₈, .inr (by omega)⟩

/-! ## 3. Octets of a character, written and owed -/

theorem encodeChar_two {a b : UInt8} {n : Nat} (ha : 0xC2 ≤ a.toNat) (ha' : a.toNat < 0xE0)
    (hb : 0x80 ≤ b.toNat) (hb' : b.toNat ≤ 0xBF)
    (hn : n = (a.toNat - 0xC0) * 0x40 + (b.toNat - 0x80)) :
    n.isValidChar ∧ encodeChar (Char.ofNat n) = [a, b] := by
  have hv : n.isValidChar := .inl (by omega)
  refine ⟨hv, ?_⟩
  simp only [encodeChar, toNat_charOfNat hv]
  rw [if_neg (by omega), if_pos (by omega), toUInt8_eq (b := a) (by omega),
    toUInt8_eq (b := b) (by omega)]

theorem encodeChar_three {a b c : UInt8} {n : Nat} (ha : 0xE0 ≤ a.toNat) (ha' : a.toNat < 0xF0)
    (hb : 0x80 ≤ b.toNat) (hb' : b.toNat ≤ 0xBF) (hc : 0x80 ≤ c.toNat) (hc' : c.toNat ≤ 0xBF)
    (hlow : a.toNat = 0xE0 → 0xA0 ≤ b.toNat) (hhigh : a.toNat = 0xED → b.toNat ≤ 0x9F)
    (hn : n = ((a.toNat - 0xE0) * 0x40 + (b.toNat - 0x80)) * 0x40 + (c.toNat - 0x80)) :
    n.isValidChar ∧ encodeChar (Char.ofNat n) = [a, b, c] := by
  have hv : n.isValidChar := by
    by_cases hd : a.toNat ≤ 0xED
    · left; omega
    · right; omega
  refine ⟨hv, ?_⟩
  simp only [encodeChar, toNat_charOfNat hv]
  rw [if_neg (by omega), if_neg (by omega), if_pos (by omega), toUInt8_eq (b := a) (by omega),
    toUInt8_eq (b := b) (by omega), toUInt8_eq (b := c) (by omega)]

theorem encodeChar_four {a b c d : UInt8} {n : Nat} (ha : 0xF0 ≤ a.toNat) (ha' : a.toNat ≤ 0xF4)
    (hb : 0x80 ≤ b.toNat) (hb' : b.toNat ≤ 0xBF) (hc : 0x80 ≤ c.toNat) (hc' : c.toNat ≤ 0xBF)
    (hd : 0x80 ≤ d.toNat) (hd' : d.toNat ≤ 0xBF)
    (hlow : a.toNat = 0xF0 → 0x90 ≤ b.toNat) (hhigh : a.toNat = 0xF4 → b.toNat ≤ 0x8F)
    (hn : n = (((a.toNat - 0xF0) * 0x40 + (b.toNat - 0x80)) * 0x40 + (c.toNat - 0x80)) * 0x40
      + (d.toNat - 0x80)) :
    n.isValidChar ∧ encodeChar (Char.ofNat n) = [a, b, c, d] := by
  have hv : n.isValidChar := .inr (by omega)
  refine ⟨hv, ?_⟩
  simp only [encodeChar, toNat_charOfNat hv]
  rw [if_neg (by omega), if_neg (by omega), if_neg (by omega), toUInt8_eq (b := a) (by omega),
    toUInt8_eq (b := b) (by omega), toUInt8_eq (b := c) (by omega),
    toUInt8_eq (b := d) (by omega)]

theorem tail_bounds {x : UInt8} (h : Next.tail.low ≤ x) (h' : x ≤ Next.tail.high) :
    0x80 ≤ x.toNat ∧ x.toNat ≤ 0xBF := by
  rw [UInt8.le_iff_toNat_le] at h h'
  exact ⟨h, h'⟩

/-- What a first octet and the octets that it owes finish is the character that they write. -/
theorem encodeChar_of_leads {b : UInt8} {next : Next} {more value n : Nat} {part : Bytes}
    (hb : Leads b next more value) (h : Finishes next more value part n) :
    n.isValidChar ∧ encodeChar (Char.ofNat n) = b :: part := by
  cases hb with
  | two hb hb' hv =>
    cases h with
    | last hlow hhigh hn =>
      obtain ⟨hx, hx'⟩ := tail_bounds hlow hhigh
      exact encodeChar_two hb hb' hx hx' (by omega)
  | three hb hb' hv hl hh =>
    cases h with
    | more hlow hhigh h =>
      cases h with
      | last hlow' hhigh' hn =>
        obtain ⟨hy, hy'⟩ := tail_bounds hlow' hhigh'
        rw [UInt8.le_iff_toNat_le] at hlow hhigh
        rw [hl] at hlow
        rw [hh] at hhigh
        refine encodeChar_three hb hb' ?_ ?_ hy hy' ?_ ?_ (by omega)
        all_goals split at hlow <;> split at hhigh <;> omega
  | four hb hb' hv hl hh =>
    cases h with
    | more hlow hhigh h =>
      cases h with
      | more hlow' hhigh' h =>
        cases h with
        | last hlow'' hhigh'' hn =>
          obtain ⟨hy, hy'⟩ := tail_bounds hlow' hhigh'
          obtain ⟨hz, hz'⟩ := tail_bounds hlow'' hhigh''
          rw [UInt8.le_iff_toNat_le] at hlow hhigh
          rw [hl] at hlow
          rw [hh] at hhigh
          refine encodeChar_four hb hb' ?_ ?_ hy hy' hz hz' ?_ ?_ (by omega)
          all_goals split at hlow <;> split at hhigh <;> omega

/-- The octets of a character beyond ASCII are a first octet and the octets that it owes. -/
theorem exists_leads_of_encodeChar {c : Char} (hc : 0x80 ≤ c.toNat) :
    ∃ b part next more value, encodeChar c = b :: part ∧
      lead? b = some (.owing next more value) ∧ Finishes next more value part c.toNat := by
  have hvalid : c.toNat < 0xD800 ∨ 0xDFFF < c.toNat ∧ c.toNat < 0x110000 := c.valid
  unfold encodeChar
  generalize c.toNat = n at hc hvalid
  dsimp only
  rw [if_neg (by omega)]
  by_cases h₂ : n < 0x800
  · rw [if_pos h₂]
    have ha := toNat_toUInt8 (n := 0xC0 + n / 0x40) (by omega)
    have hb := toNat_toUInt8 (n := 0x80 + n % 0x40) (by omega)
    rcases lead?_spec (0xC0 + n / 0x40).toUInt8 with ⟨_, h⟩ | ⟨next, more, value, hl, hleads⟩
    · omega
    · refine ⟨_, _, next, more, value, rfl, hl, ?_⟩
      cases hleads with
      | two _ _ hv =>
        refine .last ?_ ?_ (by omega)
        · rw [UInt8.le_iff_toNat_le, hb]; exact Nat.le_add_right ..
        · rw [UInt8.le_iff_toNat_le, hb]; show _ ≤ 0xBF; omega
      | three => omega
      | four => omega
  rw [if_neg h₂]
  by_cases h₃ : n < 0x10000
  · rw [if_pos h₃]
    have ha := toNat_toUInt8 (n := 0xE0 + n / 0x1000) (by omega)
    have hb := toNat_toUInt8 (n := 0x80 + n / 0x40 % 0x40) (by omega)
    have hc := toNat_toUInt8 (n := 0x80 + n % 0x40) (by omega)
    rcases lead?_spec (0xE0 + n / 0x1000).toUInt8 with ⟨_, h⟩ | ⟨next, more, value, hl, hleads⟩
    · omega
    · refine ⟨_, _, next, more, value, rfl, hl, ?_⟩
      cases hleads with
      | three _ _ hv hlow hhigh =>
        refine .more ?_ ?_ (.last ?_ ?_ (by omega))
        · rw [UInt8.le_iff_toNat_le, hb, hlow]; split <;> omega
        · rw [UInt8.le_iff_toNat_le, hb, hhigh]; split <;> omega
        · rw [UInt8.le_iff_toNat_le, hc]; exact Nat.le_add_right ..
        · rw [UInt8.le_iff_toNat_le, hc]; show _ ≤ 0xBF; omega
      | two => omega
      | four => omega
  rw [if_neg h₃]
  have ha := toNat_toUInt8 (n := 0xF0 + n / 0x40000) (by omega)
  have hb := toNat_toUInt8 (n := 0x80 + n / 0x1000 % 0x40) (by omega)
  have hc := toNat_toUInt8 (n := 0x80 + n / 0x40 % 0x40) (by omega)
  have hd := toNat_toUInt8 (n := 0x80 + n % 0x40) (by omega)
  rcases lead?_spec (0xF0 + n / 0x40000).toUInt8 with ⟨_, h⟩ | ⟨next, more, value, hl, hleads⟩
  · omega
  · refine ⟨_, _, next, more, value, rfl, hl, ?_⟩
    cases hleads with
    | four _ _ hv hlow hhigh =>
      refine .more ?_ ?_ (.more ?_ ?_ (.last ?_ ?_ (by omega)))
      · rw [UInt8.le_iff_toNat_le, hb, hlow]; split <;> omega
      · rw [UInt8.le_iff_toNat_le, hb, hhigh]; split <;> omega
      · rw [UInt8.le_iff_toNat_le, hc]; exact Nat.le_add_right ..
      · rw [UInt8.le_iff_toNat_le, hc]; show _ ≤ 0xBF; omega
      · rw [UInt8.le_iff_toNat_le, hd]; exact Nat.le_add_right ..
      · rw [UInt8.le_iff_toNat_le, hd]; show _ ≤ 0xBF; omega
    | two => omega
    | three => omega

/-! ## 4. Steps of the reader -/

theorem step_last {next : Next} {value : Nat} {b : UInt8} (h : next.low ≤ b ∧ b ≤ next.high) :
    step (.owing next 0 value) b = (.start, [Char.ofNat (value * 0x40 + (b.toNat - 0x80))]) := by
  rw [step, if_pos h]

theorem step_more {next : Next} {more value : Nat} {b : UInt8}
    (h : next.low ≤ b ∧ b ≤ next.high) :
    step (.owing next (more + 1) value) b
      = (.owing .tail more (value * 0x40 + (b.toNat - 0x80)), []) := by
  rw [step, if_pos h]

theorem step_broken {next : Next} {more value : Nat} {b : UInt8}
    (h : ¬ (next.low ≤ b ∧ b ≤ next.high)) :
    step (.owing next more value) b = ((begin b).1, replacement :: (begin b).2) := by
  rw [step, if_neg h]

theorem charsFrom_of_finishes {next : Next} {more value n : Nat} {part : Bytes}
    (h : Finishes next more value part n) (rest : Bytes) :
    charsFrom (.owing next more value) (part ++ rest) = Char.ofNat n :: charsFrom .start rest := by
  induction h with
  | last hlow hhigh hn =>
    rw [List.cons_append, List.nil_append, charsFrom, step_last ⟨hlow, hhigh⟩, ← hn]
    rfl
  | more hlow hhigh _ ih =>
    rw [List.cons_append, charsFrom, step_more ⟨hlow, hhigh⟩]
    exact ih

theorem charsFrom_owing (next : Next) (more value : Nat) (bs : Bytes) :
    (∃ part rest n, bs = part ++ rest ∧ Finishes next more value part n) ∨
      ∃ part rest, bs = part ++ rest ∧
        charsFrom (.owing next more value) bs = replacement :: charsFrom .start rest := by
  induction bs generalizing next more value with
  | nil => exact .inr ⟨[], [], rfl, rfl⟩
  | cons b bs ih =>
    by_cases hb : next.low ≤ b ∧ b ≤ next.high
    · cases more with
      | zero => exact .inl ⟨[b], bs, _, rfl, .last hb.1 hb.2 rfl⟩
      | succ more =>
        rcases ih .tail more (value * 0x40 + (b.toNat - 0x80)) with
          ⟨part, rest, n, rfl, hn⟩ | ⟨part, rest, rfl, hout⟩
        · exact .inl ⟨b :: part, rest, n, rfl, .more hb.1 hb.2 hn⟩
        · refine .inr ⟨b :: part, rest, rfl, ?_⟩
          rw [charsFrom, step_more hb]
          exact hout
    · refine .inr ⟨[], b :: bs, rfl, ?_⟩
      rw [charsFrom, step_broken hb]
      rfl

theorem charsFrom_start_of_lead {b : UInt8} {s : State} (hb : lead? b = some s) (bs : Bytes) :
    charsFrom .start (b :: bs) = charsFrom s bs := by
  have hascii : ¬ b < 0x80 := by
    intro h
    have h' : b < 0xC2 := UInt8.lt_trans h (by decide)
    rw [lead?, if_pos h'] at hb
    exact absurd hb (by simp)
  rw [charsFrom]
  simp only [step, begin, if_neg hascii, hb, List.nil_append]

theorem charsFrom_encodeChar (c : Char) (rest : Bytes) :
    charsFrom .start (encodeChar c ++ rest) = c :: charsFrom .start rest := by
  by_cases hc : c.toNat < 0x80
  · have hb : c.toNat.toUInt8.toNat = c.toNat := toNat_toUInt8 (by omega)
    have hlt : c.toNat.toUInt8 < 0x80 := by rw [UInt8.lt_iff_toNat_lt, hb]; exact hc
    simp only [encodeChar, if_pos hc, List.cons_append, List.nil_append]
    rw [charsFrom]
    simp only [step, begin, if_pos hlt, hb, Char.ofNat_toNat, List.cons_append, List.nil_append]
  · obtain ⟨b, part, next, more, value, henc, hlead, hfin⟩ :=
      exists_leads_of_encodeChar (Nat.le_of_not_lt hc)
    rw [henc, List.cons_append, charsFrom_start_of_lead hlead, charsFrom_of_finishes hfin,
      Char.ofNat_toNat]

/-- **Every reading starts with a character that stands there, or with a broken part.** -/
theorem charsFrom_start_cases {bs : Bytes} (h : bs ≠ []) :
    (∃ c rest, bs = encodeChar c ++ rest) ∨
      ∃ b part rest, bs = b :: part ++ rest ∧
        charsFrom .start bs = replacement :: charsFrom .start rest := by
  cases bs with
  | nil => exact absurd rfl h
  | cons b bs =>
    by_cases hb : b < 0x80
    · refine .inl ⟨Char.ofNat b.toNat, bs, ?_⟩
      have hlt : b.toNat < 0x80 := UInt8.lt_iff_toNat_lt.1 hb
      have hn : (Char.ofNat b.toNat).toNat = b.toNat := toNat_charOfNat (.inl (by omega))
      simp only [encodeChar, hn, if_pos hlt, toUInt8_eq rfl, List.cons_append, List.nil_append]
    · rcases lead?_spec b with ⟨hnone, _⟩ | ⟨next, more, value, hlead, hleads⟩
      · refine .inr ⟨b, [], bs, rfl, ?_⟩
        rw [charsFrom]
        simp only [step, begin, if_neg hb, hnone, List.cons_append, List.nil_append]
      · rcases charsFrom_owing next more value bs with
          ⟨part, rest, n, rfl, hfin⟩ | ⟨part, rest, rfl, hout⟩
        · left
          refine ⟨Char.ofNat n, rest, ?_⟩
          rw [(encodeChar_of_leads hleads hfin).2, List.cons_append]
        · right
          refine ⟨b, part, rest, rfl, ?_⟩
          rw [charsFrom_start_of_lead hlead, hout]

/-! ## 5. Whole texts -/

theorem encodeChar_ne_nil (c : Char) : encodeChar c ≠ [] := by
  unfold encodeChar
  dsimp only
  repeat' split
  all_goals exact List.cons_ne_nil _ _

theorem decodeChars_encodeChar (c : Char) (rest : Bytes) :
    decodeChars (encodeChar c ++ rest) = c :: decodeChars rest := by
  rw [decodeChars_eq, decodeChars_eq, charsFrom_encodeChar]

/-- **What was written is read**, whatever comes after it. -/
theorem decodeChars_flatMap_append (cs : List Char) (rest : Bytes) :
    decodeChars (cs.flatMap encodeChar ++ rest) = cs ++ decodeChars rest := by
  induction cs with
  | nil => rfl
  | cons c cs ih =>
    rw [List.flatMap_cons, List.append_assoc, decodeChars_encodeChar, ih]
    rfl

theorem decodeChars_encode (text : String) : decodeChars (encode text) = text.toList := by
  have hread := decodeChars_flatMap_append text.toList []
  rw [List.append_nil, decodeChars_nil, List.append_nil] at hread
  exact hread

theorem decode_encode (text : String) : decode (encode text) = text := by
  rw [← String.toList_inj, toList_decode, decodeChars_encode]

/-- A line feed is written only for a line feed. -/
theorem lineFeed_mem_of_mem_encode {text : String} (h : Bytes.lineFeed ∈ encode text) :
    '\n' ∈ text.toList := by
  obtain ⟨a, b, hsplit⟩ := List.append_of_mem h
  rw [← decodeChars_encode, hsplit, decodeChars_lineFeed]
  exact List.mem_append_right _ List.mem_cons_self

/-- An ASCII character is written as the octet of its own number. -/
theorem encodeChar_ascii {c : Char} (h : c.toNat < 0x80) : encodeChar c = [c.toNat.toUInt8] := by
  unfold encodeChar
  dsimp only
  rw [if_pos h]

/-- An ASCII character is read only where its octet stands. -/
theorem ascii_mem_of_mem_decodeChars {c : Char} (hc : c.toNat < 0x80) (bs : Bytes)
    (h : c ∈ decodeChars bs) : c.toNat.toUInt8 ∈ bs := by
  by_cases hbs : bs = []
  · rw [hbs] at h
    exact absurd h List.not_mem_nil
  · rcases charsFrom_start_cases hbs with ⟨d, rest, rfl⟩ | ⟨b, part, rest, rfl, hout⟩
    · rw [decodeChars_encodeChar] at h
      rcases List.mem_cons.1 h with rfl | h
      · rw [encodeChar_ascii hc]
        exact List.mem_cons_self
      · have : rest.length < (encodeChar d ++ rest).length := by
          rw [List.length_append]
          exact Nat.lt_add_of_pos_left (List.length_pos_iff.2 (encodeChar_ne_nil d))
        exact List.mem_append_right _ (ascii_mem_of_mem_decodeChars hc rest h)
    · rw [decodeChars_eq, hout] at h
      rcases List.mem_cons.1 h with rfl | h
      · exact absurd hc (by decide)
      · have : rest.length < (b :: part ++ rest).length := by
          rw [List.length_append, List.length_cons]; omega
        rw [← decodeChars_eq] at h
        exact List.mem_append_right _ (ascii_mem_of_mem_decodeChars hc rest h)
termination_by bs.length

/-- A line feed is read only where one stands. -/
theorem lineFeed_mem_of_mem_decodeChars (bs : Bytes) (h : '\n' ∈ decodeChars bs) :
    Bytes.lineFeed ∈ bs := ascii_mem_of_mem_decodeChars (by decide) bs h

/-- **A text without U+FFFD begins what is read exactly where its octets begin the octets.** -/
theorem prefix_decodeChars_iff {cs : List Char} (h : replacement ∉ cs) (bs : Bytes) :
    cs <+: decodeChars bs ↔ cs.flatMap encodeChar <+: bs := by
  induction cs generalizing bs with
  | nil => simp only [List.nil_prefix, List.flatMap_nil]
  | cons c cs ih =>
    rw [List.mem_cons, not_or] at h
    rw [List.flatMap_cons]
    constructor
    · intro hread
      have hbs : bs ≠ [] := by
        rintro rfl
        exact absurd (List.prefix_nil.1 hread) (List.cons_ne_nil _ _)
      rcases charsFrom_start_cases hbs with ⟨d, rest, rfl⟩ | ⟨b, part, rest, rfl, hout⟩
      · rw [decodeChars_encodeChar, List.cons_prefix_cons] at hread
        obtain ⟨rfl, hread⟩ := hread
        exact (List.prefix_append_right_inj _).2 ((ih h.2 rest).1 hread)
      · rw [decodeChars_eq, hout, List.cons_prefix_cons] at hread
        exact absurd hread.1.symm h.1
    · rintro ⟨rest, rfl⟩
      rw [List.append_assoc, decodeChars_encodeChar, List.cons_prefix_cons]
      exact ⟨rfl, (ih h.2 _).2 (List.prefix_append _ _)⟩

end HttpProbe.Utf8
