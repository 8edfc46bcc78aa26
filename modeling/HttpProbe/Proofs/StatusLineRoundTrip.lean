import HttpProbe.Proofs.StatusLineReading

/-!
# Status lines, written and read back

A status line is read from the octets that were written for it, and octets that were read as a
status line are written again. Neither direction is without exception, and this file says what the
exceptions are:

* `Bytes.chomp`: octets without the one line end that they may have;
* `codeValue?_threePlaces`, `codeValue?_injective`: the three digits of a code, written and read;
* `spells_text_iff`: which status lines spell what is written for them;
* `Spells.text`: what spells a status line is what is written for it, but for a space before an
  empty reason;
* **`wire_roundTrip`**: both directions on octets.
-/

namespace HttpProbe

/-! ## 1. Line ends -/

namespace Bytes

/-- The octet of a space. -/
def space : UInt8 := 0x20

/-- The octets without one line end: a carriage return and a line feed, or one of them. -/
def chomp (bs : Bytes) : Bytes :=
  if crlf <:+ bs then bs.dropLast.dropLast
  else if [lineFeed] <:+ bs ∨ [carriageReturn] <:+ bs then bs.dropLast
  else bs

theorem crlf_suffix_iff {bs : Bytes} {b : UInt8} :
    crlf <:+ bs ++ [b] ↔ b = lineFeed ∧ [carriageReturn] <:+ bs := by
  constructor
  · intro h
    have hlast : [lineFeed] <:+ bs ++ [b] := (List.suffix_append [carriageReturn] _).trans h
    obtain rfl := List.singleton_suffix_append_singleton_iff.1 hlast
    exact ⟨rfl, List.suffix_append_self_iff.1 h⟩
  · rintro ⟨rfl, h⟩
    exact List.suffix_append_self_iff.2 h

theorem chomp_append_crlf (bs : Bytes) : chomp (bs ++ crlf) = bs := by
  have hdrop : bs ++ crlf = (bs ++ [carriageReturn]) ++ [lineFeed] := by
    rw [List.append_assoc]
    rfl
  rw [chomp, if_pos (List.suffix_append ..), hdrop, List.dropLast_concat, List.dropLast_concat]

theorem chomp_append_lineFeed {bs : Bytes} (h : ¬ [carriageReturn] <:+ bs) :
    chomp (bs ++ [lineFeed]) = bs := by
  have hcrlf : ¬ crlf <:+ bs ++ [lineFeed] := fun hend => h (crlf_suffix_iff.1 hend).2
  rw [chomp, if_neg hcrlf, if_pos (.inl (List.suffix_append ..)), List.dropLast_concat]

theorem chomp_append_carriageReturn (bs : Bytes) : chomp (bs ++ [carriageReturn]) = bs := by
  have hcrlf : ¬ crlf <:+ bs ++ [carriageReturn] := fun hend =>
    absurd (crlf_suffix_iff.1 hend).1 (by decide)
  rw [chomp, if_neg hcrlf, if_pos (.inr (List.suffix_append ..)), List.dropLast_concat]

theorem chomp_append_other {bs : Bytes} {b : UInt8} (hfeed : b ≠ lineFeed)
    (hreturn : b ≠ carriageReturn) : chomp (bs ++ [b]) = bs ++ [b] := by
  have hcrlf : ¬ crlf <:+ bs ++ [b] := fun hend => hfeed (crlf_suffix_iff.1 hend).1
  have hsingle : ¬ ([lineFeed] <:+ bs ++ [b] ∨ [carriageReturn] <:+ bs ++ [b]) := by
    rintro (hend | hend)
    · exact hfeed (List.singleton_suffix_append_singleton_iff.1 hend).symm
    · exact hreturn (List.singleton_suffix_append_singleton_iff.1 hend).symm
  rw [chomp, if_neg hcrlf, if_neg hsingle]

end Bytes

/-! ## 2. Octets as Latin-1 text -/

namespace CodePage

theorem toList_decodeLatin1 (bs : Bytes) :
    (decodeLatin1 bs).toList = bs.map fun b => Char.ofNat b.toNat := String.toList_ofList

theorem toNat_ofNat_toNat (b : UInt8) : (Char.ofNat b.toNat).toNat = b.toNat := by
  have hb : b.toNat < 256 := b.toNat_lt
  exact Utf8.toNat_charOfNat (.inl (by omega))

/-- Octets read as Latin-1 are characters below 256, each the number of its octet. -/
theorem octets_decodeLatin1 (bs : Bytes) :
    octets (decodeLatin1 bs).toList = bs ∧ ∀ c ∈ (decodeLatin1 bs).toList, c.toNat < 256 := by
  rw [toList_decodeLatin1]
  constructor
  · rw [octets, List.map_map]
    refine (List.map_congr_left fun b _ => ?_).trans (List.map_id bs)
    exact Utf8.toUInt8_eq (toNat_ofNat_toNat b)
  · intro c hc
    obtain ⟨b, -, rfl⟩ := List.mem_map.1 hc
    rw [toNat_ofNat_toNat]
    exact b.toNat_lt

/-- Only the octet of a character is read as it. -/
theorem ofNat_injective {a b : UInt8} (h : Char.ofNat a.toNat = Char.ofNat b.toNat) : a = b := by
  rw [← UInt8.toNat_inj, ← toNat_ofNat_toNat a, ← toNat_ofNat_toNat b, h]

/-- What the text of octets ends with is what the octets end with. -/
theorem suffix_of_decodeLatin1 {cs : List Char} {bs : Bytes} (h : cs <:+ (decodeLatin1 bs).toList) :
    octets cs <:+ bs := by
  obtain ⟨front, hfront⟩ := h
  refine ⟨octets front, ?_⟩
  rw [← Utf8.octets_append, hfront, (octets_decodeLatin1 bs).1]

end CodePage

namespace StatusLine

open CodePage

theorem chomp_append_lineFeed {cs : List Char} (h : ¬ ['\r'] <:+ cs) :
    chomp (cs ++ ['\n']) = cs := by
  rcases cs.eq_nil_or_concat' with rfl | ⟨init, c, rfl⟩
  · rfl
  · have hc : c ≠ '\r' := by
      rintro rfl
      exact h (List.suffix_append ..)
    rw [chomp, List.reverse_append, List.reverse_append]
    simp [hc]

theorem chomp_append_other {cs : List Char} {c : Char} (hfeed : c ≠ '\n') (hreturn : c ≠ '\r') :
    chomp (cs ++ [c]) = cs ++ [c] := by
  rw [chomp, List.reverse_append]
  simp [hfeed, hreturn]

/-- A line end is taken off octets as it is taken off their text. -/
theorem chomp_decodeLatin1 (bs : Bytes) :
    chomp (decodeLatin1 bs).toList = (decodeLatin1 bs.chomp).toList := by
  rcases bs.eq_nil_or_concat' with rfl | ⟨init, b, rfl⟩
  · rfl
  have hsingle (b : UInt8) : (decodeLatin1 [b]).toList = [Char.ofNat b.toNat] :=
    toList_decodeLatin1 _
  by_cases hfeed : b = Bytes.lineFeed
  · subst hfeed
    by_cases hreturn : [Bytes.carriageReturn] <:+ init
    · obtain ⟨line, rfl⟩ := hreturn
      have hcrlf : (line ++ [Bytes.carriageReturn]) ++ [Bytes.lineFeed] = line ++ Bytes.crlf := by
        rw [List.append_assoc]
        rfl
      rw [hcrlf, Bytes.chomp_append_crlf, toList_decodeLatin1_append]
      exact chomp_append_crlf _
    · have htext : ¬ ['\r'] <:+ (decodeLatin1 init).toList := fun h =>
        hreturn (suffix_of_decodeLatin1 h)
      rw [Bytes.chomp_append_lineFeed hreturn, toList_decodeLatin1_append]
      exact chomp_append_lineFeed htext
  by_cases hreturn : b = Bytes.carriageReturn
  · subst hreturn
    rw [Bytes.chomp_append_carriageReturn, toList_decodeLatin1_append]
    exact chomp_append_carriageReturn _
  · rw [Bytes.chomp_append_other hfeed hreturn, toList_decodeLatin1_append, hsingle]
    exact chomp_append_other (fun h => hfeed (ofNat_injective h))
      fun h => hreturn (ofNat_injective h)

/-! ## 3. The code -/

theorem codeValue?_eq_some_iff {code : List Char} {n : Nat} :
    codeValue? code = some n ↔
      code.length = 3 ∧ (∀ c ∈ code, c.isDigit = true) ∧ n = Nat.ofDigitChars 10 code 0 := by
  constructor
  · intro h
    obtain ⟨hlength, hdigits⟩ := codeValue?_digits h
    refine ⟨hlength, hdigits, ?_⟩
    obtain ⟨a, b, c, rfl⟩ := List.length_eq_three.1 hlength
    simp only [codeValue?] at h
    split at h
    · exact (Option.some.inj h).symm
    · cases h
  · rintro ⟨hlength, hdigits, rfl⟩
    obtain ⟨a, b, c, rfl⟩ := List.length_eq_three.1 hlength
    simp only [codeValue?, hdigits a (by simp), hdigits b (by simp), hdigits c (by simp),
      Bool.and_self, if_true]

theorem toList_threePlaces (n : Nat) :
    (threePlaces n).toList
      = List.replicate (3 - (Nat.toDigits 10 n).length) '0' ++ Nat.toDigits 10 n := by
  have hsign : ¬ (n : Int) < 0 := by omega
  simp [threePlaces, hsign]

theorem ofDigitChars_replicate_zero (k : Nat) :
    Nat.ofDigitChars 10 (List.replicate k '0') 0 = 0 := by
  induction k with
  | zero => rfl
  | succ k ih =>
    rw [List.replicate_succ, Nat.ofDigitChars_cons]
    exact ih

/-- A code that fits three places is read back. -/
theorem codeValue?_threePlaces {n : Nat} (h : n ≤ 999) :
    codeValue? (threePlaces n).toList = some n := by
  have hlength : (Nat.toDigits 10 n).length ≤ 3 :=
    (Nat.length_toDigits_le_iff (by decide) (by decide)).2 (by omega)
  rw [codeValue?_eq_some_iff, toList_threePlaces]
  refine ⟨?_, ?_, ?_⟩
  · rw [List.length_append, List.length_replicate]
    omega
  · intro c hc
    rcases List.mem_append.1 hc with hc | hc
    · rw [(List.mem_replicate.1 hc).2]
      rfl
    · exact Nat.isDigit_of_mem_toDigits (by decide) (by decide) hc
  · rw [Nat.ofDigitChars_append, ofDigitChars_replicate_zero,
      Nat.ofDigitChars_toDigits (by decide) (by decide)]

/-- Two codes of one value are the same three digits. -/
theorem codeValue?_injective {code code' : List Char} {n : Nat} (h : codeValue? code = some n)
    (h' : codeValue? code' = some n) : code = code' := by
  obtain ⟨hlength, hdigits, hvalue⟩ := codeValue?_eq_some_iff.1 h
  obtain ⟨hlength', hdigits', hvalue'⟩ := codeValue?_eq_some_iff.1 h'
  obtain ⟨a, b, c, rfl⟩ := List.length_eq_three.1 hlength
  obtain ⟨a', b', c', rfl⟩ := List.length_eq_three.1 hlength'
  simp only [List.forall_mem_cons, Char.isDigit_iff_toNat] at hdigits hdigits'
  simp only [Nat.ofDigitChars_cons, Nat.ofDigitChars_nil] at hvalue hvalue'
  have hzero : '0'.toNat = 48 := rfl
  have hnine : '9'.toNat = 57 := rfl
  have ha : a = a' := Char.toNat_inj.1 (by omega)
  have hb : b = b' := Char.toNat_inj.1 (by omega)
  have hc : c = c' := Char.toNat_inj.1 (by omega)
  rw [ha, hb, hc]

theorem threePlaces_of_codeValue? {code : List Char} {n : Nat} (h : codeValue? code = some n) :
    n ≤ 999 ∧ (threePlaces n).toList = code := by
  have hn : n ≤ 999 := by
    obtain ⟨hlength, hdigits, hvalue⟩ := codeValue?_eq_some_iff.1 h
    obtain ⟨a, b, c, rfl⟩ := List.length_eq_three.1 hlength
    simp only [List.forall_mem_cons, Char.isDigit_iff_toNat] at hdigits
    simp only [Nat.ofDigitChars_cons, Nat.ofDigitChars_nil] at hvalue
    have hzero : '0'.toNat = 48 := rfl
    have hnine : '9'.toNat = 57 := rfl
    omega
  exact ⟨hn, codeValue?_injective (codeValue?_threePlaces hn) h⟩

/-! ## 4. What is written for a status line -/

theorem toList_text (s : StatusLine) :
    s.text.toList = s.version.toList ++ ' ' :: ((threePlaces s.code).toList ++
      if s.reason = "" then [] else ' ' :: s.reason.toList) := by
  have hshow (t : String) : toString t = t := rfl
  unfold text
  by_cases h : s.reason = ""
  · simp [h, hshow]
  · simp [h, hshow]

/-- The status line can be read back from what is written for it: its version begins as every
version does and holds no space, and its code fits three places. -/
def Canonical (s : StatusLine) : Prop :=
  versionStart <+: s.version.toList ∧ ' ' ∉ s.version.toList ∧ 0 ≤ s.code ∧ s.code ≤ 999

theorem Spells.canonical {cs : List Char} {s : StatusLine} (h : Spells cs s) : s.Canonical := by
  cases h with
  | @bare version code n hspace hversion hcode =>
    have hn := (threePlaces_of_codeValue? hcode).1
    rw [Canonical, String.toList_ofList]
    exact ⟨hversion, hspace, Int.natCast_nonneg n, Int.ofNat_le.2 hn⟩
  | @reasoned version code reason n hspace hversion hcode =>
    have hn := (threePlaces_of_codeValue? hcode).1
    rw [Canonical, String.toList_ofList]
    exact ⟨hversion, hspace, Int.natCast_nonneg n, Int.ofNat_le.2 hn⟩

/-- **What is written for a status line spells it** exactly if it can be read back. -/
theorem spells_text_iff {s : StatusLine} : Spells s.text.toList s ↔ s.Canonical := by
  refine ⟨Spells.canonical, fun h => ?_⟩
  obtain ⟨version, code, reason⟩ := s
  obtain ⟨hstart, hspace, hnonneg, hle⟩ := h
  dsimp only at hstart hspace hnonneg hle
  obtain ⟨n, rfl⟩ := Int.eq_ofNat_of_zero_le hnonneg
  have hcode : codeValue? (threePlaces n).toList = some n := codeValue?_threePlaces (by omega)
  rw [toList_text]
  dsimp only
  by_cases hreason : reason = ""
  · subst hreason
    have hspells := Spells.bare hspace hstart hcode
    rw [String.ofList_toList] at hspells
    simpa using hspells
  · have hspells : Spells
        (version.toList ++ ' ' :: ((threePlaces n).toList ++ ' ' :: reason.toList))
        ⟨String.ofList version.toList, n, String.ofList reason.toList⟩ :=
      .reasoned hspace hstart hcode
    rw [String.ofList_toList, String.ofList_toList] at hspells
    simpa [hreason] using hspells

/-- What spells a status line is what is written for it, or it has a space before an empty reason
more. -/
theorem Spells.text {cs : List Char} {s : StatusLine} (h : Spells cs s) :
    cs = s.text.toList ∨ s.reason = "" ∧ cs = s.text.toList ++ [' '] := by
  cases h with
  | @bare version code n hspace hversion hcode =>
    left
    rw [toList_text, String.toList_ofList, (threePlaces_of_codeValue? hcode).2]
    simp
  | @reasoned version code reason n hspace hversion hcode =>
    by_cases hreason : reason = []
    · right
      subst hreason
      rw [toList_text, String.toList_ofList, (threePlaces_of_codeValue? hcode).2]
      simp
    · left
      have hne : String.ofList reason ≠ "" := by simpa using hreason
      rw [toList_text, String.toList_ofList, (threePlaces_of_codeValue? hcode).2, if_neg hne,
        String.toList_ofList]

/-- Without a reason what is written ends with a digit, not with a space. -/
theorem Canonical.not_space_suffix {s : StatusLine} (h : s.Canonical) (hreason : s.reason = "") :
    ¬ [' '] <:+ s.text.toList := by
  obtain ⟨-, -, hnonneg, hle⟩ := h
  obtain ⟨n, hn⟩ := Int.eq_ofNat_of_zero_le hnonneg
  have hcode : codeValue? (threePlaces n).toList = some n := codeValue?_threePlaces (by omega)
  obtain ⟨hlength, hdigits⟩ := codeValue?_digits hcode
  rw [toList_text, if_pos hreason, List.append_nil, hn]
  intro hsuffix
  rcases (threePlaces n).toList.eq_nil_or_concat' with hnil | ⟨front, last, hlast⟩
  · rw [hnil] at hlength
    cases hlength
  · rw [hlast] at hdigits hsuffix
    rw [← List.cons_append, ← List.append_assoc] at hsuffix
    obtain rfl := List.singleton_suffix_append_singleton_iff.1 hsuffix
    exact absurd (hdigits ' ' (by simp)) (by decide)

/-- A code of three digits has not too many of them. -/
theorem Canonical.isWritten {s : StatusLine} (h : s.Canonical) : Whole.isWritten s.code = true := by
  obtain ⟨-, -, hnonneg, hle⟩ := h
  have hlength : (Nat.toDigits 10 s.code.natAbs).length ≤ 3 :=
    (Nat.length_toDigits_le_iff (by decide) (by decide)).2 (by omega)
  exact decide_eq_true (Nat.le_trans hlength (by decide))

/-! ## 5. Octets -/

/-- The octets of a status line without the line end, and without a space before an empty reason. -/
def lineOctets (s : StatusLine) (data : Bytes) : Bytes :=
  if s.reason = "" ∧ [Bytes.space] <:+ data.chomp then data.chomp.dropLast else data.chomp

theorem octets_text {s : StatusLine} {data : Bytes} (h : ofBytes data = .ok s) :
    octets s.text.toList = lineOctets s data ∧ ∀ c ∈ s.text.toList, c.toNat < 256 := by
  rw [ofBytes, ofText_eq_ok_iff, chomp_decodeLatin1] at h
  obtain ⟨hoctets, hheld⟩ := octets_decodeLatin1 data.chomp
  rcases h.text with hcs | ⟨hreason, hcs⟩
  · rw [hcs] at hoctets hheld
    refine ⟨?_, hheld⟩
    have hkeep : ¬ (s.reason = "" ∧ [Bytes.space] <:+ data.chomp) := by
      rintro ⟨hreason, front, hfront⟩
      have hend : [' '] <:+ s.text.toList := by
        rw [← hcs, ← hfront, toList_decodeLatin1_append]
        exact List.suffix_append ..
      exact h.canonical.not_space_suffix hreason hend
    rw [lineOctets, if_neg hkeep, hoctets]
  · rw [hcs] at hoctets hheld
    refine ⟨?_, fun c hc => hheld c (List.mem_append_left _ hc)⟩
    rw [Utf8.octets_append] at hoctets
    have hspace : [Bytes.space] <:+ data.chomp := ⟨_, hoctets⟩
    rw [lineOctets, if_pos ⟨hreason, hspace⟩, ← hoctets]
    exact (List.dropLast_concat ..).symm

/-- **Status lines on the wire.** What was written for a status line is read as this status line
exactly if its version begins with `HTTP/` and holds no space and its code is between 0 and 999,
whatever its reason is. Octets that are read as a status line are written for it again, up to the
line end and up to a space before an empty reason, and they are read as the same status line. -/
theorem wire_roundTrip :
    (∀ (s : StatusLine) (bytes : Bytes), s.toBytes = .ok bytes →
      (ofBytes bytes = .ok s ↔ versionStart <+: s.version.toList ∧ ' ' ∉ s.version.toList ∧
        0 ≤ s.code ∧ s.code ≤ 999)) ∧
    ∀ (data : Bytes) (s : StatusLine), ofBytes data = .ok s →
      s.toBytes = .ok (lineOctets s data ++ Bytes.crlf) ∧
      ofBytes (lineOctets s data ++ Bytes.crlf) = .ok s := by
  refine ⟨fun s bytes hbytes => ?_, fun data s hdata => ?_⟩
  · obtain ⟨-, hheld, rfl⟩ := toBytes_eq_ok_iff.1 hbytes
    exact (ofBytes_octets_iff hheld).trans spells_text_iff
  · obtain ⟨hoctets, hheld⟩ := octets_text hdata
    have hcanonical : s.Canonical := (ofText_eq_ok_iff.1 hdata).canonical
    have hspells : Spells s.text.toList s := spells_text_iff.2 hcanonical
    rw [← hoctets]
    exact ⟨toBytes_eq_ok_iff.2 ⟨hcanonical.isWritten, hheld, rfl⟩, (ofBytes_octets_iff hheld).2 hspells⟩

/-- A reason with a space before it and a carriage return after it, in a version that goes on. -/
def spacious : StatusLine := ⟨"HTTP/1.0\r", 7, " Gone\r"⟩

theorem wire_roundTrip_spacious :
    (∃ bytes, spacious.toBytes = .ok bytes ∧ ofBytes bytes = .ok spacious) ∧
      ofBytes [72, 84, 84, 80, 47, 32, 50, 48, 52, 32, 13] = .ok ⟨"HTTP/", 204, ""⟩ ∧
      StatusLine.toBytes ⟨"HTTP/", 204, ""⟩ = .ok [72, 84, 84, 80, 47, 32, 50, 48, 52, 13, 10] := by
  have hdata : ofBytes [72, 84, 84, 80, 47, 32, 50, 48, 52, 32, 13] = .ok ⟨"HTTP/", 204, ""⟩ := by
    decide +kernel
  have hbytes : spacious.toBytes = .ok [72, 84, 84, 80, 47, 49, 46, 48, 13, 32, 48, 48, 55, 32, 32,
      71, 111, 110, 101, 13, 13, 10] := by
    decide +kernel
  exact ⟨⟨_, hbytes, (wire_roundTrip.1 spacious _ hbytes).2 (by decide)⟩, hdata,
    (wire_roundTrip.2 _ _ hdata).1⟩

end StatusLine

end HttpProbe
