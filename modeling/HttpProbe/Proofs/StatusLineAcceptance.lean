import HttpProbe.Proofs.StatusLineRoundTrip

/-!
# What is accepted as a status line, and why the rest is refused

`HttpProbe.StatusLine.ofText` is a function of all texts. This file says what it comes to without
its own cuts: which line end goes, what is left of the line, and which of the three causes stands
behind a refusal.

* `Unended`: a text and the same text without one line end, of which there is one (`unended_iff`);
* `Version`, `Code`, `Parts`: what a status line is made of (`spells_iff_parts`);
* `Refused`: what is wrong with a line that is none (`ofText_eq_error_iff`);
* **`ofText_exact`**: the reader accepts the status lines and refuses the rest, for its cause.
-/

namespace HttpProbe.StatusLine

/-! ## 1. One line end -/

/-- The second text is the first one without one line end: a carriage return and a line feed, or
else one of them, if the text ends so. -/
inductive Unended : List Char → List Char → Prop where
  | crlf {rest : List Char} : Unended (rest ++ ['\r', '\n']) rest
  | carriageReturn {rest : List Char} : Unended (rest ++ ['\r']) rest
  | lineFeed {rest : List Char} (h : ¬ ['\r'] <:+ rest) : Unended (rest ++ ['\n']) rest
  | nothing {rest : List Char} (hreturn : ¬ ['\r'] <:+ rest) (hfeed : ¬ ['\n'] <:+ rest) :
    Unended rest rest

theorem chomp_of_no_end {cs : List Char} (hreturn : ¬ ['\r'] <:+ cs) (hfeed : ¬ ['\n'] <:+ cs) :
    chomp cs = cs := by
  rcases cs.eq_nil_or_concat' with rfl | ⟨init, c, rfl⟩
  · rfl
  · refine chomp_append_other ?_ ?_
    · rintro rfl
      exact hfeed (List.suffix_append ..)
    · rintro rfl
      exact hreturn (List.suffix_append ..)

/-- **There is one text without the line end**, and the reader finds it. -/
theorem unended_iff {cs rest : List Char} : Unended cs rest ↔ rest = chomp cs := by
  constructor
  · intro h
    cases h with
    | crlf => exact (chomp_append_crlf rest).symm
    | carriageReturn => exact (chomp_append_carriageReturn rest).symm
    | lineFeed h => exact (chomp_append_lineFeed h).symm
    | nothing hreturn hfeed => exact (chomp_of_no_end hreturn hfeed).symm
  · rintro rfl
    by_cases hreturn : ['\r'] <:+ cs
    · obtain ⟨rest, rfl⟩ := hreturn
      rw [chomp_append_carriageReturn]
      exact .carriageReturn
    by_cases hfeed : ['\n'] <:+ cs
    · obtain ⟨rest, rfl⟩ := hfeed
      by_cases hreturn : ['\r'] <:+ rest
      · obtain ⟨line, rfl⟩ := hreturn
        have hcrlf : line ++ ['\r'] ++ ['\n'] = line ++ ['\r', '\n'] := by simp
        rw [hcrlf, chomp_append_crlf]
        exact .crlf
      · rw [chomp_append_lineFeed hreturn]
        exact .lineFeed hreturn
    · rw [chomp_of_no_end hreturn hfeed]
      exact .nothing hreturn hfeed

/-! ## 2. The parts of a line -/

/-- The text begins as versions do and has no space in it. -/
def Version (version : List Char) : Prop := "HTTP/".toList <+: version ∧ ' ' ∉ version

/-- The text is three ASCII digits. -/
def Code (code : List Char) : Prop := code.length = 3 ∧ ∀ c ∈ code, '0' ≤ c ∧ c ≤ '9'

/-- The line is a version, a space and a code; and a space and a reason may follow. -/
inductive Parts (version code : List Char) : List Char → List Char → Prop where
  | bare : Parts version code [] (version ++ ' ' :: code)
  | reasoned {reason : List Char} :
    Parts version code reason (version ++ ' ' :: (code ++ ' ' :: reason))

theorem isDigit_iff {c : Char} : c.isDigit = true ↔ '0' ≤ c ∧ c ≤ '9' := by
  simp [Char.isDigit, Char.le_def]

/-- A code is what has a value, and its value is that of its digits. -/
theorem code_iff {code : List Char} : Code code ↔ ∃ n, codeValue? code = some n := by
  simp only [codeValue?_eq_some_iff, isDigit_iff]
  constructor
  · rintro ⟨hlength, hdigits⟩
    exact ⟨_, hlength, hdigits, rfl⟩
  · rintro ⟨_, hlength, hdigits, -⟩
    exact ⟨hlength, hdigits⟩

/-- What spells a status line has a version and a code, and says what they are. -/
theorem spells_iff_parts {line : List Char} {s : StatusLine} :
    Spells line s ↔ ∃ version code reason, Version version ∧ Code code ∧
      Parts version code reason line ∧
      s = ⟨String.ofList version, Nat.ofDigitChars 10 code 0, String.ofList reason⟩ := by
  constructor
  · intro h
    cases h with
    | @bare version code n hspace hversion hcode =>
      obtain ⟨-, -, rfl⟩ := codeValue?_eq_some_iff.1 hcode
      exact ⟨version, code, [], ⟨hversion, hspace⟩, code_iff.2 ⟨_, hcode⟩, .bare, rfl⟩
    | @reasoned version code reason n hspace hversion hcode =>
      obtain ⟨-, -, rfl⟩ := codeValue?_eq_some_iff.1 hcode
      exact ⟨version, code, reason, ⟨hversion, hspace⟩, code_iff.2 ⟨_, hcode⟩, .reasoned, rfl⟩
  · rintro ⟨version, code, reason, ⟨hversion, hspace⟩, hcode, hparts, rfl⟩
    obtain ⟨n, hn⟩ := code_iff.1 hcode
    obtain ⟨-, -, rfl⟩ := codeValue?_eq_some_iff.1 hn
    cases hparts with
    | bare => exact .bare hspace hversion hn
    | reasoned => exact .reasoned hspace hversion hn

/-! ## 3. Refusals -/

/-- What is wrong with a line: it has no space; or what stands before its first space is no
version; or that is a version, and what stands between it and the next space, or the end, is no
code. -/
inductive Refused : List Char → Malformed → Prop where
  | noCode {line : List Char} (h : ' ' ∉ line) : Refused line (.noCode (String.ofList line))
  | badVersion {version rest : List Char} (hspace : ' ' ∉ version)
      (hversion : ¬ "HTTP/".toList <+: version) :
    Refused (version ++ ' ' :: rest) (.badVersion (String.ofList version))
  | badCode {line version code reason : List Char} (hversion : Version version)
      (hspace : ' ' ∉ code) (hparts : Parts version code reason line) (hcode : ¬ Code code) :
    Refused line (.badCode (String.ofList code))

/-- What stands after a version is cut at the end of the code. -/
theorem cutSpace_of_parts {version code reason line : List Char} (hspace : ' ' ∉ code)
    (h : Parts version code reason line) :
    ∃ rest, line = version ++ ' ' :: rest ∧ (cutSpace rest).1 = code := by
  cases h with
  | bare =>
    refine ⟨_, rfl, ?_⟩
    rw [cutSpace_of_notMem hspace]
  | reasoned =>
    refine ⟨_, rfl, ?_⟩
    rw [cutSpace_append hspace]

/-- Whatever stands after a version, it is cut into a code and a reason. -/
theorem exists_parts (version rest : List Char) :
    ∃ code reason, ' ' ∉ code ∧ Parts version code reason (version ++ ' ' :: rest) := by
  rcases space_cases rest with hnone | ⟨code, reason, rfl, hcode⟩
  · exact ⟨rest, [], hnone, .bare⟩
  · exact ⟨code, reason, hcode, .reasoned⟩

/-- A line with a space in it, read: first its version counts, and then its code. -/
theorem ofText_of_parts {line : String} {version code reason : List Char} (hversion : ' ' ∉ version)
    (hcode : ' ' ∉ code) (hparts : Parts version code reason (chomp line.toList)) :
    (¬ "HTTP/".toList <+: version →
      ofText line = .error (.badVersion (String.ofList version))) ∧
    ("HTTP/".toList <+: version → ¬ Code code →
      ofText line = .error (.badCode (String.ofList code))) := by
  obtain ⟨rest, hline, hcut⟩ := cutSpace_of_parts hcode hparts
  rw [ofText_of_version hversion hline, hcut]
  refine ⟨fun hstart => ?_, fun hstart hvalue => ?_⟩
  · have hfalse : versionStart.isPrefixOf version = false :=
      eq_false_of_ne_true (mt List.isPrefixOf_iff_prefix.1 hstart)
    rw [hfalse]
    rfl
  · have htrue : versionStart.isPrefixOf version = true := List.isPrefixOf_iff_prefix.2 hstart
    have hnone : codeValue? code = none := by
      rw [Option.eq_none_iff_forall_ne_some]
      intro n hn
      exact hvalue (code_iff.2 ⟨n, hn⟩)
    rw [htrue, hnone]
    rfl

theorem ofText_of_no_space {line : String} (h : ' ' ∉ chomp line.toList) :
    ofText line = .error (.noCode (String.ofList (chomp line.toList))) := by
  unfold ofText
  dsimp only
  rw [cutSpace_of_notMem h]

/-- **Every refusal has its cause**, and every cause is refused. -/
theorem ofText_eq_error_iff {line : String} {why : Malformed} :
    ofText line = .error why ↔ Refused (chomp line.toList) why := by
  constructor
  · intro h
    rcases space_cases (chomp line.toList) with hnone | ⟨version, rest, hline, hspace⟩
    · rw [ofText_of_no_space hnone] at h
      cases h
      exact .noCode hnone
    obtain ⟨code, reason, hcut, hparts⟩ := exists_parts version rest
    rw [← hline] at hparts
    obtain ⟨hbadVersion, hbadCode⟩ := ofText_of_parts hspace hcut hparts
    by_cases hversion : "HTTP/".toList <+: version
    · by_cases hcode : Code code
      · have hspells := spells_iff_parts.2 ⟨_, _, _, ⟨hversion, hspace⟩, hcode, hparts, rfl⟩
        rw [ofText_eq_ok_iff.2 hspells] at h
        cases h
      · rw [hbadCode hversion hcode] at h
        cases h
        exact .badCode ⟨hversion, hspace⟩ hcut hparts hcode
    · rw [hbadVersion hversion] at h
      cases h
      rw [hline]
      exact .badVersion hspace hversion
  · intro h
    generalize hline : chomp line.toList = cs at h
    cases h with
    | noCode hnone =>
      subst hline
      exact ofText_of_no_space hnone
    | @badVersion version rest hspace hversion =>
      obtain ⟨code, reason, hcut, hparts⟩ := exists_parts version rest
      rw [← hline] at hparts
      exact (ofText_of_parts hspace hcut hparts).1 hversion
    | badCode hversion hspace hparts hcode =>
      subst hline
      exact (ofText_of_parts hversion.2 hspace hparts).2 hversion.1 hcode

/-! ## 4. The reader -/

/-- **The reader is exact.** Of every text one line end goes, if there is one. What is left is
accepted if and only if it is a version, a space and a code, with or without a space and a reason
after them, and the result holds these parts; the code is between 0 and 999. Everything else is
refused, for the one cause that it has. -/
theorem ofText_exact (line : String) :
    ∃ rest, (∀ other, Unended line.toList other ↔ other = rest) ∧
      (∀ s, ofText line = .ok s ↔ ∃ version code reason, Version version ∧ Code code ∧
        Parts version code reason rest ∧
        s = ⟨String.ofList version, Nat.ofDigitChars 10 code 0, String.ofList reason⟩) ∧
      (∀ s, ofText line = .ok s → 0 ≤ s.code ∧ s.code ≤ 999) ∧
      (∀ why, ofText line = .error why ↔ Refused rest why) := by
  refine ⟨chomp line.toList, fun _ => unended_iff, ?_, ?_, fun _ => ofText_eq_error_iff⟩
  · intro s
    rw [ofText_eq_ok_iff, spells_iff_parts]
  · intro s hs
    obtain ⟨-, -, hnonneg, hle⟩ := (ofText_eq_ok_iff.1 hs).canonical
    exact ⟨hnonneg, hle⟩

/-- A second line end stays, and a code with a line end is none. -/
example : ofText "HTTP/1.0 200\r\r\n" = .error (.badCode "200\r") := by decide +kernel

/-- Nor is a code in digits of another script. -/
example : ofText "HTTP/1.0 ٢٠٠ OK" = .error (.badCode "٢٠٠") := by decide +kernel

/-- The version ends at the first of two spaces, and the code is empty. -/
example : ofText "HTTP/1.0  200" = .error (.badCode "") := by decide +kernel

end HttpProbe.StatusLine
