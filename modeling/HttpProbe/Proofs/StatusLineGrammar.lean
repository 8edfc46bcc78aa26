import HttpProbe.Http.StatusLine

/-!
# Which texts are status lines

A status line is a version, a space and a code, and it may go on with a space and a reason. This
file states that grammar without the reader (`Spells`) and shows that the reader accepts it and
nothing else:

* `cutSpace_append`, `cutSpace_of_notMem`: a cut is made at the first space;
* `codeValue?_digits`: a code is three ASCII digits;
* `chomp_append_crlf`, `chomp_append_carriageReturn`: a line end is taken off;
* **`ofText_eq_ok_iff`**: a line is read as a status line exactly when the grammar spells it, once
  its line end is off.
-/

namespace HttpProbe.StatusLine

/-! ## 1. Cuts -/

theorem dropWhile_ne_space {a : List Char} (h : ' ' ∉ a) (b : List Char) :
    (a ++ ' ' :: b).dropWhile (· != ' ') = ' ' :: b := by
  have hall : ∀ c ∈ a, (c != ' ') = true := fun c hc => bne_iff_ne.2 fun e => h (e ▸ hc)
  rw [List.dropWhile_append_of_pos hall, List.dropWhile_cons_of_neg (by decide)]

theorem takeWhile_ne_space {a : List Char} (h : ' ' ∉ a) (b : List Char) :
    (a ++ ' ' :: b).takeWhile (· != ' ') = a := by
  have hall : ∀ c ∈ a, (c != ' ') = true := fun c hc => bne_iff_ne.2 fun e => h (e ▸ hc)
  rw [List.takeWhile_append_of_pos hall, List.takeWhile_cons_of_neg (by decide), List.append_nil]

theorem cutSpace_append {a : List Char} (h : ' ' ∉ a) (b : List Char) :
    cutSpace (a ++ ' ' :: b) = (a, some b) := by
  rw [cutSpace, dropWhile_ne_space h, takeWhile_ne_space h]

theorem cutSpace_of_notMem {a : List Char} (h : ' ' ∉ a) : cutSpace a = (a, none) := by
  have hall : ∀ c ∈ a, (c != ' ') = true := fun c hc => bne_iff_ne.2 fun e => h (e ▸ hc)
  have hdrop : (a ++ []).dropWhile (· != ' ') = [].dropWhile (· != ' ') :=
    List.dropWhile_append_of_pos hall
  rw [List.append_nil, List.dropWhile_nil] at hdrop
  rw [cutSpace, hdrop]

/-- Every text either holds no space or is cut at its first one. -/
theorem space_cases (cs : List Char) : ' ' ∉ cs ∨ ∃ a b, cs = a ++ ' ' :: b ∧ ' ' ∉ a := by
  by_cases h : ' ' ∈ cs
  · obtain ⟨a, b, hcs, ha⟩ := List.eq_append_cons_of_mem h
    exact .inr ⟨a, b, hcs, ha⟩
  · exact .inl h

/-! ## 2. The code -/

/-- A code of which there is a value is three ASCII digits. -/
theorem codeValue?_digits {code : List Char} {n : Nat} (h : codeValue? code = some n) :
    code.length = 3 ∧ ∀ c ∈ code, c.isDigit = true := by
  unfold codeValue? at h
  split at h
  · rename_i a b c
    split at h
    · rename_i hd
      rw [Bool.and_eq_true, Bool.and_eq_true] at hd
      obtain ⟨⟨ha, hb⟩, hc⟩ := hd
      refine ⟨rfl, fun x hx => ?_⟩
      rcases List.mem_cons.1 hx with rfl | hx
      · exact ha
      rcases List.mem_cons.1 hx with rfl | hx
      · exact hb
      · rw [List.mem_singleton.1 hx]
        exact hc
    · cases h
  · cases h

theorem space_notMem_of_codeValue? {code : List Char} {n : Nat} (h : codeValue? code = some n) :
    ' ' ∉ code := fun hmem =>
  absurd ((codeValue?_digits h).2 ' ' hmem) (by decide)

/-! ## 3. Line ends -/

theorem chomp_append_crlf (cs : List Char) : chomp (cs ++ ['\r', '\n']) = cs := by
  rw [chomp, List.reverse_append]
  exact List.reverse_reverse cs

theorem chomp_append_carriageReturn (cs : List Char) : chomp (cs ++ ['\r']) = cs := by
  rw [chomp, List.reverse_append]
  exact List.reverse_reverse cs

/-! ## 4. The grammar -/

/-- The text, without a line end, spells the status line. -/
inductive Spells : List Char → StatusLine → Prop where
  | bare {version code : List Char} {n : Nat} (hspace : ' ' ∉ version)
      (hversion : versionStart <+: version) (hcode : codeValue? code = some n) :
    Spells (version ++ ' ' :: code) ⟨String.ofList version, n, ""⟩
  | reasoned {version code reason : List Char} {n : Nat} (hspace : ' ' ∉ version)
      (hversion : versionStart <+: version) (hcode : codeValue? code = some n) :
    Spells (version ++ ' ' :: (code ++ ' ' :: reason))
      ⟨String.ofList version, n, String.ofList reason⟩

/-- What a line is read as when it has a version and something after it. -/
theorem ofText_of_version {line : String} {version rest : List Char} (hspace : ' ' ∉ version)
    (hline : chomp line.toList = version ++ ' ' :: rest) :
    ofText line =
      if !versionStart.isPrefixOf version then .error (.badVersion (String.ofList version))
      else match codeValue? (cutSpace rest).1 with
        | none => .error (.badCode (String.ofList (cutSpace rest).1))
        | some n => .ok ⟨String.ofList version, n, String.ofList ((cutSpace rest).2.getD [])⟩ := by
  unfold ofText
  dsimp only
  rewrite [hline, cutSpace_append hspace]
  rfl

/-- **The reader accepts the grammar and nothing else.** -/
theorem ofText_eq_ok_iff {line : String} {s : StatusLine} :
    ofText line = .ok s ↔ Spells (chomp line.toList) s := by
  constructor
  · intro h
    rcases space_cases (chomp line.toList) with hnone | ⟨version, rest, hline, hspace⟩
    · unfold ofText at h
      dsimp only at h
      rw [cutSpace_of_notMem hnone] at h
      cases h
    rw [ofText_of_version hspace hline] at h
    rw [hline]
    split at h
    · cases h
    · rename_i hstart
      have hversion : versionStart <+: version := by simpa using hstart
      split at h
      · cases h
      · rename_i n hcode
        cases h
        rcases space_cases rest with hrest | ⟨code, reason, rfl, hcut⟩
        · rw [cutSpace_of_notMem hrest] at hcode ⊢
          exact .bare hspace hversion hcode
        · rw [cutSpace_append hcut] at hcode ⊢
          exact .reasoned hspace hversion hcode
  · intro h
    generalize hline : chomp line.toList = cs at h
    cases h with
    | bare hspace hversion hcode =>
      rw [ofText_of_version hspace hline, cutSpace_of_notMem (space_notMem_of_codeValue? hcode),
        if_neg (by simpa using hversion)]
      simp only [hcode]
      rfl
    | reasoned hspace hversion hcode =>
      rw [ofText_of_version hspace hline, cutSpace_append (space_notMem_of_codeValue? hcode),
        if_neg (by simpa using hversion)]
      simp only [hcode]
      rfl

end HttpProbe.StatusLine
