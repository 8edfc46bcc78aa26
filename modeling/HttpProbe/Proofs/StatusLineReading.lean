import HttpProbe.Proofs.CheckVerdict
import HttpProbe.Proofs.StatusLineGrammar

/-!
# A status line in Latin-1, read by a check

A status line is written in Latin-1, and a check reads the first line of a response as UTF-8. The
two agree on ASCII and on nothing else:

* `decodeChars_octets_append`: the octets of an ASCII text are read as this text, whatever stands
  after them;
* `ascii_of_decodeChars_octets`: a Latin-1 text that is read as itself is ASCII;
* `spells_reread`: the octets of a status line spell one again. Its version and its reason are those
  that the octets spell in UTF-8 (`reread`), and its code is the same;
* **`status_check_iff`**: so a check of a server that sends a status line finds this status line
  exactly when its version and its reason are ASCII.
-/

namespace HttpProbe

/-! ## 1. Latin-1 octets -/

/-- The octets of a text in Latin-1, each the number of its character. -/
def CodePage.octets (cs : List Char) : Bytes := cs.map fun c => c.toNat.toUInt8

/-- All characters are ASCII. -/
def CodePage.Ascii (cs : List Char) : Prop := ∀ c ∈ cs, c.toNat < 0x80

instance (cs : List Char) : Decidable (CodePage.Ascii cs) := List.decidableBAll _ _

namespace Text

theorem octets_append (a b : Text) : octets (a ++ b) = octets a ++ octets b := List.map_append

theorem octets_cons_char (c : Char) (rest : Text) :
    octets (.char c :: rest) = c.toNat.toUInt8 :: octets rest := rfl

theorem octets_ofString (s : String) : (ofString s).octets = CodePage.octets s.toList := by
  rw [octets, ofString, List.map_map]
  rfl

theorem mem_of_mem_octets {c : Char} {text : Text} (hc : c.toNat < 256)
    (htext : ∀ p ∈ text, p.toNat < 256) (h : c.toNat.toUInt8 ∈ text.octets) : .char c ∈ text := by
  obtain ⟨p, hp, hoctet⟩ := List.mem_map.1 h
  have hnumber : p.toNat = (CodePoint.char c).toNat := by
    rw [← Utf8.toNat_toUInt8 (htext p hp), hoctet]
    exact Utf8.toNat_toUInt8 hc
  exact CodePoint.toNat_injective hnumber ▸ hp

/-- A text of Latin-1 is read back from its octets. -/
theorem decodeLatin1_octets {text : Text} (h : ∀ p ∈ text, p.toNat < 256) :
    CodePage.decodeLatin1 text.octets = text.string := by
  have hchars : text = ofString text.string :=
    eq_ofString_iff.2 fun p hp => CodePoint.isChar_of_toNat_lt (h p hp)
  have hencode : CodePage.latin1.encode (ofString text.string) = .ok text.octets :=
    hchars ▸ CodePage.encode_eq_ok_iff.2 ⟨h, rfl⟩
  exact CodePage.decodeLatin1_of_encode hencode

end Text

/-- None of these characters stands in the text. -/
def Text.Lacks (barred : List Char) (text : Text) : Prop := ∀ c ∈ barred, .char c ∉ text

instance (barred : List Char) (text : Text) : Decidable (text.Lacks barred) :=
  List.decidableBAll _ _

/-- The page holds every code point of the text, and none of them is barred. -/
structure CodePage.Admits (page : CodePage) (barred : List Char) (text : Text) : Prop where
  holds : ∀ p ∈ text, p.toNat < page.size
  lacks : text.Lacks barred

instance (page : CodePage) (barred : List Char) (text : Text) :
    Decidable (page.Admits barred text) :=
  decidable_of_iff ((∀ p ∈ text, p.toNat < page.size) ∧ text.Lacks barred)
    ⟨fun h => ⟨h.1, h.2⟩, fun h => ⟨h.holds, h.lacks⟩⟩

namespace CodePage

theorem size_le (page : CodePage) : page.size ≤ 256 := by cases page <;> decide

section Admits

variable {page : CodePage} {barred : List Char} {text rest : Text}

theorem Admits.cons {c : Char} (hc : c.toNat < page.size ∧ c ∉ barred)
    (h : page.Admits barred rest) : page.Admits barred (.char c :: rest) where
  holds := List.forall_mem_cons.2 ⟨hc.1, h.holds⟩
  lacks d hd hmem := by
    rcases List.mem_cons.1 hmem with hsame | hmem
    · cases hsame
      exact hc.2 hd
    · exact h.lacks d hd hmem

theorem Admits.append (h : page.Admits barred text) (h' : page.Admits barred rest) :
    page.Admits barred (text ++ rest) where
  holds := List.forall_mem_append.2 ⟨h.holds, h'.holds⟩
  lacks c hc hmem := (List.mem_append.1 hmem).elim (h.lacks c hc) (h'.lacks c hc)

theorem Admits.latin (h : page.Admits barred text) : ∀ p ∈ text, p.toNat < 256 :=
  fun p hp => Nat.lt_of_lt_of_le (h.holds p hp) page.size_le

/-- No octet of the text is that of a barred character. -/
theorem Admits.notMem_octets (h : page.Admits barred text) {c : Char} (hc : c ∈ barred)
    (hlatin : c.toNat < 256) : c.toNat.toUInt8 ∉ text.octets :=
  fun hmem => h.lacks c hc (Text.mem_of_mem_octets hlatin h.latin hmem)

end Admits

/-- The same of a string, character by character. -/
theorem admits_ofString_iff {page : CodePage} {barred : List Char} {text : String} :
    page.Admits barred text ↔ ∀ c ∈ text.toList, c.toNat < page.size ∧ c ∉ barred := by
  constructor
  · intro h c hc
    exact ⟨Text.forall_mem_ofString.1 h.holds c hc,
      fun hbarred => h.lacks c hbarred (Text.mem_ofString.2 ⟨c, hc, rfl⟩)⟩
  · intro h
    refine ⟨Text.forall_mem_ofString.2 fun c hc => (h c hc).1, fun c hbarred hmem => ?_⟩
    obtain ⟨d, hd, hsame⟩ := Text.mem_ofString.1 hmem
    cases hsame
    exact (h _ hd).2 hbarred

end CodePage

namespace Utf8

open CodePage

theorem octets_append (a b : List Char) : octets (a ++ b) = octets a ++ octets b := List.map_append

theorem octets_cons (c : Char) (cs : List Char) :
    octets (c :: cs) = c.toNat.toUInt8 :: octets cs := rfl

theorem mem_of_mem_octets {c : Char} {cs : List Char} (hc : c.toNat < 256)
    (hcs : ∀ d ∈ cs, d.toNat < 256) (h : c.toNat.toUInt8 ∈ octets cs) : c ∈ cs := by
  have hmem : .char c ∈ (cs.map CodePoint.char : Text) :=
    Text.mem_of_mem_octets hc (List.forall_mem_map.2 hcs) (by rwa [Text.octets, List.map_map])
  simpa using hmem

/-- An ASCII text has the same octets in Latin-1 and in UTF-8. -/
theorem octets_of_ascii {cs : List Char} (h : Ascii cs) : octets cs = cs.flatMap encodeChar := by
  rw [octets, List.map_eq_flatMap]
  exact (List.flatMap_congr fun c hc => encodeChar_ascii (h c hc)).symm

/-- An ASCII text is read as itself. -/
theorem decodeChars_octets_append {cs : List Char} (h : Ascii cs) (rest : Bytes) :
    decodeChars (octets cs ++ rest) = cs ++ decodeChars rest := by
  rw [octets_of_ascii h, decodeChars_flatMap_append]

theorem encode_of_ascii {text : String} (h : Ascii text.toList) :
    encode text = octets text.toList :=
  (octets_of_ascii h).symm

theorem decodeChars_octets {cs : List Char} (h : Ascii cs) : decodeChars (octets cs) = cs := by
  have hread := decodeChars_octets_append h []
  rw [List.append_nil, decodeChars_nil, List.append_nil] at hread
  exact hread

theorem decodeChars_cons_ascii {b : UInt8} (hb : b < 0x80) (rest : Bytes) :
    decodeChars (b :: rest) = Char.ofNat b.toNat :: decodeChars rest :=
  decodeChars_append_ascii [] hb rest

/-- No more characters are read than there are octets. -/
theorem length_decodeChars_le (bs : Bytes) : (decodeChars bs).length ≤ bs.length := by
  by_cases hbs : bs = []
  · rw [hbs]
    exact Nat.le_refl _
  · rcases charsFrom_start_cases hbs with ⟨c, rest, rfl⟩ | ⟨b, part, rest, rfl, hout⟩
    · have hpos : 0 < (encodeChar c).length := List.length_pos_iff.2 (encodeChar_ne_nil c)
      have hshort : rest.length < (encodeChar c ++ rest).length := by
        rw [List.length_append]
        omega
      have hrest := length_decodeChars_le rest
      rw [decodeChars_encodeChar, List.length_cons]
      omega
    · have hshort : rest.length < (b :: part ++ rest).length := by
        rw [List.length_append, List.length_cons]
        omega
      have hrest := length_decodeChars_le rest
      rw [decodeChars_eq, hout, ← decodeChars_eq, List.length_cons]
      omega
termination_by bs.length

theorem two_le_length_encodeChar {c : Char} (h : 0x80 ≤ c.toNat) : 2 ≤ (encodeChar c).length := by
  unfold encodeChar
  dsimp only
  rw [if_neg (by omega)]
  split
  · exact Nat.le_refl 2
  · split
    · exact Nat.le_succ 2
    · exact Nat.le_add_right 2 2

/-- **Only ASCII is read as itself.** A character above needs two octets, so a text that holds one
is read as a shorter text, or it is read as U+FFFD, which is no Latin-1 character. -/
theorem ascii_of_decodeChars_octets {cs : List Char} (hcs : ∀ c ∈ cs, c.toNat < 256)
    (h : decodeChars (octets cs) = cs) : Ascii cs := by
  induction cs with
  | nil => exact fun c hc => absurd hc List.not_mem_nil
  | cons c cs ih =>
    have hrest : ∀ d ∈ cs, d.toNat < 256 := fun d hd => hcs d (List.mem_cons_of_mem _ hd)
    by_cases hc : c.toNat < 0x80
    · have hfirst : octets (c :: cs) = encodeChar c ++ octets cs := by
        rw [encodeChar_ascii hc]
        rfl
      rw [hfirst, decodeChars_encodeChar] at h
      have htail := ih hrest (List.cons.inj h).2
      intro d hd
      rcases List.mem_cons.1 hd with rfl | hd
      · exact hc
      · exact htail d hd
    · exfalso
      have hne : octets (c :: cs) ≠ [] := List.cons_ne_nil _ _
      rcases charsFrom_start_cases hne with
        ⟨d, rest, hoctets⟩ | ⟨b, part, rest, -, hout⟩
      · rw [hoctets, decodeChars_encodeChar] at h
        obtain ⟨rfl, htail⟩ := List.cons.inj h
        have hlength : (octets (d :: cs)).length = (encodeChar d ++ rest).length := by rw [hoctets]
        have htwo := two_le_length_encodeChar (Nat.le_of_not_lt hc)
        have hread := length_decodeChars_le rest
        rw [htail] at hread
        rw [octets, List.length_map, List.length_cons, List.length_append] at hlength
        omega
      · rw [decodeChars_eq, hout] at h
        have hfirst : replacement = c := (List.cons.inj h).1
        exact absurd (hfirst ▸ hcs c List.mem_cons_self) (by decide)

end Utf8

/-! ## 2. A status line read in another code -/

namespace StatusLine

open CodePage Utf8

/-- The status line that its Latin-1 octets spell in UTF-8. -/
def reread (s : StatusLine) : StatusLine where
  version := decode (octets s.version.toList)
  code := s.code
  reason := decode (octets s.reason.toList)

theorem ascii_of_digits {cs : List Char} (h : ∀ c ∈ cs, c.isDigit = true) : Ascii cs := by
  intro c hc
  have hhigh : c.toNat ≤ 57 := (Char.isDigit_iff_toNat.1 (h c hc)).2
  omega

theorem space_notMem_decodeChars {version : List Char} (h : ∀ c ∈ version, c.toNat < 256)
    (hspace : ' ' ∉ version) : ' ' ∉ decodeChars (octets version) := by
  intro hmem
  have hoctet : ' '.toNat.toUInt8 ∈ octets version := ascii_mem_of_mem_decodeChars (by decide) _ hmem
  exact hspace (mem_of_mem_octets (by decide) h hoctet)

theorem versionStart_prefix_decodeChars {version : List Char} (h : versionStart <+: version) :
    versionStart <+: decodeChars (octets version) := by
  obtain ⟨rest, rfl⟩ := h
  have hascii : Ascii versionStart := by decide
  rw [octets_append, decodeChars_octets_append hascii]
  exact List.prefix_append ..

/-- What spells a status line spells one when its octets are read as UTF-8. -/
theorem spells_reread {cs : List Char} {s : StatusLine} (hcs : ∀ c ∈ cs, c.toNat < 256)
    (h : Spells cs s) : Spells (decodeChars (octets cs)) s.reread := by
  cases h with
  | @bare version code n hspace hversion hcode =>
    have hv : ∀ c ∈ version, c.toNat < 256 := fun c hc => hcs c (List.mem_append_left _ hc)
    have hread : decodeChars (octets (version ++ ' ' :: code))
        = decodeChars (octets version) ++ ' ' :: code := by
      rw [octets_append, octets_cons, decodeChars_append_ascii _ (by decide),
        decodeChars_octets (ascii_of_digits (codeValue?_digits hcode).2)]
      rfl
    have hs : reread ⟨String.ofList version, n, ""⟩
        = ⟨String.ofList (decodeChars (octets version)), n, ""⟩ := by
      rw [reread, String.toList_ofList]
      rfl
    rw [hread, hs]
    exact .bare (space_notMem_decodeChars hv hspace) (versionStart_prefix_decodeChars hversion)
      hcode
  | @reasoned version code reason n hspace hversion hcode =>
    have hv : ∀ c ∈ version, c.toNat < 256 := fun c hc => hcs c (List.mem_append_left _ hc)
    have hread : decodeChars (octets (version ++ ' ' :: (code ++ ' ' :: reason)))
        = decodeChars (octets version) ++ ' ' :: (code ++ ' ' :: decodeChars (octets reason)) := by
      rw [octets_append, octets_cons, octets_append, octets_cons,
        decodeChars_append_ascii _ (by decide),
        decodeChars_octets_append (ascii_of_digits (codeValue?_digits hcode).2),
        decodeChars_cons_ascii (by decide)]
      rfl
    have hs : reread ⟨String.ofList version, n, String.ofList reason⟩
        = ⟨String.ofList (decodeChars (octets version)), n,
            String.ofList (decodeChars (octets reason))⟩ := by
      rw [reread, String.toList_ofList, String.toList_ofList]
      rfl
    rw [hread, hs]
    exact .reasoned (space_notMem_decodeChars hv hspace) (versionStart_prefix_decodeChars hversion)
      hcode

theorem toList_decodeLatin1_append (a b : Bytes) :
    (decodeLatin1 (a ++ b)).toList = (decodeLatin1 a).toList ++ (decodeLatin1 b).toList := by
  rw [decodeLatin1, decodeLatin1, decodeLatin1, String.toList_ofList, String.toList_ofList,
    String.toList_ofList, List.map_append]

/-- A status line is written if its code has not too many digits and all its characters are Latin-1,
each as its own number. -/
theorem toBytes_eq_ok_iff {s : StatusLine} {bytes : Bytes} :
    s.toBytes = .ok bytes ↔ Whole.isWritten s.code = true ∧
      (∀ c ∈ s.text.toList, c.toNat < 256) ∧ bytes = octets s.text.toList ++ Bytes.crlf := by
  unfold toBytes
  cases hcode : Whole.isWritten s.code with
  | false => simp
  | true =>
    rw [if_pos rfl]
    constructor
    · intro h
      cases hencode : latin1.encode s.text with
      | error run =>
        rw [hencode] at h
        cases h
      | ok line =>
        rw [hencode] at h
        obtain ⟨hheld, rfl⟩ := encode_string_eq_ok_iff.1 hencode
        exact ⟨rfl, hheld, (Except.ok.inj h).symm⟩
    · rintro ⟨-, hheld, rfl⟩
      have hencode : latin1.encode s.text = .ok (octets s.text.toList) :=
        encode_string_eq_ok_iff.2 ⟨hheld, rfl⟩
      rw [hencode]

/-- The octets of a line and its end are read as what the line spells. -/
theorem ofBytes_octets_iff {text : String} {s : StatusLine} (h : ∀ c ∈ text.toList, c.toNat < 256) :
    ofBytes (octets text.toList ++ Bytes.crlf) = .ok s ↔ Spells text.toList s := by
  have hencode : latin1.encode text = .ok (octets text.toList) :=
    encode_string_eq_ok_iff.2 ⟨h, rfl⟩
  have hread : (decodeLatin1 (octets text.toList ++ Bytes.crlf)).toList
      = text.toList ++ ['\r', '\n'] := by
    rw [toList_decodeLatin1_append, decodeLatin1_of_encode hencode]
    rfl
  rw [ofBytes, ofText_eq_ok_iff, hread, chomp_append_crlf]

/-- The line of a status line is spelled by what it was written from, if it is read back. -/
theorem spells_of_ofBytes {s : StatusLine} {bytes : Bytes} (hbytes : s.toBytes = .ok bytes)
    (hback : ofBytes bytes = .ok s) :
    Spells s.text.toList s ∧ (∀ c ∈ s.text.toList, c.toNat < 256) ∧
      bytes = octets s.text.toList ++ Bytes.crlf := by
  obtain ⟨-, hheld, rfl⟩ := toBytes_eq_ok_iff.1 hbytes
  exact ⟨(ofBytes_octets_iff hheld).1 hback, hheld, rfl⟩

/-- A character that stands in a line stands in the version or in the reason, or it is a space or a
digit. -/
theorem Spells.notMem {cs : List Char} {s : StatusLine} (h : Spells cs s) {c : Char}
    (hspace : c ≠ ' ') (hdigit : c.isDigit = false) (hversion : c ∉ s.version.toList)
    (hreason : c ∉ s.reason.toList) : c ∉ cs := by
  have hcode {code : List Char} {n : Nat} (hn : codeValue? code = some n) : c ∉ code := fun hmem =>
    Bool.false_ne_true (hdigit.symm.trans ((codeValue?_digits hn).2 c hmem))
  cases h with
  | bare _ _ hn =>
    rw [String.toList_ofList] at hversion
    simp only [List.mem_append, List.mem_cons, hversion, hspace, hcode hn, or_self,
      not_false_eq_true]
  | reasoned _ _ hn =>
    rw [String.toList_ofList] at hversion hreason
    simp only [List.mem_append, List.mem_cons, hversion, hspace, hcode hn, hreason, or_self,
      not_false_eq_true]

theorem Spells.version_prefix {cs : List Char} {s : StatusLine} (h : Spells cs s) :
    s.version.toList <+: cs := by
  cases h with
  | bare =>
    rw [String.toList_ofList]
    exact List.prefix_append ..
  | reasoned =>
    rw [String.toList_ofList]
    exact List.prefix_append ..

theorem Spells.reason_suffix {cs : List Char} {s : StatusLine} (h : Spells cs s) :
    s.reason.toList <:+ cs := by
  cases h with
  | bare => exact List.nil_suffix
  | @reasoned version code reason =>
    rw [String.toList_ofList]
    exact ⟨version ++ ' ' :: code ++ [' '], by simp⟩

/-- The status line is ASCII exactly when its octets spell it in UTF-8 too. -/
theorem reread_eq_iff {s : StatusLine} (hversion : ∀ c ∈ s.version.toList, c.toNat < 256)
    (hreason : ∀ c ∈ s.reason.toList, c.toNat < 256) :
    s.reread = s ↔ Ascii s.version.toList ∧ Ascii s.reason.toList := by
  constructor
  · intro h
    have hv : decode (octets s.version.toList) = s.version := congrArg StatusLine.version h
    have hr : decode (octets s.reason.toList) = s.reason := congrArg StatusLine.reason h
    have hv' := congrArg String.toList hv
    have hr' := congrArg String.toList hr
    rw [toList_decode] at hv' hr'
    exact ⟨ascii_of_decodeChars_octets hversion hv', ascii_of_decodeChars_octets hreason hr'⟩
  · rintro ⟨hv, hr⟩
    rw [reread, decode, decode, decodeChars_octets hv, decodeChars_octets hr,
      String.ofList_toList, String.ofList_toList]

end StatusLine

/-! ## 3. The check of a server that sends a status line -/

namespace Check

open CodePage StatusLine

/-- The octets of a status line, without the line feed at the end. -/
def sentLine (status : StatusLine) : Bytes :=
  octets status.text.toList ++ [Bytes.carriageReturn]

section Line

variable {status : StatusLine} {bytes : Bytes} (hbytes : status.toBytes = .ok bytes)
  (hback : StatusLine.ofBytes bytes = .ok status)

include hbytes hback

theorem firstLine_of_statusLine (hversion : '\n' ∉ status.version.toList)
    (hreason : '\n' ∉ status.reason.toList) {sent : Bytes} (hsent : bytes <+: sent) :
    Bytes.firstLine sent = sentLine status := by
  obtain ⟨hspells, hheld, hoctets⟩ := spells_of_ofBytes hbytes hback
  obtain ⟨rest, rfl⟩ := hsent
  have htext : '\n' ∉ status.text.toList :=
    hspells.notMem (by decide) (by decide) hversion hreason
  have hline : Bytes.lineFeed ∉ sentLine status := by
    intro hmem
    rcases List.mem_append.1 hmem with hmem | hmem
    · exact htext (Utf8.mem_of_mem_octets (by decide) hheld hmem)
    · exact absurd (List.mem_singleton.1 hmem) (by decide)
  have hcut : bytes ++ rest = sentLine status ++ Bytes.lineFeed :: rest := by
    rw [hoctets, sentLine, List.append_assoc, List.append_assoc]
    rfl
  rw [hcut, Bytes.firstLine_append_lineFeed hline]

theorem ofText_decode_sentLine :
    StatusLine.ofText (Utf8.decode (sentLine status)) = .ok status.reread := by
  obtain ⟨hspells, hheld, -⟩ := spells_of_ofBytes hbytes hback
  have hread : Utf8.decodeChars (sentLine status)
      = Utf8.decodeChars (octets status.text.toList) ++ ['\r'] :=
    Utf8.decodeChars_append_ascii _ (by decide) []
  rw [ofText_eq_ok_iff, Utf8.toList_decode, hread, chomp_append_carriageReturn]
  exact spells_reread hheld hspells

/-- What an ASCII version begins with is where the sent line begins. -/
theorem encode_prefix_sentLine {expected : String} (hascii : Ascii status.version.toList)
    (hexpected : expected.toList <+: status.version.toList) :
    Utf8.encode expected <+: sentLine status := by
  obtain ⟨hspells, -, -⟩ := spells_of_ofBytes hbytes hback
  have hencode : Utf8.encode expected = octets expected.toList :=
    Utf8.encode_of_ascii fun c hc => hascii c (hexpected.subset hc)
  have hprefix : octets expected.toList <+: octets status.text.toList :=
    (hexpected.trans hspells.version_prefix).map _
  rw [hencode]
  exact hprefix.trans (List.prefix_append ..)

end Line

/-- **A check finds the status line that a server sends exactly when it is ASCII.** Let a server
send a status line that its own octets spell, let the host be one that can be looked up, and let no
call fail. What an ASCII version begins
with is found in any case, and the status line is then the one that the octets spell in UTF-8. -/
theorem status_check_iff (order : Order) (s : System) (script : Script) (status : StatusLine)
    (bytes data : Bytes) (hs : Obliging order s) (hscript : nextSocket s = .ok script)
    (hasks : Socket.unaskable? s order.host order.service = none)
    (hok : ∀ es, s.Noted (after (check order s)) es → ∀ e ∈ es, e.isFailedCall = false)
    (hdata : order.request.toBytes = .ok data) (hbytes : status.toBytes = .ok bytes)
    (hback : StatusLine.ofBytes bytes = .ok status) (hversion : '\n' ∉ status.version.toList)
    (hreason : '\n' ∉ status.reason.toList) (hsent : bytes <+: Script.sent script.recv)
    (hexpected : order.expected.toList <+: status.version.toList) :
    ((∃ r, outcome (check order s) = .ok r ∧ r.status = some status) ↔
      Ascii status.version.toList ∧ Ascii status.reason.toList) ∧
    (Ascii status.version.toList →
      outcome (check order s) = .ok ⟨order.host, order.service.display,
        Utf8.decode (sentLine status), some status.reread⟩) := by
  obtain ⟨hspells, hheld, -⟩ := spells_of_ofBytes hbytes hback
  have hv : ∀ c ∈ status.version.toList, c.toNat < 256 := fun c hc =>
    hheld c (hspells.version_prefix.subset hc)
  have hr : ∀ c ∈ status.reason.toList, c.toNat < 256 := fun c hc =>
    hheld c (hspells.reason_suffix.subset hc)
  have hplain : Utf8.replacement ∉ order.expected.toList := fun hmem =>
    absurd (hv _ (hexpected.subset hmem)) (by decide)
  have hfound : outcome (check order s) = verdict order (sentLine status) := by
    rw [outcome_check order s script hs hscript hasks hplain hok,
      firstLine_of_statusLine hbytes hback hversion hreason hsent]
  have hstatus : (StatusLine.ofText (Utf8.decode (sentLine status))).toOption
      = some status.reread := by
    rw [ofText_decode_sentLine hbytes hback]
    rfl
  have hbegins (hascii : Ascii status.version.toList) :
      outcome (check order s) = .ok ⟨order.host, order.service.display,
        Utf8.decode (sentLine status), some status.reread⟩ := by
    rw [hfound, verdict, hdata]
    dsimp only
    rw [if_pos (encode_prefix_sentLine hbytes hback hascii hexpected), hstatus]
  refine ⟨⟨?_, ?_⟩, hbegins⟩
  · rintro ⟨r, hresult, hsame⟩
    rw [hfound, verdict, hdata] at hresult
    dsimp only at hresult
    split at hresult
    · obtain rfl := Except.ok.inj hresult
      rw [hstatus] at hsame
      exact (reread_eq_iff hv hr).1 (Option.some.inj hsame)
    · cases hresult
  · intro hascii
    refine ⟨_, hbegins hascii.1, ?_⟩
    exact congrArg some ((reread_eq_iff hv hr).2 hascii)

/-- A server that sends these parts. -/
def sending (parts : List Bytes) : System where
  sockets := [.ok { recv := parts.map fun part => { outcome := .value part } }]

/-- A check of a server at a port of the host itself. -/
def localOrder : Order := { host := "127.0.0.1", service := .numbered 8080 }

theorem obliging_sending (parts : List Bytes) : Obliging localOrder (sending parts) := by
  refine ⟨fun addresses h => ?_, (fun names h => nomatch h), fun script h => ?_⟩
  · cases h
    exact ⟨_, _, rfl, Address.numbered_of_port (by decide) (by decide)⟩
  · cases h
    have hrecv : ∀ r ∈ parts.map fun part => ({ outcome := .value part } : Reply Bytes),
        r.closing = false := by
      intro r hr
      obtain ⟨part, -, rfl⟩ := List.mem_map.1 hr
      rfl
    have hnone : ∀ m ∈ ([] : List Interference), m.closing = false := fun _ hm => nomatch hm
    exact ⟨⟨(fun r hr => nomatch hr), (fun r hr => nomatch hr), (fun r hr => nomatch hr), hrecv,
      (fun r hr => nomatch hr), hnone, hnone⟩, (fun r hr => nomatch hr), fun r hr => nomatch hr⟩

/-- Nothing was noted before, so what is noted is all that is noted. -/
theorem forall_noted_sending {parts : List Bytes} {t : System} {p : Event → Prop}
    (h : ∀ e ∈ t.events.toList, p e) : ∀ es, (sending parts).Noted t es → ∀ e ∈ es, p e := by
  intro es hes
  have heq : t.events.toList = es := hes
  exact heq ▸ h

/-- `HTTP/1.0 404 Gone` in two parts, the second of which goes on after the line. -/
def gone : List Bytes :=
  [[72, 84, 84, 80, 47, 49, 46, 48, 32, 52], [48, 52, 32, 71, 111, 110, 101, 13, 10, 13, 10]]

theorem status_check_iff_gone :
    (∃ r, outcome (check localOrder (sending gone)) = .ok r ∧
      r.status = some ⟨"HTTP/1.0", 404, "Gone"⟩) := by
  have hok : ∀ e ∈ (after (check localOrder (sending gone))).events.toList,
      e.isFailedCall = false := by
    decide +kernel
  exact (status_check_iff localOrder (sending gone) _ ⟨"HTTP/1.0", 404, "Gone"⟩ _ _
    (obliging_sending gone) rfl (by decide) (forall_noted_sending hok) rfl rfl (by decide +kernel)
    (by decide) (by decide) (by decide +kernel) (by decide)).1.2
    ⟨by decide, by decide⟩

/-- `HTTP/1.0 302 Trouvé` in Latin-1. -/
def accented : List Bytes :=
  [[72, 84, 84, 80, 47, 49, 46, 48, 32, 51, 48, 50, 32, 84, 114, 111, 117, 118, 0xE9, 13, 10]]

/-- **A reason that is not ASCII is not found again**, though the octets of the status line spell
it. -/
theorem status_check_latin1 :
    ∃ status bytes, status.toBytes = .ok bytes ∧ StatusLine.ofBytes bytes = .ok status ∧
      '\n' ∉ status.version.toList ∧ '\n' ∉ status.reason.toList ∧ accented = [bytes] ∧
      localOrder.expected.toList <+: status.version.toList ∧
      Obliging localOrder (sending accented) ∧
      (∀ e ∈ (after (check localOrder (sending accented))).events.toList,
        e.isFailedCall = false) ∧
      ¬ ∃ r, outcome (check localOrder (sending accented)) = .ok r ∧ r.status = some status := by
  refine ⟨⟨"HTTP/1.0", 302, "Trouvé"⟩, accented.head (by decide), by decide +kernel,
    by decide +kernel, by decide, by decide, rfl, by decide, obliging_sending accented,
    by decide +kernel, ?_⟩
  rintro ⟨r, hresult, hstatus⟩
  have hfound : outcome (check localOrder (sending accented)) = .ok ⟨"127.0.0.1", "8080",
      "HTTP/1.0 302 Trouv\uFFFD\r", some ⟨"HTTP/1.0", 302, "Trouv\uFFFD"⟩⟩ := by
    decide +kernel
  rw [hfound] at hresult
  obtain rfl := Except.ok.inj hresult
  exact absurd hstatus (by decide)

end Check

end HttpProbe
