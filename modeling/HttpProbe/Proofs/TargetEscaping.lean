import HttpProbe.Proofs.RequestFraming

/-!
# Any target stays one word of the request line

What is asked for may hold line ends, spaces and characters of any script. On the wire it is one
word of permitted octets all the same, and its UTF-8 form can be read back from them:

* `Permitted`: the octets that a target may hold, by name. They are the octets of the characters
  that escaping keeps (`permitted_iff`);
* `Utf8.eq_of_mem_encodeChar`: an ASCII octet stands in the octets of its own character only. So an
  octet of a target is permitted exactly when its character is kept;
* `written`: an octet as itself or as one escape. `octets_escape`: the escaped target is its UTF-8
  form, octet by octet;
* `unescape`: the reader of escapes, which undoes `written` (`unescape_flatMap_written`);
* **`target_escaped`**: a request for any target is one line of three words, the escapes tell the
  target, and escaping what is escaped changes nothing.
-/

namespace HttpProbe

/-! ## 1. Octets of characters -/

/-- An ASCII octet stands in the octets of its own character only: it is read as this character
wherever it stands. -/
theorem Utf8.eq_of_mem_encodeChar {c : Char} {b : UInt8} (hb : b < 0x80)
    (h : b ∈ encodeChar c) : c = Char.ofNat b.toNat := by
  obtain ⟨before, after, hsplit⟩ := List.append_of_mem h
  have hread : [c] = decodeChars before ++ Char.ofNat b.toNat :: decodeChars after := by
    rw [← decodeChars_append_ascii before hb after, ← hsplit]
    have hchar := decodeChars_encodeChar c []
    rw [List.append_nil, decodeChars_nil] at hchar
    exact hchar.symm
  rcases List.append_eq_singleton_iff.1 hread.symm with ⟨-, hrest⟩ | ⟨-, hnil⟩
  · exact (List.cons.inj hrest).1.symm
  · exact absurd hnil (List.cons_ne_nil _ _)

/-- A character is written only for itself, if it is ASCII. -/
theorem Utf8.ascii_mem_of_mem_encode {c : Char} {text : String} (hc : c.toNat < 0x80)
    (h : c.toNat.toUInt8 ∈ encode text) : c ∈ text.toList := by
  have hnumber : c.toNat.toUInt8.toNat = c.toNat := toNat_toUInt8 (by omega)
  obtain ⟨d, hd, hmem⟩ := List.mem_flatMap.1 h
  have hlow : c.toNat.toUInt8 < 0x80 := by
    rw [UInt8.lt_iff_toNat_lt, hnumber]
    exact hc
  rw [eq_of_mem_encodeChar hlow hmem, hnumber, Char.ofNat_toNat] at hd
  exact hd

namespace Percent

/-! ## 2. Permitted octets -/

/-- The octet that begins an escape. -/
def sign : UInt8 := 0x25

/-- The octets that a target may hold: ASCII letters and digits, the unreserved marks, the reserved
marks, and the percent sign. -/
def Permitted (b : UInt8) : Prop :=
  0x41 ≤ b ∧ b ≤ 0x5A ∨ 0x61 ≤ b ∧ b ≤ 0x7A ∨ 0x30 ≤ b ∧ b ≤ 0x39 ∨
    b ∈ CodePage.octets "_.-~".toList ∨ b ∈ CodePage.octets "/:@!$&'()*+,;=?#%[]".toList

instance (b : UInt8) : Decidable (Permitted b) := inferInstanceAs (Decidable (_ ∨ _))

/-- They are the octets of the characters that stay. -/
theorem permitted_iff (b : UInt8) : Permitted b ↔ isKept (Char.ofNat b.toNat) = true := by
  have hall : ∀ n : Fin 256,
      Permitted (UInt8.ofNat n.val) ↔ isKept (Char.ofNat (UInt8.ofNat n.val).toNat) = true := by
    decide +kernel
  have hb := hall ⟨b.toNat, b.toNat_lt⟩
  rwa [UInt8.ofNat_toNat] at hb

theorem Permitted.lt {b : UInt8} (h : Permitted b) : b < 0x80 := by
  have hlow := toNat_lt_of_isKept ((permitted_iff b).1 h)
  rw [UInt8.lt_iff_toNat_lt]
  rwa [Utf8.toNat_charOfNat (.inl (by have := b.toNat_lt; omega))] at hlow

theorem permitted_toUInt8 {c : Char} (h : isKept c = true) : Permitted c.toNat.toUInt8 := by
  have hlow := toNat_lt_of_isKept h
  rw [permitted_iff, Utf8.toNat_toUInt8 (by omega), Char.ofNat_toNat]
  exact h

/-- No octet of a character that does not stay is permitted. -/
theorem not_permitted_of_mem {c : Char} {b : UInt8} (h : isKept c = false)
    (hb : b ∈ Utf8.encodeChar c) : ¬ Permitted b := by
  intro hpermitted
  have hkept := (permitted_iff b).1 hpermitted
  rw [← Utf8.eq_of_mem_encodeChar hpermitted.lt hb, h] at hkept
  exact absurd hkept (by decide)

/-! ## 3. Octet by octet -/

/-- The octet of a hexadecimal digit, upper-case. -/
def hexOctet (n : Nat) : UInt8 := if n < 10 then n.toUInt8 + 0x30 else n.toUInt8 + 0x37

/-- An octet in a target: itself, or one escape. -/
def written (b : UInt8) : Bytes :=
  if Permitted b then [b] else [sign, hexOctet (b.toNat / 16), hexOctet (b.toNat % 16)]

theorem octet_digit {n : Nat} (h : n < 16) : (digit n).toNat.toUInt8 = hexOctet n := by
  have hall : ∀ n : Fin 16, (digit n.val).toNat.toUInt8 = hexOctet n.val := by decide
  exact hall ⟨n, h⟩

theorem octets_escapeByte {b : UInt8} (h : ¬ Permitted b) :
    CodePage.octets (escapeByte b) = written b := by
  have hb : b.toNat < 256 := b.toNat_lt
  rw [written, if_neg h, ← octet_digit (n := b.toNat / 16) (by omega),
    ← octet_digit (n := b.toNat % 16) (by omega)]
  rfl

/-- A character in a target is its octets, each as itself or as one escape. -/
theorem octets_escapeChar (c : Char) :
    CodePage.octets (escapeChar c) = (Utf8.encodeChar c).flatMap written := by
  unfold escapeChar
  cases hc : isKept c with
  | true =>
    rw [if_pos rfl, Utf8.encodeChar_ascii (toNat_lt_of_isKept hc), List.flatMap_singleton,
      written, if_pos (permitted_toUInt8 hc)]
    rfl
  | false =>
    rw [if_neg Bool.false_ne_true, CodePage.octets, List.map_flatMap]
    exact List.flatMap_congr fun b hb => octets_escapeByte (not_permitted_of_mem hc hb)

/-- **The escaped target is the UTF-8 form of the target**, octet by octet. -/
theorem octets_escape (target : String) :
    CodePage.octets (escape target).toList = (Utf8.encode target).flatMap written := by
  rw [escape, String.toList_ofList, CodePage.octets, List.map_flatMap, Utf8.encode,
    List.flatMap_assoc]
  exact List.flatMap_congr fun c _ => octets_escapeChar c

theorem permitted_of_mem_escape {target : String} {b : UInt8}
    (h : b ∈ CodePage.octets (escape target).toList) : Permitted b := by
  obtain ⟨c, hc, rfl⟩ := List.mem_map.1 h
  exact permitted_toUInt8 (mem_escape hc)

/-! ## 4. Reading escapes -/

/-- What a hexadecimal digit of either case stands for. -/
def hexValue? (b : UInt8) : Option Nat :=
  if 0x30 ≤ b ∧ b ≤ 0x39 then some (b.toNat - 0x30)
  else if 0x41 ≤ b ∧ b ≤ 0x46 then some (b.toNat - 0x37)
  else if 0x61 ≤ b ∧ b ≤ 0x66 then some (b.toNat - 0x57)
  else none

/-- The octet that two hexadecimal digits write; nothing if they are none. -/
def pair? (high low : UInt8) : Option UInt8 :=
  match hexValue? high, hexValue? low with
  | some h, some l => some (16 * h + l).toUInt8
  | _, _ => none

/-- Octets with every escape read as the octet that it stands for. A percent sign that begins no
escape stands for itself. -/
def unescape : Bytes → Bytes
  | b :: high :: low :: rest =>
    if b = sign then
      match pair? high low with
      | some octet => octet :: unescape rest
      | none => b :: unescape (high :: low :: rest)
    else b :: unescape (high :: low :: rest)
  | bs => bs

theorem unescape_cons {b : UInt8} (h : b ≠ sign) (rest : Bytes) :
    unescape (b :: rest) = b :: unescape rest := by
  rcases rest with _ | ⟨high, _ | ⟨low, rest⟩⟩
  · rfl
  · rfl
  · rw [unescape, if_neg h]

theorem hexValue?_hexOctet {n : Nat} (h : n < 16) : hexValue? (hexOctet n) = some n := by
  have hall : ∀ n : Fin 16, hexValue? (hexOctet n.val) = some n.val := by decide
  exact hall ⟨n, h⟩

theorem pair?_hexOctet (b : UInt8) :
    pair? (hexOctet (b.toNat / 16)) (hexOctet (b.toNat % 16)) = some b := by
  have hb : b.toNat < 256 := b.toNat_lt
  have hsum : 16 * (b.toNat / 16) + b.toNat % 16 = b.toNat := by omega
  rw [pair?, hexValue?_hexOctet (by omega), hexValue?_hexOctet (by omega)]
  exact congrArg some (Utf8.toUInt8_eq hsum)

/-- An octet is read as it was written. The percent sign is not, as it is written as itself. -/
theorem unescape_written {b : UInt8} (h : b ≠ sign) (rest : Bytes) :
    unescape (written b ++ rest) = b :: unescape rest := by
  unfold written
  split
  · exact unescape_cons h rest
  · simp only [List.cons_append, List.nil_append]
    rw [unescape, if_pos rfl, pair?_hexOctet]

/-- **Reading escapes undoes writing them**, octet by octet. -/
theorem unescape_flatMap_written {bs : Bytes} (h : sign ∉ bs) :
    unescape (bs.flatMap written) = bs := by
  induction bs with
  | nil => rfl
  | cons b rest ih =>
    rw [List.mem_cons, not_or] at h
    rw [List.flatMap_cons, unescape_written (Ne.symm h.1), ih h.2]

end Percent

/-! ## 5. The request -/

namespace Request

open Percent

/-- A request line that asks for the octets, and no headers. -/
def asking (target : Bytes) : Bytes :=
  CodePage.octets "GET ".toList ++ target ++ CodePage.octets " HTTP/1.0".toList ++ Bytes.crlf
    ++ Bytes.crlf

/-- An octet that the target does not hold is as frequent as in a request for nothing. -/
theorem count_asking {x : UInt8} {target : Bytes} (h : x ∉ target) :
    (asking target).count x = (asking []).count x := by
  simp [asking, List.count_append, List.count_eq_zero_of_not_mem h]

theorem toBytes_asking (target : String) :
    ({ method := "GET", target := target } : Request).toBytes
      = .ok (asking (CodePage.octets (escape target).toList)) := by
  have hplain : ({ method := "GET", target := target } : Request).Plain :=
    ⟨show CodePage.ascii.Admits ['\r', '\n'] "GET" by decide,
      show CodePage.ascii.Admits ['\r', '\n'] "HTTP/1.0" by decide, by simp⟩
  refine toBytes_eq_ok_iff.2 ⟨hplain.encodable (Text.forall_mem_ofString.2 fun _ _ => rfl), ?_⟩
  simp [Bytes.message, lines, line, asking, defaultVersion, Text.octets_append,
    Text.octets_cons_char, Text.octets_ofString, CodePage.octets]

/-- **A target cannot break out of its request.** For every target the request has octets: `GET`,
the target in permitted octets, `HTTP/1.0`, and two line ends. They hold two spaces, and no line end
but these two. The target is its UTF-8 form, octet by octet as itself or as one escape, so a target
without a percent sign is read back from it. Asking for what was written makes the same request. -/
theorem target_escaped (target : String) :
    ∃ t : Bytes, ({ method := "GET", target := target } : Request).toBytes = .ok (asking t) ∧
      (∀ b ∈ t, Permitted b) ∧
      ((asking t).count 0x20 = 2 ∧ (asking t).count Bytes.carriageReturn = 2 ∧
        (asking t).count Bytes.lineFeed = 2) ∧
      t = (Utf8.encode target).flatMap written ∧
      ('%' ∉ target.toList → unescape t = Utf8.encode target) ∧
      ({ method := "GET", target := CodePage.decodeLatin1 t } : Request).toBytes
        = .ok (asking t) := by
  have hpermitted : ∀ b ∈ CodePage.octets (escape target).toList, Permitted b :=
    fun b hb => permitted_of_mem_escape hb
  have hcount {x : UInt8} (hx : ¬ Permitted x) :
      (asking (CodePage.octets (escape target).toList)).count x = (asking []).count x :=
    count_asking fun hmem => hx (hpermitted x hmem)
  refine ⟨_, toBytes_asking target, hpermitted, ⟨?_, ?_, ?_⟩, octets_escape target, ?_, ?_⟩
  · rw [hcount (by decide)]
    decide
  · rw [hcount (by decide)]
    decide
  · rw [hcount (by decide)]
    decide
  · intro hnone
    rw [octets_escape]
    exact unescape_flatMap_written fun hmem =>
      hnone (Utf8.ascii_mem_of_mem_encode (by decide) hmem)
  · have hlatin : CodePage.latin1.encode (escape target)
        = .ok (CodePage.octets (escape target).toList) :=
      CodePage.encode_string_eq_ok_iff.2
        ⟨fun c hc => Nat.lt_trans (ascii_escape target c hc) (by decide), rfl⟩
    rw [CodePage.decodeLatin1_of_encode hlatin, toBytes_asking, escape_escape]

/-- A target that would end its line and write a header. -/
def smuggling : String := "/é HTTP/1.0\r\nHost: x\r\n\r\n\x00"

theorem target_escaped_smuggling :
    '%' ∉ smuggling.toList ∧ ∃ t : Bytes,
      ({ method := "GET", target := smuggling } : Request).toBytes = .ok (asking t) ∧
        (asking t).count Bytes.lineFeed = 2 ∧ unescape t = Utf8.encode smuggling := by
  have hnone : '%' ∉ smuggling.toList := by decide
  obtain ⟨t, hbytes, -, ⟨-, -, hfeeds⟩, -, hread, -⟩ := target_escaped smuggling
  exact ⟨hnone, t, hbytes, hfeeds, hread hnone⟩

end Request

end HttpProbe
