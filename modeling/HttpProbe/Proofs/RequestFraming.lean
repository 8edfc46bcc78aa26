import HttpProbe.Http.Request
import HttpProbe.Proofs.OneReception
import HttpProbe.Proofs.RequestLine
import HttpProbe.Proofs.RequestRecord
import HttpProbe.Proofs.StatusLineReading

/-!
# Requests on the wire

A client writes a request as its lines and an empty line, and a responder receives until it sees the
empty line. They agree on where a request ends, however it comes in parts:

* `Request.Plain`: the requests of which a client can write every line as one line;
* `Bytes.message`: lines, their ends and an empty line. `message_split`: an octet that ends lines
  stands there at the end of a line only. So the empty line stands at the end of the message and
  nowhere else (`blankLine_at_end`, `not_bareBlankLine`);
* `Request.toBytes_eq_ok_iff`: a request has octets if its lines can carry it and its target has a
  UTF-8 form, and they are the message of its lines. `message_of_plain`: so those of a plain request
  are such a message;
* `Head.Framed`: octets that are enough when they are all there, and not before (`framed_message`);
* `Socket.Offers`, `Responder.collect_of_offers`: a reader to which such octets come in parts takes
  every part and asks for no more;
* `Socket.endpoint_eq_ok`: the parts wait while the peer is named;
* **`request_framed`**: so does the responder, and it notes the line that the client wrote.
-/

namespace HttpProbe

/-! ## 1. Where the empty line stands -/

namespace Bytes

/-- The octets stand on one line, which is not empty. -/
structure OneLine (bs : Bytes) : Prop where
  filled : bs ≠ []
  noReturn : carriageReturn ∉ bs
  noFeed : lineFeed ∉ bs

/-- Lines, each with its end, and an empty line. -/
def message (lines : List Bytes) : Bytes := lines.flatMap (· ++ crlf) ++ crlf

theorem message_cons (line : Bytes) (lines : List Bytes) :
    message (line :: lines) = line ++ carriageReturn :: lineFeed :: message lines := by
  simp only [message, List.flatMap_cons, crlf, List.append_assoc, List.cons_append, List.nil_append]

/-- A message begins with an octet of its first line, or it is an empty line alone. -/
theorem message_cases {lines : List Bytes} (hlines : ∀ line ∈ lines, line.OneLine) :
    (∃ b tail, message lines = b :: tail ∧ b ≠ carriageReturn ∧ b ≠ lineFeed) ∨
      message lines = crlf := by
  cases lines with
  | nil => exact .inr rfl
  | cons line rest =>
    have hline := hlines line List.mem_cons_self
    rw [message_cons]
    cases line with
    | nil => exact absurd rfl hline.filled
    | cons b tail =>
      refine .inl ⟨b, _, rfl, ?_, ?_⟩
      · rintro rfl
        exact hline.noReturn List.mem_cons_self
      · rintro rfl
        exact hline.noFeed List.mem_cons_self

theorem ne_carriageReturn_lineFeed : carriageReturn ≠ lineFeed := by decide

/-- Where an octet that ends lines stands in a message, a line ends there, and after it comes a
message of the lines after it, or nothing. Induction on the lines: no such octet stands in a line,
so it belongs to the end of the first line, or stands after it. -/
theorem message_split {lines : List Bytes} (hlines : ∀ line ∈ lines, line.OneLine) {x : UInt8}
    (hx : x = carriageReturn ∨ x = lineFeed) {before after : Bytes}
    (h : message lines = before ++ x :: after) :
    ∃ tail, (x = carriageReturn ∧ after = lineFeed :: tail ∨ x = lineFeed ∧ after = tail) ∧
      (tail = [] ∨ ∃ later, (∀ line ∈ later, line.OneLine) ∧ tail = message later) := by
  induction lines generalizing before with
  | nil =>
    have hcrlf : [carriageReturn, lineFeed] = before ++ x :: after := h
    rcases before with _ | ⟨b, _ | ⟨c, before⟩⟩
    · obtain ⟨hreturn, hafter⟩ := List.cons.inj hcrlf
      exact ⟨[], .inl ⟨hreturn.symm, hafter.symm⟩, .inl rfl⟩
    · obtain ⟨hfeed, hafter⟩ := List.cons.inj (List.cons.inj hcrlf).2
      exact ⟨[], .inr ⟨hfeed.symm, hafter.symm⟩, .inl rfl⟩
    · have hnil : [] = before ++ x :: after := (List.cons.inj (List.cons.inj hcrlf).2).2
      exact absurd hnil.symm (List.append_ne_nil_of_right_ne_nil _ (List.cons_ne_nil _ _))
  | cons line rest ih =>
    have hline := hlines line List.mem_cons_self
    have hrest : ∀ line ∈ rest, line.OneLine := fun l hl => hlines l (List.mem_cons_of_mem _ hl)
    have hnotMem : x ∉ line := by
      rcases hx with rfl | rfl
      · exact hline.noReturn
      · exact hline.noFeed
    rw [message_cons] at h
    obtain ⟨between, -, hend⟩ := exists_of_append_eq hnotMem h
    rcases between with _ | ⟨b, _ | ⟨c, between⟩⟩
    · obtain ⟨hreturn, hafter⟩ := List.cons.inj hend
      exact ⟨_, .inl ⟨hreturn.symm, hafter.symm⟩, .inr ⟨rest, hrest, rfl⟩⟩
    · obtain ⟨hfeed, hafter⟩ := List.cons.inj (List.cons.inj hend).2
      exact ⟨_, .inr ⟨hfeed.symm, hafter.symm⟩, .inr ⟨rest, hrest, rfl⟩⟩
    · exact ih hrest (List.cons.inj (List.cons.inj hend).2).2

/-- **An empty line ends a message**: only a message without lines begins with the end of a line. -/
theorem blankLine_at_end {lines : List Bytes} (hlines : ∀ line ∈ lines, line.OneLine)
    {before after : Bytes} (h : message lines = before ++ Head.blankLine ++ after) :
    after = [] := by
  rw [List.append_assoc] at h
  obtain ⟨tail, hfirst | ⟨hfeed, -⟩, hlater⟩ := message_split hlines (.inl rfl) h
  · have htail : tail = carriageReturn :: lineFeed :: after := (List.cons.inj hfirst.2).2.symm
    rcases hlater with hnil | ⟨later, honeLine, hmessage⟩
    · rw [hnil] at htail
      cases htail
    · rw [hmessage] at htail
      rcases message_cases honeLine with ⟨b, rest, hbegin, hb, -⟩ | hcrlf
      · rw [hbegin] at htail
        exact absurd (List.cons.inj htail).1 hb
      · rw [hcrlf] at htail
        exact (List.cons.inj (List.cons.inj htail).2).2.symm
  · exact absurd hfeed ne_carriageReturn_lineFeed

/-- **No bare line feeds** stand side by side in a message: what comes after a line end does not
begin with one. -/
theorem not_bareBlankLine {lines : List Bytes} (hlines : ∀ line ∈ lines, line.OneLine)
    {before after : Bytes} : message lines ≠ before ++ Head.bareBlankLine ++ after := by
  intro h
  rw [List.append_assoc] at h
  obtain ⟨tail, ⟨hreturn, -⟩ | ⟨-, htail⟩, hlater⟩ := message_split hlines (.inr rfl) h
  · exact ne_carriageReturn_lineFeed hreturn.symm
  · rcases hlater with hnil | ⟨later, honeLine, hmessage⟩
    · rw [hnil] at htail
      cases htail
    · rw [hmessage] at htail
      rcases message_cases honeLine with ⟨b, rest, hbegin, -, hb⟩ | hcrlf
      · rw [hbegin] at htail
        exact hb (List.cons.inj htail).1.symm
      · rw [hcrlf] at htail
        exact ne_carriageReturn_lineFeed (List.cons.inj htail).1.symm

theorem blankLine_suffix {lines : List Bytes} (hne : lines ≠ []) :
    Head.blankLine <:+ message lines := by
  induction lines with
  | nil => exact absurd rfl hne
  | cons line rest ih =>
    rw [message_cons]
    cases rest with
    | nil => exact List.suffix_append line _
    | cons next rest =>
      have hrest := ih (List.cons_ne_nil _ _)
      exact (hrest.trans ((List.suffix_cons _ _).trans (List.suffix_cons _ _))).trans
        (List.suffix_append line _)

end Bytes

namespace Head

open Bytes

/-- The octets are enough when they are all there, and not before. -/
def Framed (data : Bytes) : Prop :=
  ∀ sofar rest : Bytes, data = sofar ++ rest → (isComplete sofar = true ↔ rest = [])

theorem framed_message {lines : List Bytes} (hne : lines ≠ [])
    (hlines : ∀ line ∈ lines, line.OneLine) (hlength : (message lines).length ≤ maxLength) :
    Framed (message lines) := by
  intro sofar rest h
  constructor
  · intro hcomplete
    simp only [isComplete, Bool.or_eq_true, occurs_iff_infix, decide_eq_true_eq] at hcomplete
    rcases hcomplete with (⟨before, after, hsofar⟩ | ⟨before, after, hsofar⟩) | hlong
    · rw [← hsofar, List.append_assoc] at h
      exact (List.append_eq_nil_iff.1 (blankLine_at_end hlines h)).2
    · rw [← hsofar, List.append_assoc] at h
      exact absurd h (not_bareBlankLine hlines)
    · have hsum : (message lines).length = sofar.length + rest.length := by
        rw [h, List.length_append]
      exact List.eq_nil_of_length_eq_zero (by omega)
  · rintro rfl
    rw [List.append_nil] at h
    have hinfix : blankLine <:+: sofar := h ▸ (blankLine_suffix hne).isInfix
    rw [← occurs_iff_infix] at hinfix
    rw [isComplete, hinfix]
    rfl

theorem dropReturn_append (line : Bytes) : dropReturn (line ++ [carriageReturn]) = line := by
  induction line with
  | nil => rfl
  | cons b rest ih =>
    have hcons : dropReturn (b :: (rest ++ [carriageReturn]))
        = b :: dropReturn (rest ++ [carriageReturn]) := by
      cases rest <;> rfl
    rw [List.cons_append, hcons, ih]

/-- The first line of a message is its first line. -/
theorem line_message {first : Bytes} (hfirst : first.OneLine) (lines : List Bytes) :
    line (message (first :: lines)) = first := by
  have hsplit : message (first :: lines)
      = (first ++ [carriageReturn]) ++ lineFeed :: message lines := by
    rw [message_cons, List.append_assoc]
    rfl
  have hfeed : lineFeed ∉ first ++ [carriageReturn] := by
    rw [List.mem_append, List.mem_singleton, not_or]
    exact ⟨hfirst.noFeed, ne_carriageReturn_lineFeed.symm⟩
  rw [line, hsplit, if_pos (List.mem_append_right _ List.mem_cons_self),
    firstLine_append_lineFeed hfeed, dropReturn_append]

end Head

/-! ## 2. What a client writes -/

namespace CodePage

/-- Such a text is written on one line. -/
theorem Admits.oneLine {page : CodePage} {text : Text} (h : page.Admits ['\r', '\n'] text)
    (hne : text ≠ []) :
    text.octets.OneLine where
  filled hnil := hne (List.map_eq_nil_iff.1 hnil)
  noReturn := h.notMem_octets (c := '\r') (by decide) (by decide)
  noFeed := h.notMem_octets (c := '\n') (by decide) (by decide)

end CodePage

namespace Percent

theorem toNat_lt_of_isKept {c : Char} (h : isKept c = true) : c.toNat < 128 := by
  have hmarks : CodePage.Ascii marks := by decide
  have hbelow {high : UInt32} (hhigh : high.toNat < 128) (h : c.val ≤ high) : c.toNat < 128 :=
    Nat.lt_of_le_of_lt (UInt32.le_iff_toNat_le.1 h) hhigh
  rw [isKept, Bool.or_eq_true] at h
  rcases h with h | h
  · rcases Bool.or_eq_true_iff.1 (h : (c.isAlpha || c.isDigit) = true) with h | h
    · rcases Bool.or_eq_true_iff.1 (h : (c.isUpper || c.isLower) = true) with h | h
      · exact hbelow (by decide) (of_decide_eq_true h).2
      · exact hbelow (by decide) (of_decide_eq_true (Bool.and_eq_true_iff.1 h).2)
    · exact Nat.lt_of_le_of_lt (Char.isDigit_iff_toNat.1 h).2 (by decide)
  · exact hmarks c (List.contains_iff_mem.1 h)

theorem ascii_escape (target : String) : CodePage.Ascii (escape target).toList :=
  fun _ hc => toNat_lt_of_isKept (mem_escape hc)

/-- Whatever is asked for, no character that may not stand in a target stands in its
escaped form. -/
theorem lacks_escape {barred : List Char} (hbarred : ∀ c ∈ barred, isKept c = false)
    (target : String) : Text.Lacks barred (escape target) := by
  intro c hc hmem
  obtain ⟨d, hd, hsame⟩ := Text.mem_ofString.1 hmem
  cases hsame
  exact absurd ((hbarred c hc).symm.trans (mem_escape hd)) Bool.false_ne_true

/-- Whatever is asked for, its escaped form is written in ASCII on one line. -/
theorem admits_escape (target : String) :
    CodePage.ascii.Admits ['\r', '\n'] (escape target) where
  holds := Text.forall_mem_ofString.2 (ascii_escape target)
  lacks := lacks_escape (List.forall_mem_cons.2 ⟨rfl, List.forall_mem_singleton.2 rfl⟩) target

end Percent

namespace Request

/-- A request of which every line can be written as one line, but for its target. -/
structure Plain (r : Request) : Prop where
  method : CodePage.ascii.Admits ['\r', '\n'] r.method
  version : CodePage.ascii.Admits ['\r', '\n'] r.version
  headers : ∀ header ∈ r.headers, CodePage.latin1.Admits ['\r', '\n'] header.1 ∧
    CodePage.latin1.Admits ['\r', '\n'] header.2

instance (r : Request) : Decidable r.Plain :=
  decidable_of_iff (CodePage.ascii.Admits ['\r', '\n'] r.method ∧
      CodePage.ascii.Admits ['\r', '\n'] r.version ∧ ∀ header ∈ r.headers,
        CodePage.latin1.Admits ['\r', '\n'] header.1 ∧
          CodePage.latin1.Admits ['\r', '\n'] header.2)
    ⟨fun h => ⟨h.1, h.2.1, h.2.2⟩, fun h => ⟨h.method, h.version, h.headers⟩⟩

theorem admits_line {r : Request} (h : r.Plain) : CodePage.ascii.Admits ['\r', '\n'] r.line :=
  h.method.append (.cons (by decide)
    ((Percent.admits_escape r.target.string).append (.cons (by decide) h.version)))

theorem admits_headerLine {header : Text × Text}
    (hname : CodePage.latin1.Admits ['\r', '\n'] header.1)
    (hvalue : CodePage.latin1.Admits ['\r', '\n'] header.2) :
    CodePage.latin1.Admits ['\r', '\n'] (headerLine header) :=
  hname.append (.cons (by decide) (.cons (by decide) hvalue))

/-- The lines can carry every code point of the request, and the target has a UTF-8 form. -/
structure Encodable (r : Request) : Prop where
  target : ∀ p ∈ r.target, p.isChar = true
  method : ∀ p ∈ r.method, p.toNat < CodePage.ascii.size
  version : ∀ p ∈ r.version, p.toNat < CodePage.ascii.size
  headers : ∀ header ∈ r.headers, ∀ p ∈ header.1 ++ header.2, p.toNat < CodePage.latin1.size

/-- The octets of the lines. -/
def lines (r : Request) : List Bytes :=
  r.line.octets :: r.headers.map fun header => (headerLine header).octets

theorem line_encodable_iff {r : Request} :
    (∀ p ∈ r.line, p.toNat < CodePage.ascii.size) ↔
      (∀ p ∈ r.method, p.toNat < CodePage.ascii.size) ∧
        ∀ p ∈ r.version, p.toNat < CodePage.ascii.size := by
  have htarget := (Percent.admits_escape r.target.string).holds
  have hspace : (CodePoint.char ' ').toNat < CodePage.ascii.size := by decide
  simp only [line, List.forall_mem_append, List.forall_mem_cons, hspace, true_and]
  exact and_congr_right fun _ => and_iff_right htarget

theorem headerLine_encodable_iff {header : Text × Text} :
    (∀ p ∈ headerLine header, p.toNat < CodePage.latin1.size) ↔
      ∀ p ∈ header.1 ++ header.2, p.toNat < CodePage.latin1.size := by
  have hcolon : (CodePoint.char ':').toNat < CodePage.latin1.size := by decide
  have hspace : (CodePoint.char ' ').toNat < CodePage.latin1.size := by decide
  simp only [headerLine, List.forall_mem_append, List.forall_mem_cons, hcolon, hspace, true_and]

theorem mapM_encode_eq_ok_iff {headers : List (Text × Text)} {lines : List Bytes} :
    headers.mapM (fun header => CodePage.latin1.encode (headerLine header)) = .ok lines ↔
      (∀ header ∈ headers, ∀ p ∈ header.1 ++ header.2, p.toNat < CodePage.latin1.size) ∧
      lines = headers.map fun header => (headerLine header).octets := by
  induction headers generalizing lines with
  | nil =>
    refine ⟨fun h => ⟨(fun _ h => nomatch h), (Except.ok.inj h).symm⟩, ?_⟩
    rintro ⟨-, rfl⟩
    rfl
  | cons header rest ih =>
    rw [List.mapM_cons, List.forall_mem_cons, List.map_cons]
    constructor
    · intro h
      cases hline : CodePage.latin1.encode (headerLine header) with
      | error run => rw [hline] at h; cases h
      | ok line =>
        cases hrest : rest.mapM fun header => CodePage.latin1.encode (headerLine header) with
        | error run => rw [hline, hrest] at h; cases h
        | ok more =>
          rw [hline, hrest] at h
          obtain rfl := Except.ok.inj h
          obtain ⟨hheader, rfl⟩ := CodePage.encode_eq_ok_iff.1 hline
          obtain ⟨hall, rfl⟩ := ih.1 hrest
          exact ⟨⟨headerLine_encodable_iff.1 hheader, hall⟩, rfl⟩
    · rintro ⟨⟨hheader, hall⟩, rfl⟩
      rw [CodePage.encode_eq_ok_iff.2 ⟨headerLine_encodable_iff.2 hheader, rfl⟩, ih.2 ⟨hall, rfl⟩]
      rfl

theorem encodedLines_eq_ok_iff {r : Request} {lines : List Bytes} :
    r.encodedLines = .ok lines ↔
      (∀ p ∈ r.method, p.toNat < CodePage.ascii.size) ∧
      (∀ p ∈ r.version, p.toNat < CodePage.ascii.size) ∧
      (∀ header ∈ r.headers, ∀ p ∈ header.1 ++ header.2, p.toNat < CodePage.latin1.size) ∧
      lines = r.lines := by
  unfold encodedLines
  constructor
  · intro h
    cases hline : CodePage.ascii.encode r.line with
    | error run => rw [hline] at h; cases h
    | ok line =>
      cases hrest : r.headers.mapM fun header => CodePage.latin1.encode (headerLine header) with
      | error run => rw [hline, hrest] at h; cases h
      | ok rest =>
        rw [hline, hrest] at h
        obtain rfl := Except.ok.inj h
        obtain ⟨hfirst, rfl⟩ := CodePage.encode_eq_ok_iff.1 hline
        obtain ⟨hheaders, rfl⟩ := mapM_encode_eq_ok_iff.1 hrest
        obtain ⟨hmethod, hversion⟩ := line_encodable_iff.1 hfirst
        exact ⟨hmethod, hversion, hheaders, rfl⟩
  · rintro ⟨hmethod, hversion, hheaders, rfl⟩
    rw [CodePage.encode_eq_ok_iff.2 ⟨line_encodable_iff.2 ⟨hmethod, hversion⟩, rfl⟩,
      mapM_encode_eq_ok_iff.2 ⟨hheaders, rfl⟩]
    rfl

/-- **The octets of a request** are a message of its lines, if its lines can carry it and its target
has a UTF-8 form. -/
theorem toBytes_eq_ok_iff {r : Request} {data : Bytes} :
    r.toBytes = .ok data ↔ r.Encodable ∧ data = Bytes.message r.lines := by
  unfold toBytes
  constructor
  · intro h
    cases hfault : Codec.utf8.fault? r.target with
    | some run => rw [hfault] at h; cases h
    | none =>
      cases hlines : r.encodedLines with
      | error run => rw [hfault, hlines] at h; cases h
      | ok lines =>
        rw [hfault, hlines] at h
        obtain rfl := Except.ok.inj h
        obtain ⟨hmethod, hversion, hheaders, rfl⟩ := encodedLines_eq_ok_iff.1 hlines
        exact ⟨⟨Codec.fault?_eq_none_iff.1 hfault, hmethod, hversion, hheaders⟩, rfl⟩
  · rintro ⟨⟨htarget, hmethod, hversion, hheaders⟩, rfl⟩
    rw [Codec.fault?_eq_none_iff.2 htarget,
      encodedLines_eq_ok_iff.2 ⟨hmethod, hversion, hheaders, rfl⟩]
    rfl

theorem Plain.encodable {r : Request} (h : r.Plain) (htarget : ∀ p ∈ r.target, p.isChar = true) :
    r.Encodable where
  target := htarget
  method := h.method.holds
  version := h.version.holds
  headers header hheader := by
    obtain ⟨hname, hvalue⟩ := h.headers header hheader
    exact List.forall_mem_append.2 ⟨hname.holds, hvalue.holds⟩

theorem oneLine_lines {r : Request} (h : r.Plain) : ∀ line ∈ r.lines, Bytes.OneLine line := by
  refine List.forall_mem_cons.2 ⟨(admits_line h).oneLine ?_, ?_⟩
  · exact List.append_ne_nil_of_right_ne_nil _ (List.cons_ne_nil _ _)
  · intro line hline
    obtain ⟨header, hheader, rfl⟩ := List.mem_map.1 hline
    obtain ⟨hname, hvalue⟩ := h.headers header hheader
    refine (admits_headerLine hname hvalue).oneLine ?_
    exact List.append_ne_nil_of_right_ne_nil _ (List.cons_ne_nil _ _)

/-- The line as a string: three words. -/
theorem string_line (r : Request) :
    r.line.string = s!"{r.method.string} {Percent.escape r.target.string} {r.version.string}" := by
  simp only [line, Text.string_append, Text.string_cons_char, Text.string_ofString, toString,
    String.append_assoc]
  rfl

/-- **What a client writes** is a message of one-line lines, and the first of them is the line of
the request. -/
theorem message_of_plain {r : Request} (h : r.Plain) {data : Bytes} (hdata : r.toBytes = .ok data) :
    ∃ first lines, data = Bytes.message (first :: lines) ∧
      CodePage.decodeLatin1 first = r.line.string ∧
      ∀ line ∈ first :: lines, Bytes.OneLine line := by
  obtain ⟨-, rfl⟩ := toBytes_eq_ok_iff.1 hdata
  exact ⟨_, _, rfl, Text.decodeLatin1_octets (admits_line h).latin, oneLine_lines h⟩

end Request

/-! ## 3. What a reader takes -/

namespace Socket

/-- The next replies to receptions hand over these parts, and `rest` are those after them. -/
structure Offers (s : Session) (parts : List Bytes) (rest : List (Reply Bytes)) : Prop where
  fresh : Fresh s
  replies : ∃ replies, s.socket.descriptor.script.recv = replies ++ rest ∧
    List.Forall₂ Reply.Hands replies parts

/-- The receptions that deliver these parts. -/
def receptions (n : Nat) (parts : List Bytes) : List Event :=
  parts.map fun part => reception n (.delivered part)

/-- **One part** is taken as it is handed over. -/
theorem read_of_hands {s : Session} {part : Bytes} {parts : List Bytes} {rest : List (Reply Bytes)}
    (h : Offers s (part :: parts) rest) :
    ∃ t, read readSize s = .ok part t ∧ Offers t parts rest ∧
      t.socket.descriptor.number = s.socket.descriptor.number ∧
      s.system.Noted t.system [reception s.socket.descriptor.number (.delivered part)] := by
  obtain ⟨hfresh, replies, hrecv, hhands⟩ := h
  cases hhands with
  | @cons r _ replies _ hfirst hrest =>
    have hbrings : (Reply.next s.socket.descriptor.script.recv).1.Brings
        (.part ⟨part, hfirst.filled, hfirst.fits⟩) := by
      rw [hrecv]
      exact .part hfirst
    obtain ⟨t, hread, hreceived⟩ := read_of_brings hfresh hbrings
    have hleft : t.socket.descriptor.script.recv = replies ++ rest := by
      rw [hreceived.recv, hrecv]
      rfl
    exact ⟨t, hread, ⟨hreceived.fresh, replies, hleft, hrest⟩, hreceived.number,
      hreceived.noted⟩

end Socket

namespace Responder

open Socket

/-- **All parts.** Induction on the parts: each but the last leaves something to come, so the octets
so far are not enough. -/
theorem collect_of_offers {data : Bytes} (hframed : Head.Framed data) {parts : List Bytes}
    {rest : List (Reply Bytes)} {s : Session} {sofar : Bytes} (hs : Offers s parts rest)
    (hdata : data = sofar ++ parts.flatten) :
    ∃ t, collect s sofar = .ok data t ∧ Offers t [] rest ∧
      s.system.Noted t.system (receptions s.socket.descriptor.number parts) := by
  induction parts generalizing s sofar with
  | nil =>
    have hcomplete : Head.isComplete sofar = true := (hframed _ _ hdata).2 rfl
    rw [collect, dif_pos hcomplete, hdata, List.flatten_nil, List.append_nil]
    exact ⟨s, rfl, hs, .refl _⟩
  | cons part parts ih =>
    obtain ⟨t, hread, ht, hnumber, hnoted⟩ := read_of_hands hs
    obtain ⟨-, replies, -, hhands⟩ := hs
    cases hhands with
    | cons hfirst _ =>
      have hshort : ¬ Head.isComplete sofar = true := by
        intro hcomplete
        have hnone := (hframed _ _ hdata).1 hcomplete
        rw [List.flatten_cons] at hnone
        exact hfirst.filled (List.append_eq_nil_iff.1 hnone).1
      rw [List.flatten_cons, ← List.append_assoc] at hdata
      obtain ⟨u, hcollect, hu, hnoted'⟩ := ih ht hdata
      refine ⟨u, ?_, hu, ?_⟩
      · rw [collect, dif_neg hshort, hread]
        cases part with
        | nil => exact absurd rfl hfirst.filled
        | cons b tail => exact hcollect
      · rw [hnumber] at hnoted'
        exact hnoted.trans hnoted'

theorem readRequest_of_offers {data : Bytes} (hframed : Head.Framed data) {parts : List Bytes}
    {rest : List (Reply Bytes)} {s : Session} (hs : Offers s parts rest)
    (hdata : parts.flatten = data) :
    ∃ t, readRequest s = .ok data t ∧ Offers t [] rest ∧
      s.system.Noted t.system (receptions s.socket.descriptor.number parts) := by
  have hfirst : data = [] ++ parts.flatten := hdata.symm
  exact collect_of_offers hframed hs hfirst

end Responder

/-! ## 4. The name of the peer -/

namespace Socket

/-- Nobody closes the socket while its peer is asked for. -/
structure Nameable (s : Session) : Prop where
  asked : ∀ r ∈ s.socket.descriptor.script.getpeername, r.closing = false
  described : ∀ m ∈ s.socket.descriptor.script.describe, m.closing = false

theorem addressOf_eq_ok {s t : Session} {a : Address} (hs : Nameable s)
    (h : addressOf .there s = .ok a t) : s.Aside t ∧ Nameable t := by
  obtain ⟨-, rfl⟩ := Session.call_ok (Reply.closing_next hs.asked) h
  refine ⟨Session.aside_settled Script.gentle_takeGetpeername, ?_⟩
  unfold Session.settled Session.replied Descriptor.reply
  split
  · exact ⟨hs.asked, hs.described⟩
  · exact ⟨fun r hr => hs.asked r (Reply.mem_of_mem_next hr), hs.described⟩

theorem describe_eq_ok {s t : Session} {a : Address} {names : String × String} (hs : Nameable s)
    (h : Session.outside Script.takeDescribe (System.describe a) s = .ok names t) :
    s.Aside t ∧ Nameable t := by
  rw [Session.outside_quiet (Interference.closing_next hs.described), System.describe_eq] at h
  cases hnamed : s.system.named a with
  | error f =>
    rw [hnamed] at h
    cases h
  | ok names' =>
    rw [hnamed] at h
    obtain ⟨-, rfl⟩ := EStateM.Result.ok.inj h
    exact ⟨Session.aside_apart Script.gentle_takeDescribe fun _ => System.mem_of_mem_nextOutcome,
      hs.asked, fun m hm => hs.described m (Interference.mem_of_mem_next hm)⟩

theorem nameOf_eq_ok {s t : Session} {name : String × Int} (hs : Nameable s)
    (h : nameOf .there s = .ok name t) : s.Aside t ∧ Nameable t := by
  obtain ⟨_, u, hopen, hnames⟩ := exists_of_bind_ok h
  have hu : s = u := by
    unfold requireOpen at hopen
    split at hopen
    · cases hopen
    · exact (EStateM.Result.ok.inj hopen).2
  subst hu
  obtain ⟨⟨host, service⟩, w, hguarded, hport⟩ := exists_of_bind_ok hnames
  have hw : w = t := by
    dsimp only at hport
    cases hread : Whole.read service with
    | ok port =>
      rw [hread] at hport
      exact (EStateM.Result.ok.inj hport).2
    | error why =>
      rw [hread] at hport
      cases hport
  subst hw
  obtain ⟨a, v, haddress, hdescribe⟩ := exists_of_bind_ok (ok_of_guarded hguarded)
  obtain ⟨haside, hv⟩ := addressOf_eq_ok hs haddress
  obtain ⟨haside', ht⟩ := describe_eq_ok hv hdescribe
  exact ⟨haside.trans haside', ht⟩

/-- **Naming the peer** leaves what is to be received as it was. -/
theorem endpoint_eq_ok {s t : Session} {client : String} (hs : Nameable s)
    (h : endpoint .there s = .ok client t) : s.Aside t := by
  obtain ⟨host, u, hhost, h⟩ := exists_of_bind_ok h
  obtain ⟨port, v, hport, h⟩ := exists_of_bind_ok h
  obtain ⟨name, u', hname, hrest⟩ := exists_of_bind_ok hhost
  obtain ⟨-, rfl⟩ := EStateM.Result.ok.inj hrest
  obtain ⟨name', v', hname', hrest⟩ := exists_of_bind_ok hport
  obtain ⟨-, rfl⟩ := EStateM.Result.ok.inj hrest
  obtain ⟨-, rfl⟩ := EStateM.Result.ok.inj h
  obtain ⟨haside, hu⟩ := nameOf_eq_ok hs hname
  exact haside.trans (nameOf_eq_ok hu hname').1

theorem Offers.of_aside {s t : Session} {parts : List Bytes} {rest : List (Reply Bytes)}
    (h : Offers s parts rest) (haside : s.Aside t) : Offers t parts rest := by
  obtain ⟨hfresh, replies, hrecv, hhands⟩ := h
  exact ⟨hfresh.of_aside haside, replies, haside.recv.trans hrecv, hhands⟩

end Socket

/-! ## 5. Both ends -/

namespace Responder

open Socket

theorem request?_of_offers {data : Bytes} (hframed : Head.Framed data) {parts : List Bytes}
    {rest : List (Reply Bytes)} {s u : Session} {client : String} (hs : Offers s parts rest)
    (hdata : parts.flatten = data) (hnameable : Nameable s)
    (hendpoint : endpoint .there s = .ok client u) : request? s = some data := by
  have haside : s.Aside (greeted client u) :=
    (endpoint_eq_ok hnameable hendpoint).trans (Session.Aside.say ..)
  obtain ⟨t, hread, -⟩ := readRequest_of_offers hframed (hs.of_aside haside) hdata
  exact request?_eq_some_iff.2 ⟨client, t, u, hendpoint, hread⟩

/-- **A request is framed.** Let every line of a request fit on one line; anything may be asked for.
It has octets if its target has a UTF-8 form. And if a responder takes as many,

* a reader to which they come in any parts takes these parts, gives the octets, and receives no
  more;
* a responder to whose connection they come so notes them, and with them the line of the request. -/
theorem request_framed {r : Request} (h : r.Plain) :
    ((∀ p ∈ r.target, p.isChar = true) → ∃ data, r.toBytes = .ok data) ∧
    ∀ data, r.toBytes = .ok data → data.length ≤ Head.maxLength →
      (∀ (s : Session) (parts : List Bytes) (rest : List (Reply Bytes)),
        Offers s parts rest → parts.flatten = data →
          ∃ t, readRequest s = .ok data t ∧ Offers t [] rest ∧
            s.system.Noted t.system (receptions s.socket.descriptor.number parts)) ∧
      ∀ (site : Site) (connection : Socket) (parts : List Bytes) (rest : List (Reply Bytes))
        (client : String) (u : Session),
        Offers ⟨connection, site.system⟩ parts rest → parts.flatten = data →
        Nameable ⟨connection, site.system⟩ →
        endpoint .there ⟨connection, site.system⟩ = .ok client u →
          (site.handle connection).responder.requests = site.responder.requests.push
              s!"{r.method.string} {Percent.escape r.target.string} {r.version.string}" ∧
            (site.handle connection).responder.received = site.responder.received.push data := by
  refine ⟨fun htarget => ⟨_, Request.toBytes_eq_ok_iff.2 ⟨h.encodable htarget, rfl⟩⟩,
    fun data hbytes hlength => ?_⟩
  obtain ⟨first, lines, rfl, hfirst, hlines⟩ := Request.message_of_plain h hbytes
  have hframed := Head.framed_message (List.cons_ne_nil _ _) hlines hlength
  have hline : Head.firstLine (Bytes.message (first :: lines)) = r.line.string := by
    rw [Head.firstLine_eq_line, Head.line_message (hlines first List.mem_cons_self), hfirst]
  constructor
  · intro s parts rest hs hdata
    exact readRequest_of_offers hframed hs hdata
  · intro site connection parts rest client u hs hdata hnameable hendpoint
    have hrequest := request?_of_offers hframed hs hdata hnameable hendpoint
    unfold Site.handle
    dsimp only
    rw [received_serve, hrequest]
    refine ⟨?_, rfl⟩
    rw [Option.map_some, hline, Request.string_line]
    rfl

/-- A request with a strange target and a header without a name. -/
def strange : Request := { method := "", target := "a\r\nb", headers := [("", "")] }

/-- Its octets, cut within the empty line. -/
def strangeParts : List Bytes :=
  [[32, 97, 37, 48, 68, 37, 48, 65, 98, 32, 72, 84, 84, 80, 47, 49, 46, 48, 13],
    [10, 58, 32, 13, 10, 13], [10]]

/-- A connection on which they come, and which stays open. -/
def strangeCaller : Socket where
  descriptor := { number := 4, peer := some ⟨"127.0.0.1", 50000, []⟩, script :=
    { recv := strangeParts.map fun part => { outcome := .value part } } }

theorem request_framed_strange :
    strange.Plain ∧ strange.toBytes = .ok strangeParts.flatten ∧
      Offers ⟨strangeCaller, {}⟩ strangeParts [] ∧
      ((⟨{}, {}⟩ : Site).handle strangeCaller).responder.requests = #[" a%0D%0Ab HTTP/1.0"] := by
  have hplain : strange.Plain := by decide
  have hbytes : strange.toBytes = .ok strangeParts.flatten := by decide +kernel
  have hoffers : Offers ⟨strangeCaller, {}⟩ strangeParts [] := by
    refine ⟨⟨rfl, rfl, rfl⟩, _, (List.append_nil _).symm, ?_⟩
    exact .cons ⟨rfl, rfl, by decide, by decide⟩ (.cons ⟨rfl, rfl, by decide, by decide⟩
      (.cons ⟨rfl, rfl, by decide, by decide⟩ .nil))
  have hframed := (request_framed hplain).2 _ hbytes (by decide)
  obtain ⟨hrequests, -⟩ := hframed.2 ⟨{}, {}⟩ strangeCaller strangeParts [] _ _
    hoffers rfl ⟨(fun _ h => nomatch h), fun _ h => nomatch h⟩ rfl
  exact ⟨hplain, hbytes, hoffers, hrequests⟩

end Responder

end HttpProbe
