import Mathlib.Algebra.GroupWithZero.Nat
import Mathlib.Data.List.Forall2
import HttpProbe.Proofs.Lines

/-!
# Lines from one stream to another

A writer sends lines, each by one call, and a reader reads them off another stream. The wire between
them carries octets, and it may cut them anywhere, also in the middle of a character. This file says
that the reader gets the lines that were written:

* `Payload.Carries`: a text can be handed over as it is or as its octets;
* `Sends`: a stream that takes what is written; `sends_writeLine`, one line, and `sends_writeLines`,
  any number of them;
* `Receives`: a stream to which parts come, and then the end; `Receives.left`, `Receives.failing`;
* `Utf8.lines_wire`: octets of lines, each with a line feed after it, are cut into these lines;
* `readLines_eq_of_left`: where no reception fails, each read gives a line;
* **`lines_delivered`**: from the texts that are written to the texts that are read.
-/

namespace HttpProbe

/-! ## 1. The wire -/

/-- What a text is handed over as: itself, or its octets. -/
inductive Payload.Carries : Payload → String → Prop where
  | text (text : String) : Carries (.text text) text
  | octets (text : String) : Carries (.octets (Utf8.encode text)) text

theorem Payload.Carries.toBytes {payload : Payload} {text : String} (h : payload.Carries text) :
    payload.toBytes = .ok (Utf8.encode text) := by
  cases h with
  | text text => exact toBytes_text text
  | octets text => rfl

namespace Utf8

/-- The octets of a text with a line feed after them. -/
def wireLine (text : String) : Bytes := encode text ++ [Bytes.lineFeed]

/-- **Lines on the wire** are cut where they were joined: no octet of a text is a line feed unless
the text has one. After the last line feed stands nothing. -/
theorem lines_wire {texts : List String} (h : ∀ text ∈ texts, '\n' ∉ text.toList) :
    lines (texts.map wireLine).flatten = texts ++ [""] := by
  induction texts with
  | nil => rfl
  | cons text texts ih =>
    have hfeed : Bytes.lineFeed ∉ encode text := by
      intro hmem
      exact h text List.mem_cons_self (lineFeed_mem_of_mem_encode hmem)
    have hrest : ∀ text ∈ texts, '\n' ∉ text.toList := by
      intro other hother
      exact h other (List.mem_cons_of_mem _ hother)
    have hsplit : ((text :: texts).map wireLine).flatten
        = encode text ++ Bytes.lineFeed :: (texts.map wireLine).flatten := by
      simp [wireLine]
    rw [hsplit, lines_append_lineFeed hfeed, decode_encode, ih hrest]
    rfl

end Utf8

namespace Socket

/-! ## 2. The writer -/

/-- The stream is open and takes everything that is written, and nobody closes it meanwhile. -/
structure Sends (s : Session) : Prop where
  isOpen : s.socket.closed = false
  alive : s.socket.descriptor.dead = false
  quiet : ∀ r ∈ s.socket.descriptor.script.sendAll, r.closing = false
  takes : ∀ r ∈ s.socket.descriptor.script.sendAll, r.fails = false

/-- The call that sends all octets of `data`. -/
def sending (n : Nat) (data : Bytes) : Event := .called (.on n (.sendAll data)) .done

section Writer

variable {s : Session}

/-- What was written is sent by one call, and the stream takes more. -/
theorem Sends.act (hs : Sends s) (data : Bytes) :
    ∃ t, Session.act (.sendAll data) Script.takeSendAll s = .ok () t ∧ Sends t ∧
      t.socket.descriptor.number = s.socket.descriptor.number ∧
      s.system.Noted t.system [sending s.socket.descriptor.number data] := by
  have hclosing : (Script.takeSendAll s.socket.descriptor.script).1.closing = false :=
    Reply.closing_next hs.quiet
  cases hact : Session.act (.sendAll data) Script.takeSendAll s with
  | error f t =>
    obtain ⟨hresult, -⟩ := Session.call_error hclosing hact
    rcases Session.reply_error hs.alive hresult with houtcome | ⟨-, husual⟩
    · obtain ⟨r, hr, hfailure⟩ := Reply.mem_of_next_failure houtcome
      have htakes := hs.takes r hr
      simp [Reply.fails, hfailure] at htakes
    · cases husual
  | ok _ t =>
    obtain ⟨-, rfl⟩ := Session.call_ok hclosing hact
    have hnumber := s.socket.descriptor.number_reply Script.takeSendAll fun _ => .ok ()
    have hscript : (s.socket.descriptor.reply Script.takeSendAll fun _ => .ok ()).descriptor.script
        = s.socket.descriptor.script.takeSendAll.2 := Descriptor.script_reply hs.alive
    have hc : s.Called (.sendAll data) .done (s.settled (.sendAll data) .done
        (s.socket.descriptor.reply Script.takeSendAll fun _ => .ok ())) :=
      Session.called_settled _ .takeSendAll
    have hqueue : ∀ r ∈ (s.socket.descriptor.reply Script.takeSendAll
        fun _ => .ok ()).descriptor.script.sendAll, r ∈ s.socket.descriptor.script.sendAll := by
      intro r hr
      rw [hscript] at hr
      exact Reply.mem_of_mem_next hr
    refine ⟨_, rfl, ⟨hs.isOpen, hc.keeps.dead.trans hs.alive, ?_, ?_⟩, hnumber, hc.noted⟩
    · intro r hr
      exact hs.quiet r (hqueue r hr)
    · intro r hr
      exact hs.takes r (hqueue r hr)

/-- **One line** is sent by one call, with a line feed after it, and its octets are counted. -/
theorem sends_writeLine (hs : Sends s) {payload : Payload} {text : String}
    (h : payload.Carries text) :
    ∃ t, writeLine payload s = .ok (Utf8.wireLine text).length t ∧ Sends t ∧
      t.socket.descriptor.number = s.socket.descriptor.number ∧
      s.system.Noted t.system [sending s.socket.descriptor.number (Utf8.wireLine text)] := by
  obtain ⟨t, hact, ht, hnumber, hnoted⟩ := hs.act (Utf8.wireLine text)
  have hwrite : writeLine payload s = transmit (Utf8.wireLine text) s :=
    (writeLine_of_ok h.toBytes).trans (write_octets hs.isOpen)
  rw [hwrite, transmit_of_ok hact]
  exact ⟨_, rfl, ⟨ht.isOpen, ht.alive, ht.quiet, ht.takes⟩, hnumber, hnoted⟩

/-- **Lines** are sent one after the other. -/
theorem sends_writeLines {payloads : List Payload} {texts : List String}
    (h : List.Forall₂ Payload.Carries payloads texts) (hs : Sends s) :
    ∃ t, payloads.mapM writeLine s
        = .ok ((texts.map Utf8.wireLine).map List.length) t ∧
      s.system.Noted t.system
        ((texts.map Utf8.wireLine).map (sending s.socket.descriptor.number)) := by
  induction h generalizing s with
  | nil => exact ⟨s, rfl, .refl _⟩
  | @cons payload text payloads texts hfirst _ ih =>
    obtain ⟨t, hwrite, ht, hnumber, hnoted⟩ := sends_writeLine hs hfirst
    obtain ⟨u, hrest, hnoted'⟩ := ih ht
    refine ⟨u, ?_, ?_⟩
    · rw [List.mapM_cons, bind_of_ok hwrite, bind_of_ok hrest]
      rfl
    · rw [hnumber] at hnoted'
      exact hnoted.trans hnoted'

end Writer

/-! ## 3. The reader -/

/-- The parts come to an open stream on which nothing came yet, one after the other, and then the
end of the stream; nobody closes it meanwhile. -/
structure Receives (s : Session) (parts : List Bytes) : Prop where
  usable : s.Usable
  buffer : s.socket.buffer = []
  goesOn : s.socket.ended = false
  recv : ∃ ends : List (Reply Bytes), (∀ r ∈ ends, r.outcome = .usual ∨ r.outcome = .value []) ∧
    s.socket.descriptor.script.recv = parts.map (fun part => { outcome := .value part }) ++ ends

section Reader

variable {s : Session} {parts : List Bytes}

theorem sent_of_ends {ends : List (Reply Bytes)}
    (h : ∀ r ∈ ends, r.outcome = .usual ∨ r.outcome = .value []) : Script.sent ends = [] := by
  cases ends with
  | nil => rfl
  | cons r rest =>
    rcases h r List.mem_cons_self with hr | hr
    · exact Script.sent_of_usual hr
    · exact Script.sent_of_nothing hr

theorem sent_of_parts (hne : ∀ part ∈ parts, part ≠ []) {ends : List (Reply Bytes)}
    (hends : Script.sent ends = []) :
    Script.sent (parts.map (fun part => { outcome := .value part }) ++ ends) = parts.flatten := by
  induction parts with
  | nil => exact hends
  | cons part parts ih =>
    have hrest : ∀ part ∈ parts, part ≠ [] := by
      intro other hother
      exact hne other (List.mem_cons_of_mem _ hother)
    rw [List.map_cons, List.cons_append, Script.sent_of_value rfl (hne part List.mem_cons_self),
      ih hrest, List.flatten_cons]

/-- What is left to read are the parts, joined. -/
theorem Receives.left (h : Receives s parts) (hne : ∀ part ∈ parts, part ≠ []) :
    left s = parts.flatten := by
  obtain ⟨ends, hends, hrecv⟩ := h.recv
  rw [Socket.left, h.buffer, coming_of_not_ended h.goesOn, hrecv,
    sent_of_parts hne (sent_of_ends hends), List.nil_append]

/-- No reception fails. -/
theorem Receives.failing (h : Receives s parts) : failing s = 0 := by
  obtain ⟨ends, hends, hrecv⟩ := h.recv
  rw [Socket.failing, hrecv, List.countP_eq_zero]
  intro r hr
  rcases List.mem_append.1 hr with hr | hr
  · obtain ⟨part, -, rfl⟩ := List.mem_map.1 hr
    simp [Reply.fails]
  · rcases hends r hr with hout | hout <;> simp [Reply.fails, hout]

theorem length_readLines_le (s : Session) (n : Nat) : (readLines s n).1.length ≤ n := by
  induction n generalizing s with
  | zero => exact Nat.le_refl _
  | succ n ih =>
    unfold readLines
    cases readLine s with
    | ok text t => simpa using ih t
    | error e t => exact Nat.le_succ_of_le (ih t)

/-- **Where no reception fails** every read gives a text: the lines of what is left, in order, and
then empty texts. -/
theorem readLines_eq_of_left (hs : s.Usable) (hfails : failing s = 0) (n : Nat) :
    (readLines s n).1 = (Utf8.lines (left s) ++ List.replicate n "").take n := by
  obtain ⟨-, -, hstart, hcount⟩ := owes_readLines n hs .lines
  have hlength : (readLines s n).1.length = n := by
    have hle := length_readLines_le s n
    omega
  rw [List.prefix_iff_eq_take, hlength] at hstart
  exact hstart

end Reader

/-! ## 4. From one end to the other -/

/-- **Lines are delivered.** Let texts without a line feed be written as lines, each as a text or as
its octets, on a stream that takes them. Then

* every line is sent by one call, as the octets of its text and a line feed;
* the writes tell how many octets went over the wire, all in all;
* a reader to which these octets come, cut into parts in any way, reads the same texts in the same
  order, and after the last one empty texts.

Whether a text or its octets are written makes no difference, on any stream. -/
theorem lines_delivered {texts : List String} {payloads : List Payload} {s : Session}
    (hfeed : ∀ text ∈ texts, '\n' ∉ text.toList)
    (hpayloads : List.Forall₂ Payload.Carries payloads texts) (hs : Sends s) :
    (∃ counts t sent, payloads.mapM writeLine s = .ok counts t ∧
      s.system.Noted t.system (sent.map (sending s.socket.descriptor.number)) ∧
      sent = texts.map (fun text => Utf8.encode text ++ [Bytes.lineFeed]) ∧
      counts.sum = sent.flatten.length ∧
      ∀ (r : Session) (parts : List Bytes), Receives r parts → (∀ part ∈ parts, part ≠ []) →
        parts.flatten = sent.flatten →
        ∀ k, (readLines r (texts.length + k)).1 = texts ++ List.replicate k "") ∧
    ∀ text : String, writeLine (.text text) = writeLine (.octets (Utf8.encode text)) := by
  obtain ⟨t, hwrites, hnoted⟩ := sends_writeLines hpayloads hs
  refine ⟨⟨_, t, texts.map Utf8.wireLine, hwrites, hnoted, rfl, ?_, ?_⟩, fun text => ?_⟩
  · rw [List.length_flatten]
  · intro r parts hr hne hwire k
    have htexts : texts.take (texts.length + k) = texts := List.take_of_length_le (by omega)
    have hempty : min k (texts.length + k + 1) = k := Nat.min_eq_left (by omega)
    rw [readLines_eq_of_left hr.usable hr.failing, hr.left hne, hwire, Utf8.lines_wire hfeed,
      List.append_assoc]
    simp [List.take_append, ← List.replicate_succ, htexts, hempty]
  · funext u
    rw [writeLine_of_ok (Payload.toBytes_text text), writeLine_of_ok rfl]

/-- A line that ends with a carriage return, an empty one, and one that is written as octets. -/
def foreignLines : List String := ["é\r", "", "ж"]

/-- A reader to which they come, cut within both of the characters that are two octets long. -/
def foreignReader : Session where
  socket := { descriptor := { number := 3, script := { recv :=
    [{ outcome := .value [0xC3] }, { outcome := .value [0xA9, 13, 10, 10, 0xD0] },
      { outcome := .value [0xB6, 10] }, { outcome := .value [] }] } } }
  system := {}

theorem lines_delivered_foreign :
    (∀ text ∈ foreignLines, '\n' ∉ text.toList) ∧
      Receives foreignReader [[0xC3], [0xA9, 13, 10, 10, 0xD0], [0xB6, 10]] ∧
      ∃ counts t, [Payload.text "é\r", .text "", .octets [0xD0, 0xB6]].mapM writeLine
          { socket := { descriptor := { number := 4 } }, system := {} } = .ok counts t ∧
        counts.sum = 8 ∧ (readLines foreignReader 5).1 = ["é\r", "", "ж", "", ""] := by
  have hfeed : ∀ text ∈ foreignLines, '\n' ∉ text.toList := by decide
  have hpayloads : List.Forall₂ Payload.Carries
      [.text "é\r", .text "", .octets [0xD0, 0xB6]] foreignLines :=
    .cons (.text _) (.cons (.text _) (.cons (.octets "ж") .nil))
  have hs : Sends { socket := { descriptor := { number := 4 } }, system := {} } :=
    ⟨rfl, rfl, (fun r hr => nomatch hr), fun r hr => nomatch hr⟩
  have hr : Receives foreignReader [[0xC3], [0xA9, 13, 10, 10, 0xD0], [0xB6, 10]] :=
    ⟨⟨rfl, rfl, by decide⟩, rfl, rfl,
      [{ outcome := .value [] }], by simp, rfl⟩
  obtain ⟨⟨counts, t, sent, hwrites, -, rfl, hcounts, hread⟩, -⟩ :=
    lines_delivered hfeed hpayloads hs
  refine ⟨hfeed, hr, counts, t, hwrites, hcounts, ?_⟩
  exact hread foreignReader _ hr (by decide) rfl 2

end Socket

end HttpProbe
