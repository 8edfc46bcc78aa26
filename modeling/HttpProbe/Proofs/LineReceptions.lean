import HttpProbe.Proofs.Receptions
import HttpProbe.Proofs.SocketRuns

/-!
# What a read of a line receives and takes

A read of a line receives as often as it has to and then takes the line out of the buffer. Where
nobody closes the socket meanwhile, this file says both:

* `Needs`: the receptions. There are none when a line feed is in the buffer already or the stream
  has ended; else each but the last delivers octets without a line feed, and the last one delivers a
  line feed, or ends the stream, or fails (`Receptions`);
* `TakesLine`: the octets. What was in the buffer and what was received is what was taken and what
  is left; a line feed after the line is taken with it, and a read that fails takes nothing;
* **`reads_readRaw`**: every read of a line is of this kind, by induction on its receptions;
* `readsText_readLine`: so is the read of its text.
-/

namespace HttpProbe

/-- The octets that the events delivered. -/
def Event.octets (es : List Event) : Bytes := es.flatMap Event.delivered

theorem Event.octets_append (es fs : List Event) : octets (es ++ fs) = octets es ++ octets fs :=
  List.flatMap_append

namespace Socket

/-! ## 1. Receptions of one line -/

/-- A reception for a line on the descriptor of number `n`. -/
def reception (n : Nat) (answer : Answer) : Event := .called (.on n (.recv readSize)) answer

/-- The receptions of one line: they go on up to the first line feed, the end of the stream or the
first failure. -/
inductive Receptions (n : Nat) : List Event → Option SystemFailure → Prop where
  | last {data : Bytes} (h : data = [] ∨ Bytes.lineFeed ∈ data) :
    Receptions n [reception n (.delivered data)] none
  | failed {f : SystemFailure} : Receptions n [reception n (.failed f)] (some f)
  | more {data : Bytes} {es : List Event} {failure : Option SystemFailure} (hne : data ≠ [])
      (hline : Bytes.lineFeed ∉ data) (h : Receptions n es failure) :
    Receptions n (reception n (.delivered data) :: es) failure

/-- The receptions that a read of a line needs: none for a line that is there, or when no octets
will come any more. -/
inductive Needs (s : Session) : List Event → Option SystemFailure → Prop where
  | nothing (h : Bytes.lineFeed ∈ s.socket.buffer ∨ s.socket.ended = true) : Needs s [] none
  | receptions {es : List Event} {failure : Option SystemFailure}
      (hline : Bytes.lineFeed ∉ s.socket.buffer) (hended : s.socket.ended = false)
      (h : Receptions s.socket.descriptor.number es failure) : Needs s es failure

/-! ## 2. The octets of one line -/

/-- What a read of a line takes, when the events `es` delivered octets to it: the octets before the
next line feed and the line feed; all octets if the stream ends before; none if it fails. -/
inductive TakesLine (s : Session) (es : List Event) :
    Option SystemFailure → EStateM.Result Failure Session Bytes → Prop where
  | fed {line : Bytes} {t : Session} (hline : Bytes.lineFeed ∉ line)
      (hbuf : s.socket.buffer ++ Event.octets es = line ++ Bytes.lineFeed :: t.socket.buffer) :
    TakesLine s es none (.ok line t)
  | ended {line : Bytes} {t : Session} (hline : Bytes.lineFeed ∉ line)
      (hbuf : s.socket.buffer ++ Event.octets es = line) (hrest : t.socket.buffer = [])
      (hended : t.socket.ended = true) : TakesLine s es none (.ok line t)
  | failed {f : SystemFailure} {e : Failure} {t : Session}
      (he : e = .net (if s.socket.closed then .closed "receive" else .ofSystem f))
      (hbuf : s.socket.buffer ++ Event.octets es = t.socket.buffer) :
    TakesLine s es (some f) (.error e t)

/-- A read of a line from `s` that comes to `r`: what it noted, received and took. Only an open
descriptor uses a failure up to fail. -/
structure Reads (s : Session) (es : List Event) (failure : Option SystemFailure)
    (r : EStateM.Result Failure Session Bytes) : Prop where
  noted : s.system.Noted (after r).system es
  keeps : s.Keeps (after r)
  needs : Needs s es failure
  takes : TakesLine s es failure r
  coming : coming s = Event.octets es ++ coming (after r)
  failing : s.socket.descriptor.dead = false →
    failing (after r) + failure.toList.length ≤ failing s

theorem octets_cons_delivered (n : Nat) (data : Bytes) (es : List Event) :
    Event.octets (reception n (.delivered data) :: es) = data ++ Event.octets es := by
  rw [Event.octets, List.flatMap_cons]
  rfl

/-! ## 3. One reception more -/

section More

variable {s t : Session} {data : Bytes} {es : List Event} {failure : Option SystemFailure}
  {r : EStateM.Result Failure Session Bytes}

/-- The session when what was received stands in the buffer. -/
def stored (t : Session) (data : Bytes) : Session :=
  { t with socket.buffer := t.socket.buffer ++ data }

theorem needs_more (hline : Bytes.lineFeed ∉ s.socket.buffer) (hended : s.socket.ended = false)
    (hd : Delivers s readSize data t) (h : Needs (stored t data) es failure) :
    Needs s (reception s.socket.descriptor.number (.delivered data) :: es) failure := by
  have hend : t.socket.ended = data.isEmpty := by rw [hd.ended, hended, Bool.false_or]
  have hmem : Bytes.lineFeed ∈ t.socket.buffer ++ data ↔ Bytes.lineFeed ∈ data := by
    rw [hd.buffer, List.mem_append]
    exact or_iff_right hline
  refine .receptions hline hended ?_
  cases h with
  | nothing h =>
    refine .last ?_
    rcases h with h | h
    · exact .inr (hmem.1 h)
    · have hempty : data.isEmpty = true := hend.symm.trans h
      exact .inl (List.isEmpty_iff.1 hempty)
  | receptions hline' hended' h =>
    have hempty : data.isEmpty = false := hend.symm.trans hended'
    have hnumber : (stored t data).socket.descriptor.number = s.socket.descriptor.number :=
      hd.keeps.number
    refine .more (fun e => ?_) (fun e => hline' (hmem.2 e)) (hnumber ▸ h)
    rw [e] at hempty
    exact absurd hempty (by decide)

theorem takesLine_more (hd : Delivers s readSize data t)
    (h : TakesLine (stored t data) es failure r) :
    TakesLine s (reception s.socket.descriptor.number (.delivered data) :: es) failure r := by
  have hbuffer : s.socket.buffer
      ++ Event.octets (reception s.socket.descriptor.number (.delivered data) :: es)
      = (stored t data).socket.buffer ++ Event.octets es := by
    show _ = t.socket.buffer ++ data ++ Event.octets es
    rw [octets_cons_delivered, hd.buffer, List.append_assoc]
  cases h with
  | fed hline hbuf => exact .fed hline (hbuffer.trans hbuf)
  | ended hline hbuf hrest hended => exact .ended hline (hbuffer.trans hbuf) hrest hended
  | failed he hbuf =>
    have hclosed : (stored t data).socket.closed = s.socket.closed := hd.keeps.closed
    rw [hclosed] at he
    exact .failed he (hbuffer.trans hbuf)

theorem reads_more (hline : Bytes.lineFeed ∉ s.socket.buffer) (hended : s.socket.ended = false)
    (hd : Delivers s readSize data t) (h : Reads (stored t data) es failure r) :
    Reads s (reception s.socket.descriptor.number (.delivered data) :: es) failure r where
  noted := hd.noted.trans h.noted
  keeps := hd.keeps.trans ⟨h.keeps.closed, h.keeps.number, h.keeps.dead, h.keeps.quiet⟩
  needs := needs_more hline hended hd h.needs
  takes := takesLine_more hd h.takes
  coming := by
    have hrest : coming t = Event.octets es ++ coming (after r) := h.coming
    rw [octets_cons_delivered, hd.coming (by decide) hended, hrest, List.append_assoc]
  failing := fun hs => by
    have hfirst : failing t ≤ failing s := hd.failing (by decide)
    have hrest : failing (after r) + failure.toList.length ≤ failing t :=
      h.failing (hd.keeps.dead.trans hs)
    exact Nat.le_trans hrest hfirst

end More

/-! ## 4. The whole read -/

/-- **Every read of a line receives what it needs and takes one line.** -/
theorem reads_readRaw {s : Session} (hq : s.socket.descriptor.script.Quiet) :
    ∃ es failure, Reads s es failure (readRaw s) := by
  fun_induction readRaw s with
  | case1 s line rest hcut =>
    obtain ⟨hbuf, hline⟩ := Bytes.cut?_eq_some hcut
    have hmem : Bytes.lineFeed ∈ s.socket.buffer := by
      rw [hbuf]
      exact List.mem_append_right _ List.mem_cons_self
    exact ⟨[], none, .refl _, ⟨rfl, rfl, rfl, id⟩, .nothing (.inl hmem),
      .fed hline ((List.append_nil _).trans hbuf), rfl, fun _ => Nat.le_refl _⟩
  | case2 s hcut hended =>
    exact ⟨[], none, .refl _, ⟨rfl, rfl, rfl, id⟩, .nothing (.inr hended),
      .ended (Bytes.cut?_eq_none_iff.1 hcut) (List.append_nil _) rfl hended, rfl,
      fun _ => Nat.le_refl _⟩
  | case3 s hcut hended e t hrecv =>
    obtain ⟨f, rfl, hr⟩ := receive_error hq hrecv
    have hbuf : s.socket.buffer ++ [] = t.socket.buffer :=
      (List.append_nil _).trans hr.called.buffer.symm
    exact ⟨[_], some f, hr.called.noted, hr.called.keeps,
      .receptions (Bytes.cut?_eq_none_iff.1 hcut) (eq_false_of_ne_true hended) .failed,
      .failed rfl hbuf, (hr.coming (by decide)).symm, hr.failing (by decide)⟩
  | case4 s hcut hended data t hrecv ih =>
    have hd := receive_ok hq hrecv
    obtain ⟨es, failure, h⟩ := ih (hd.keeps.quiet hq)
    exact ⟨_, failure, reads_more (Bytes.cut?_eq_none_iff.1 hcut)
      (eq_false_of_ne_true hended) hd h⟩

/-! ## 5. The text of a line -/

/-- A read of a line that comes to the text of what it took, or fails as a reception did. -/
inductive ReadsText (s : Session) (es : List Event) :
    Option SystemFailure → EStateM.Result Failure Session String → Prop where
  | line {raw : Bytes} {t : Session} (h : Reads s es none (.ok raw t)) :
    ReadsText s es none (.ok (Utf8.decode raw) t)
  | failed {f : SystemFailure} {t : Session}
      (h : Reads s es (some f) (.error (.net (.ofSystem f)) t)) :
    ReadsText s es (some f) (.error (.net (.ofSystem f)) t)

/-- What is said of a line takes nothing more. -/
theorem Reads.say {s t : Session} {es : List Event} {failure : Option SystemFailure} {raw : Bytes}
    (h : Reads s es failure (.ok raw t)) (level : Log.Level) (source : Log.Source)
    (message : String) : Reads s es failure (.ok raw (t.say level source message)) where
  noted := h.noted
  keeps := ⟨h.keeps.closed, h.keeps.number, h.keeps.dead, h.keeps.quiet⟩
  needs := h.needs
  takes := by
    cases h.takes with
    | fed hline hbuf => exact .fed hline hbuf
    | ended hline hbuf hrest hended => exact .ended hline hbuf hrest hended
  coming := h.coming
  failing := h.failing

theorem readsText_readLine {s : Session} (hopen : s.socket.closed = false)
    (hq : s.socket.descriptor.script.Quiet) :
    ∃ es failure, ReadsText s es failure (readLine s) := by
  obtain ⟨es, failure, hr⟩ := reads_readRaw hq
  refine ⟨es, failure, ?_⟩
  cases hraw : readRaw s with
  | error e t =>
    rw [hraw] at hr
    rw [readLine_of_error hopen hraw]
    cases hr.takes with
    | failed he _ =>
      rw [hopen] at he
      subst he
      exact .failed hr
  | ok raw t =>
    rw [hraw] at hr
    rw [readLine_of_ok hopen hraw]
    cases hr.takes with
    | fed _ _ => exact .line (hr.say ..)
    | ended _ _ _ _ => exact .line (hr.say ..)

end Socket

end HttpProbe
