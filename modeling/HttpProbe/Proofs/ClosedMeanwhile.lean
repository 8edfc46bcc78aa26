import HttpProbe.Proofs.Confinement

/-!
# A line during which another thread closes the socket

Another thread may close the socket during any reception of a line. The closing drops what was
received before, and the reception goes on. This file says what the read then comes to:

* `Reception`: a reception is noted alone, or it is noted together with a closing that leaves the
  socket closed and its buffer empty (`receives`);
* `readRaw_of_dropped`: a read goes on with what this reception delivered, and receives no more;
* `Interrupted`: the calls of a read up to the reception during which the socket is closed, and
  `afterClosing`: what the read comes to, told from this one reception alone;
* **`readLine_closedMeanwhile`**: so a read that held nothing when the socket was closed is refused
  or gives a whole line. What a read held before is missing from its line (`readLine_torn`).
-/

namespace HttpProbe

namespace Socket

/-! ## 1. One reception -/

/-- The failure of a reception on a socket that is closed by now. -/
abbrev closedError : Failure := .net (.closed "receive")

/-- What a reception for a line comes to. Another thread may have closed the socket meanwhile. -/
inductive Reception (s : Session) :
    List Event → EStateM.Result Failure Session Bytes → Prop where
  | delivered {data : Bytes} {t : Session}
      (hnoted : s.system.Noted t.system [reception s.socket.descriptor.number (.delivered data)])
      (hnumber : t.socket.descriptor.number = s.socket.descriptor.number)
      (hbuffer : t.socket.buffer = s.socket.buffer)
      (hended : t.socket.ended = (s.socket.ended || data.isEmpty)) :
    Reception s [reception s.socket.descriptor.number (.delivered data)] (.ok data t)
  | failed {f : SystemFailure} {e : Failure} {t : Session}
      (hnoted : s.system.Noted t.system [reception s.socket.descriptor.number (.failed f)]) :
    Reception s [reception s.socket.descriptor.number (.failed f)] (.error e t)
  | closed {data : Bytes} {answer : Answer} {t : Session}
      (hanswer : ∀ c, (Event.called c answer).delivered = [])
      (hnoted : s.system.Noted t.system [reception s.socket.descriptor.number (.delivered data),
        .called (.on s.socket.descriptor.number .close) answer])
      (hnumber : t.socket.descriptor.number = s.socket.descriptor.number)
      (hdropped : Dropped t) (hended : t.socket.ended = (s.socket.ended || data.isEmpty)) :
    Reception s [reception s.socket.descriptor.number (.delivered data),
        .called (.on s.socket.descriptor.number .close) answer] (.ok data t)
  | refused {f : SystemFailure} {answer : Answer} {t : Session}
      (hanswer : ∀ c, (Event.called c answer).delivered = [])
      (hnoted : s.system.Noted t.system [reception s.socket.descriptor.number (.failed f),
        .called (.on s.socket.descriptor.number .close) answer]) :
    Reception s [reception s.socket.descriptor.number (.failed f),
        .called (.on s.socket.descriptor.number .close) answer] (.error closedError t)

theorem receives (s : Session) : ∃ es, Reception s es (receive readSize s) := by
  have hcases := afterCall_cases (Script.takeRecv readSize) (.recv readSize) (fun _ => .ok [])
  unfold receive
  cases hcall : Session.call (.recv readSize) (Script.takeRecv readSize) (fun _ => .ok [])
      .delivered s with
  | error f t =>
    obtain ⟨-, rfl⟩ := Session.call_eq_error_iff.1 hcall
    obtain ⟨-, -, ⟨hnoted, -⟩ | ⟨-, closing, hanswer, hnoted, hdropped⟩⟩ := hcases (.failed f) s
    · exact ⟨_, .failed hnoted⟩
    · dsimp only
      rw [if_pos hdropped.closed]
      exact ⟨_, .refused hanswer hnoted⟩
  | ok data t =>
    obtain ⟨-, rfl⟩ := Session.call_eq_ok_iff.1 hcall
    obtain ⟨hnumber, hended, hnoted⟩ := hcases (.delivered data) s
    -- The end of the stream is marked after the call, which leaves the rest as it is.
    cases data with
    | nil =>
      have hended : true = (s.socket.ended || List.isEmpty ([] : Bytes)) := (Bool.or_true _).symm
      rcases hnoted with ⟨hnoted, hbuffer, -⟩ | ⟨-, closing, hanswer, hnoted, hdropped⟩
      · exact ⟨_, .delivered hnoted hnumber hbuffer hended⟩
      · exact ⟨_, .closed hanswer hnoted hnumber
          ⟨hdropped.closed, hdropped.dead, hdropped.buffer⟩ hended⟩
    | cons b rest =>
      have hended := hended.trans (Bool.or_false s.socket.ended).symm
      rcases hnoted with ⟨hnoted, hbuffer, -⟩ | ⟨-, closing, hanswer, hnoted, hdropped⟩
      · exact ⟨_, .delivered hnoted hnumber hbuffer hended⟩
      · exact ⟨_, .closed hanswer hnoted hnumber hdropped hended⟩

/-! ## 2. What is read after the closing -/

/-- What a read comes to, told from what the reception delivered during which the socket was closed.
The octets up to the first line feed are the line, and no octets are the end of the stream. Else the
read is refused. -/
def afterClosing : Answer → Except Failure Bytes
  | .delivered data =>
    if data = [] ∨ Bytes.lineFeed ∈ data then .ok (Bytes.firstLine data) else .error closedError
  | _ => .error closedError

/-- A reception on a socket that was closed is refused. -/
theorem receive_of_dead {s : Session} (hclosed : s.socket.closed = true)
    (hdead : s.socket.descriptor.dead = true) :
    ∃ t, receive readSize s = .error closedError t ∧ s.system.Noted t.system
      [reception s.socket.descriptor.number (.failed .badDescriptor)] := by
  have hsame : ∀ r : Descriptor.Response Bytes, r.closing = false →
      (s.afterCall (.recv readSize) (.failed .badDescriptor) r).socket.closed = true :=
    fun r hr => by
      rw [Session.afterCall_of_not_closing hr]
      exact hclosed
  unfold receive Session.call
  dsimp only
  rw [Descriptor.reply_of_dead hdead]
  dsimp only
  rw [hsame _ rfl]
  exact ⟨_, rfl, System.Noted.note ..⟩

/-- A read on a socket that was closed gives what is there, and is refused if that is no line. -/
theorem readRaw_of_dropped {t : Session} {data : Bytes} (hdropped : Dropped t)
    (hended : t.socket.ended = data.isEmpty) :
    ∃ rest, t.system.Noted (after (readRaw (stored t data))).system rest ∧
      (∀ e ∈ rest, e = reception t.socket.descriptor.number (.failed .badDescriptor)) ∧
      outcome (readRaw (stored t data)) = afterClosing (.delivered data) := by
  have hbuffer : (stored t data).socket.buffer = data := by
    show t.socket.buffer ++ data = data
    rw [hdropped.buffer, List.nil_append]
  rw [readRaw, hbuffer]
  cases hcut : Bytes.cut? Bytes.lineFeed data with
  | some parts =>
    obtain ⟨line, rest⟩ := parts
    obtain ⟨hdata, hline⟩ := Bytes.cut?_eq_some hcut
    have hmem : Bytes.lineFeed ∈ data := by
      rw [hdata]
      exact List.mem_append_right _ List.mem_cons_self
    refine ⟨[], .refl _, (fun _ h => absurd h List.not_mem_nil), ?_⟩
    rw [afterClosing, if_pos (.inr hmem)]
    show Except.ok line = _
    rw [hdata, Bytes.firstLine_append_lineFeed hline]
  | none =>
    have hmem : Bytes.lineFeed ∉ data := Bytes.cut?_eq_none_iff.1 hcut
    have hclosed : (stored t data).socket.closed = true := hdropped.closed
    obtain ⟨u, hreceive, hnoted⟩ := receive_of_dead hclosed hdropped.dead
    dsimp only
    split
    · rename_i hend
      have hempty : data = [] := List.isEmpty_iff.1 (hended.symm.trans hend)
      refine ⟨[], .refl _, (fun _ h => absurd h List.not_mem_nil), ?_⟩
      rw [afterClosing, if_pos (.inl hempty), hempty]
      rfl
    · rename_i hend
      have hne : data ≠ [] := fun h => hend (hended.trans (List.isEmpty_iff.2 h))
      split
      · rename_i e v hv
        obtain ⟨rfl, rfl⟩ := EStateM.Result.error.inj (hv.symm.trans hreceive)
        refine ⟨_, hnoted, fun e he => List.mem_singleton.1 he, ?_⟩
        rw [afterClosing, if_neg (not_or.2 ⟨hne, hmem⟩)]
        rfl
      · rename_i v hv
        cases hv.symm.trans hreceive

/-! ## 3. The whole read -/

/-- The calls `es` of a read are receptions that delivered octets (`before`), one with this answer
during which another thread closed the socket, and at most one more, which is refused. -/
structure Interrupted (n : Nat) (es before : List Event) (answer : Answer) : Prop where
  split : ∃ closing rest, es = before ++
      reception n answer :: .called (.on n .close) closing :: rest ∧
    (∀ c, (Event.called c closing).delivered = []) ∧
    ∀ e ∈ rest, e = reception n (.failed .badDescriptor)
  delivered : ∀ e ∈ before, ∃ data, data ≠ [] ∧ e = reception n (.delivered data)

/-- How a read goes: nobody closes the socket, or somebody does and the reception during which that
happens tells what the read comes to. -/
inductive Course (s : Session) (es : List Event) (r : EStateM.Result Failure Session Bytes) :
    Prop where
  | undisturbed (h : ∀ e ∈ es, e.closes s.socket.descriptor.number = false)
  | closed {before : List Event} {answer : Answer}
    (hes : Interrupted s.socket.descriptor.number es before answer)
    (hline : Bytes.lineFeed ∉ s.socket.buffer ++ Event.octets before)
    (hended : s.socket.ended = false) (hr : outcome r = afterClosing answer)

theorem Interrupted.first {n : Nat} {answer closing : Answer} {rest : List Event}
    (hclosing : ∀ c, (Event.called c closing).delivered = [])
    (hrest : ∀ e ∈ rest, e = reception n (.failed .badDescriptor)) :
    Interrupted n (reception n answer :: .called (.on n .close) closing :: rest) [] answer :=
  ⟨⟨closing, rest, rfl, hclosing, hrest⟩, fun _ h => absurd h List.not_mem_nil⟩

theorem Interrupted.cons {n : Nat} {es before : List Event} {answer : Answer} {data : Bytes}
    (hne : data ≠ []) (h : Interrupted n es before answer) :
    Interrupted n (reception n (.delivered data) :: es)
      (reception n (.delivered data) :: before) answer := by
  obtain ⟨⟨closing, rest, rfl, hclosing, hrest⟩, hbefore⟩ := h
  refine ⟨⟨closing, rest, rfl, hclosing, hrest⟩, fun e he => ?_⟩
  rcases List.mem_cons.1 he with rfl | he
  · exact ⟨data, hne, rfl⟩
  · exact hbefore e he

/-- One reception more before the rest of the read. -/
theorem Course.more {s t : Session} {data : Bytes} {es : List Event}
    {r : EStateM.Result Failure Session Bytes}
    (hnumber : t.socket.descriptor.number = s.socket.descriptor.number)
    (hbuffer : t.socket.buffer = s.socket.buffer) (hopen : s.socket.ended = false)
    (hended : t.socket.ended = (s.socket.ended || data.isEmpty)) (h : Course (stored t data) es r) :
    Course s (reception s.socket.descriptor.number (.delivered data) :: es) r := by
  have hn : (stored t data).socket.descriptor.number = s.socket.descriptor.number := hnumber
  cases h with
  | undisturbed h =>
    rw [hn] at h
    refine .undisturbed fun e he => ?_
    rcases List.mem_cons.1 he with rfl | he
    · rfl
    · exact h e he
  | closed hes hline hgoing hr =>
    rw [hn] at hes
    have hgoing : t.socket.ended = false := hgoing
    have hne : data ≠ [] := by
      intro hempty
      rw [hended, hempty, List.isEmpty_nil, Bool.or_true] at hgoing
      exact absurd hgoing.symm Bool.false_ne_true
    refine .closed (hes.cons hne) ?_ hopen hr
    rw [octets_cons_delivered, ← List.append_assoc, ← hbuffer]
    exact hline

theorem course_readRaw (s : Session) :
    ∃ es, s.system.Noted (after (readRaw s)).system es ∧ Course s es (readRaw s) := by
  fun_induction readRaw s with
  | case1 s line rest hcut => exact ⟨[], .refl _, .undisturbed fun _ h => absurd h List.not_mem_nil⟩
  | case2 s hcut hended => exact ⟨[], .refl _, .undisturbed fun _ h => absurd h List.not_mem_nil⟩
  | case3 s hcut hended e t hreceive =>
    have hline : Bytes.lineFeed ∉ s.socket.buffer ++ Event.octets [] :=
      (List.append_nil s.socket.buffer).symm ▸ Bytes.cut?_eq_none_iff.1 hcut
    obtain ⟨es, hes⟩ := receives s
    rw [hreceive] at hes
    cases hes with
    | failed hnoted =>
      refine ⟨_, hnoted, .undisturbed fun e he => ?_⟩
      rw [List.mem_singleton.1 he]
      rfl
    | refused hanswer hnoted =>
      exact ⟨_, hnoted, .closed (.first hanswer fun _ h => absurd h List.not_mem_nil) hline
        (eq_false_of_ne_true hended) rfl⟩
  | case4 s hcut hended data t hreceive ih =>
    have hline : Bytes.lineFeed ∉ s.socket.buffer ++ Event.octets [] :=
      (List.append_nil s.socket.buffer).symm ▸ Bytes.cut?_eq_none_iff.1 hcut
    have hopen := eq_false_of_ne_true hended
    obtain ⟨es, hes⟩ := receives s
    rw [hreceive] at hes
    cases hes with
    | delivered hnoted hnumber hbuffer hend =>
      obtain ⟨rest, hrest, hcourse⟩ := ih
      exact ⟨_, hnoted.trans hrest, hcourse.more hnumber hbuffer hopen hend⟩
    | closed hanswer hnoted hnumber hdropped hend =>
      rw [hopen, Bool.false_or] at hend
      obtain ⟨rest, hrest, hrefused, houtcome⟩ := readRaw_of_dropped hdropped hend
      rw [hnumber] at hrefused
      exact ⟨_, hnoted.trans hrest,
        .closed (.first hanswer hrefused) hline hopen houtcome⟩

/-! ## 4. The text of the line -/

/-- The read is refused, or it gives the line that `received` begins with. -/
def Whole (received : Bytes) (r : Except Failure String) : Prop :=
  r = .error closedError ∨ r = .ok (Utf8.decode (Bytes.firstLine received))

/-- The text of a line takes no calls more than its octets. -/
theorem outcome_readLine {s : Session} (hopen : s.socket.closed = false) :
    outcome (readLine s) = Utf8.decode <$> outcome (readRaw s) ∧
      ∀ es, s.system.Noted (after (readRaw s)).system es →
        s.system.Noted (after (readLine s)).system es := by
  cases hr : readRaw s with
  | ok raw t =>
    rw [readLine_of_ok hopen hr]
    exact ⟨rfl, fun _ h => h⟩
  | error e t =>
    rw [readLine_of_error hopen hr]
    exact ⟨rfl, fun _ h => h⟩

theorem Interrupted.octets {n : Nat} {es before : List Event} {data : Bytes}
    (h : Interrupted n es before (.delivered data)) :
    Event.octets es = Event.octets before ++ data := by
  obtain ⟨⟨closing, rest, rfl, hclosing, hrest⟩, -⟩ := h
  have hnothing : Event.octets rest = [] := by
    refine List.flatMap_eq_nil_iff.2 fun e he => ?_
    rw [hrest e he]
    rfl
  have hafter : Event.octets (.called (.on n .close) closing :: rest) = [] := by
    rw [Event.octets, List.flatMap_cons, hclosing]
    exact hnothing
  rw [Event.octets_append, octets_cons_delivered, hafter, List.append_nil]

/-- **A line during which another thread closes the socket.** If a call of a read gives the
descriptor back, then it was given back during one reception of this read, none before had delivered
a line feed, and what that reception came to tells what the read comes to. The line is whole if
nothing was held when the socket was closed. -/
theorem readLine_closedMeanwhile {s : Session} {es : List Event}
    (hnoted : s.system.Noted (after (readLine s)).system es)
    (hcloses : ∃ e ∈ es, e.closes s.socket.descriptor.number = true) :
    ∃ before answer, Interrupted s.socket.descriptor.number es before answer ∧
      Bytes.lineFeed ∉ s.socket.buffer ++ Event.octets before ∧
      outcome (readLine s) = Utf8.decode <$> afterClosing answer ∧
      (s.socket.buffer ++ Event.octets before = [] →
        Whole (s.socket.buffer ++ Event.octets es) (outcome (readLine s))) := by
  cases hopen : s.socket.closed with
  | true =>
    rw [readLine_of_closed hopen] at hnoted
    have hnone : es = [] := hnoted.unique (.refl _)
    obtain ⟨e, he, -⟩ := hcloses
    rw [hnone] at he
    cases he
  | false =>
    obtain ⟨es', hnoted', hcourse⟩ := course_readRaw s
    obtain ⟨houtcome, hevents⟩ := outcome_readLine hopen
    obtain rfl := hnoted.unique (hevents es' hnoted')
    cases hcourse with
    | undisturbed h =>
      obtain ⟨e, he, hclose⟩ := hcloses
      exact absurd ((h e he).symm.trans hclose) Bool.false_ne_true
    | @closed before answer hes hline hended hr =>
      rw [hr] at houtcome
      refine ⟨before, answer, hes, hline, houtcome, fun hheld => ?_⟩
      rw [houtcome]
      cases answer with
      | done => exact .inl rfl
      | failed f => exact .inl rfl
      | delivered data =>
        rw [hes.octets, ← List.append_assoc, hheld, List.nil_append, afterClosing]
        split
        · exact .inr rfl
        · exact .inl rfl

/-- A stream that another thread closes during the second reception of a line. -/
def torn : Session where
  socket := { descriptor := { number := 3, script := { recv :=
    [{ outcome := .value [97, 98] }, { outcome := .value [99, 10], closing := true }] } } }
  system := {}

/-- The calls of a read of its line. -/
def tornCalls : List Event :=
  [reception 3 (.delivered [97, 98]), reception 3 (.delivered [99, 10]),
    .called (.on 3 .close) .done]

theorem noted_torn : torn.system.Noted (after (readLine torn)).system tornCalls := by
  show (after (readLine torn)).system.events.toList = _
  decide +kernel

theorem readLine_closedMeanwhile_torn :
    torn.system.Noted (after (readLine torn)).system tornCalls ∧
      (∃ e ∈ tornCalls, e.closes torn.socket.descriptor.number = true) ∧
      ∃ before answer, Interrupted torn.socket.descriptor.number tornCalls before answer ∧
        Bytes.lineFeed ∉ torn.socket.buffer ++ Event.octets before ∧
        outcome (readLine torn) = Utf8.decode <$> afterClosing answer ∧
        (torn.socket.buffer ++ Event.octets before = [] →
          Whole (torn.socket.buffer ++ Event.octets tornCalls)
            (outcome (readLine torn))) := by
  have hcloses : ∃ e ∈ tornCalls, e.closes torn.socket.descriptor.number = true := by decide
  exact ⟨noted_torn, hcloses, readLine_closedMeanwhile noted_torn hcloses⟩

/-- **A line may be torn**: what was received before the closing is missing from it, and the read
does not fail. -/
theorem readLine_torn :
    torn.system.Noted (after (readLine torn)).system tornCalls ∧
      (∃ e ∈ tornCalls, e.closes torn.socket.descriptor.number = true) ∧
      ¬ Whole (torn.socket.buffer ++ Event.octets tornCalls)
        (outcome (readLine torn)) := by
  have hline : outcome (readLine torn) = .ok "c" := by decide +kernel
  refine ⟨noted_torn, by decide, ?_⟩
  rw [hline]
  rintro (h | h)
  · cases h
  · have htext : "c" = Utf8.decode (Bytes.firstLine (torn.socket.buffer ++ Event.octets tornCalls)) :=
      Except.ok.inj h
    exact absurd htext (by decide +kernel)

end Socket

end HttpProbe
