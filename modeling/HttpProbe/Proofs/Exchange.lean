import HttpProbe.Probe.Check
import HttpProbe.Proofs.Connecting
import HttpProbe.Proofs.LineReceptions

/-!
# The calls of an exchange

An exchange makes a socket, connects, sends the request, receives the first line of the response and
closes the socket. Any of its calls may fail, and the socket is closed whichever does:

* `firstLine`: the octets before the first line feed;
* `Trace`: the calls of an exchange between making the socket and closing it;
* `close_cases`: closing is one call;
* `converses`: what is made of an open socket up to the first line;
* `exchanges`, `exchanges_of_unaskable`: the whole exchange.
-/

namespace HttpProbe

/-! ## 1. The first line -/

/-- The octets before the first line feed; all of them if there is none. -/
def Bytes.firstLine (bs : Bytes) : Bytes := bs.takeWhile (· != lineFeed)

theorem Bytes.firstLine_append_lineFeed {line : Bytes} (h : lineFeed ∉ line) (rest : Bytes) :
    firstLine (line ++ lineFeed :: rest) = line := by
  have hall : ∀ b ∈ line, (b != lineFeed) = true := fun b hb => bne_iff_ne.2 fun e => h (e ▸ hb)
  rw [firstLine, List.takeWhile_append_of_pos hall, List.takeWhile_cons_of_neg (by decide),
    List.append_nil]

theorem Bytes.firstLine_of_notMem {line : Bytes} (h : lineFeed ∉ line) : firstLine line = line := by
  have hall : ∀ b ∈ line, (b != lineFeed) = true := fun b hb => bne_iff_ne.2 fun e => h (e ▸ hb)
  have hend : (line ++ []).takeWhile (· != lineFeed) = line ++ [].takeWhile (· != lineFeed) :=
    List.takeWhile_append_of_pos hall
  rw [List.append_nil, List.takeWhile_nil, List.append_nil] at hend
  exact hend

theorem octets_of_done {kinds : List CallKind} {es : List Event} (h : Done kinds es) :
    Event.octets es = [] := by
  induction h with
  | nil => rfl
  | cons hhead _ ih =>
    cases hhead with
    | intro _ => exact ih

namespace Socket

/-- A read of a line into an empty buffer gives the first line of what it received, which is the
first line of what was to come. -/
theorem firstLine_of_reads {s t : Session} {es : List Event} {line : Bytes}
    (hbuffer : s.socket.buffer = []) (h : Reads s es none (.ok line t)) :
    line = Bytes.firstLine (Event.octets es) ∧ line = Bytes.firstLine (coming s) := by
  have hcoming : coming s = Event.octets es ++ coming t := h.coming
  cases h.takes with
  | fed hline hbuf =>
    rw [hbuffer, List.nil_append] at hbuf
    refine ⟨?_, ?_⟩
    · rw [hbuf, Bytes.firstLine_append_lineFeed hline]
    · rw [hcoming, hbuf, List.append_assoc, List.cons_append,
        Bytes.firstLine_append_lineFeed hline]
  | ended hline hbuf hrest hended =>
    rw [hbuffer, List.nil_append] at hbuf
    refine ⟨?_, ?_⟩
    · rw [hbuf, Bytes.firstLine_of_notMem hline]
    · rw [hcoming, hbuf, coming_of_ended hended, List.append_nil, Bytes.firstLine_of_notMem hline]

end Socket

/-! ## 2. Closing -/

theorem Session.close_cases {s : Session} {n : Nat} (hopen : s.socket.closed = false)
    (hn : s.socket.descriptor.number = n) :
    (∃ t, s.close = .ok () t ∧ s.system.Noted t.system [.called (.on n .close) .done]) ∨
      ∃ f t, s.close = .error (Failure.translated f) t ∧
        s.system.Noted t.system [.called (.on n .close) (.failed f)] := by
  subst hn
  unfold close
  rw [if_neg (by rw [hopen]; exact Bool.false_ne_true)]
  unfold release
  dsimp only
  cases (s.socket.descriptor.script.takeClose).1.outcome with
  | failure f => exact .inr ⟨f, _, rfl, System.Noted.note ..⟩
  | usual => exact .inl ⟨_, rfl, System.Noted.note ..⟩
  | value a => exact .inl ⟨_, rfl, System.Noted.note ..⟩

/-! ## 3. The conversation -/

namespace Check

/-- The calls of an exchange between making the socket and closing it: those of `kinds`, up to the
first one that fails, and if none does then the receptions of one line. -/
inductive Trace (n : Nat) (kinds : List CallKind) : List Event → Option SystemFailure → Prop where
  | cut {es : List Event} {f : SystemFailure} (h : Cut kinds es f) : Trace n kinds es (some f)
  | whole {es rs : List Event} {failure : Option SystemFailure} (h : Done kinds es)
      (hr : Socket.Receptions n rs failure) : Trace n kinds (es ++ rs) failure

/-- A conversation gives the first line of what it received, which is the first line of what the
peer sends, or it fails as its last call did. -/
inductive Converses (sent : Bytes) (es : List Event) :
    Option SystemFailure → EStateM.Result Failure Session String → Prop where
  | line {t : Session}
      (hsent : Bytes.firstLine (Event.octets es) = Bytes.firstLine sent) :
    Converses sent es none (.ok (Utf8.decode (Bytes.firstLine (Event.octets es))) t)
  | failed {f : SystemFailure} {t : Session} :
    Converses sent es (some f) (.error (Failure.translated f) t)

theorem Converses.of_octets {sent : Bytes} {es es' : List Event}
    {failure : Option SystemFailure} {r : EStateM.Result Failure Session String}
    (he : Event.octets es' = Event.octets es) (h : Converses sent es failure r) :
    Converses sent es' failure r := by
  cases h with
  | line hsent =>
    rw [← he]
    exact .line (by rw [he, hsent])
  | failed => exact .failed

/-- The calls of a conversation on the descriptor of number `n`. -/
def conversationCalls (order : Order) (data : Bytes) (n : Nat) (lookUp : Call)
    (found : Except SystemFailure (List Address)) : List CallKind :=
  Socket.connectCalls n lookUp found order.timeout ++ [(· = .on n (.sendAll data))]

section Conversation

variable {order : Order} {s : Session} {n : Nat} (hs : s.Obliging)
  (hn : s.socket.descriptor.number = n)
  (hasks : Socket.unaskable? s.system order.host order.service = none)
  (hfinds : s.system.Finds order.host order.service.text?)

include hs hn

/-- The first line is read on a socket that nothing was received on yet. -/
theorem converses_readLine (hbuffer : s.socket.buffer = []) (hended : s.socket.ended = false) :
    ∃ es failure, s.system.Noted (after (Socket.readLine s)).system es ∧
      s.Keeps (after (Socket.readLine s)) ∧ Socket.Receptions n es failure ∧
      Converses (Script.sent s.socket.descriptor.script.recv) es failure (Socket.readLine s) := by
  obtain ⟨es, failure, hr⟩ := Socket.readsText_readLine hs.usable.isOpen hs.usable.quiet
  refine ⟨es, failure, ?_⟩
  have hreceptions : Socket.Needs s es failure → Socket.Receptions n es failure := by
    intro hneeds
    cases hneeds with
    | nothing h =>
      rcases h with h | h
      · rw [hbuffer] at h
        cases h
      · exact absurd (hended.symm.trans h) Bool.false_ne_true
    | receptions _ _ h => exact hn ▸ h
  generalize Socket.readLine s = r at hr
  cases hr with
  | failed h => exact ⟨h.noted, h.keeps, hreceptions h.needs, .failed⟩
  | line h =>
    obtain ⟨hdelivered, hsent⟩ := Socket.firstLine_of_reads hbuffer h
    rw [Socket.coming_of_not_ended hended, hdelivered] at hsent
    refine ⟨h.noted, h.keeps, hreceptions h.needs, ?_⟩
    rw [hdelivered]
    exact .line hsent

include hasks hfinds

theorem converses (hbuffer : s.socket.buffer = []) (hended : s.socket.ended = false)
    (data : Bytes) :
    ∃ es failure, s.system.Noted (after (converse order data s)).system es ∧
      s.Keeps (after (converse order data s)) ∧
      Trace n (conversationCalls order data n (Socket.lookUpCall s.socket order.host order.service)
        (s.system.found order.host order.service.text?)) es failure ∧
      Converses (Script.sent s.socket.descriptor.script.recv) es failure
        (converse order data s) := by
  have hask := Makes.bind (Socket.makes_connect hs hn order.timeout hasks hfinds)
    fun _ t _ haside =>
      Socket.makes_write (haside.obliging hs) (haside.keeps.number.trans hn) data
  have hassoc : converse order data s =
      ((Socket.connect order.host order.service order.timeout >>= fun _ =>
        Socket.write (.octets data)) >>= fun _ => Socket.readLine) s := by
    rw [bind_assoc]
    rfl
  rw [hassoc]
  cases hr : (Socket.connect order.host order.service order.timeout >>= fun _ =>
      Socket.write (.octets data)) s with
  | error e t =>
    rw [hr] at hask
    rw [bind_of_error hr]
    cases hask with
    | cut hes hnoted haside => exact ⟨_, _, hnoted, haside.keeps, .cut hes, .failed⟩
  | ok _ t =>
    rw [hr] at hask
    rw [bind_of_ok hr]
    cases hask with
    | done hes hnoted haside _ =>
      obtain ⟨rs, failure, hnoted', hkeeps, hreceptions, hline⟩ :=
        converses_readLine (haside.obliging hs) (haside.keeps.number.trans hn)
          (haside.buffer.trans hbuffer) (haside.ended.trans hended)
      refine ⟨_, failure, hnoted.trans hnoted', haside.keeps.trans hkeeps, .whole hes hreceptions,
        ?_⟩
      rw [haside.recv] at hline
      refine hline.of_octets ?_
      rw [Event.octets_append, octets_of_done hes, List.nil_append]

end Conversation

/-! ## 4. The exchange -/

/-- What the next socket will say, or why there is none. -/
def nextSocket (s : System) : Except SystemFailure Script := s.sockets.head?.getD (.ok {})

/-- The call that makes the socket of an exchange. -/
def socketCall : Call := .socket Constant.familyInet Constant.kindStream 0

/-- The system when there was no socket. -/
def denied (s : System) (f : SystemFailure) : System :=
  { s with sockets := s.sockets.tail }.note (.called socketCall (.failed f))

/-- The session in which a socket was made. -/
def opened (s : System) (script : Script) : Session where
  socket := { descriptor := { number := s.nextNumber, script } }
  system := { s with sockets := s.sockets.tail, nextNumber := s.nextNumber + 1 }.note
    (.called socketCall .done)

/-- What a check relies on. A look-up of addresses finds one, services are named by numbers, and a
timeout can be set. Nobody else closes the socket: nobody but the check knows it. -/
structure Obliging (order : Order) (s : System) : Prop where
  finds : s.Finds order.host order.service.text?
  names : s.NamesServices
  script : ∀ script, nextSocket s = .ok script → script.Obliging

/-- The calls of a check between making the socket and closing it. -/
def calls (order : Order) (s : System) (data : Bytes) : List CallKind :=
  conversationCalls order data s.nextNumber
    (.getaddrinfo order.host order.service.text? Constant.familyInet Constant.kindStream 0)
    (s.found order.host order.service.text?)

/-- An exchange ends as closing failed, or else as the conversation ended. -/
inductive Exchanges (sent : Bytes) (es : List Event) :
    Option SystemFailure → Answer → EStateM.Result Failure System String → Prop where
  | closeFailed {failure : Option SystemFailure} {f : SystemFailure} {t : System} :
    Exchanges sent es failure (.failed f) (.error (Failure.translated f) t)
  | failed {f : SystemFailure} {t : System} :
    Exchanges sent es (some f) .done (.error (Failure.translated f) t)
  | line {t : System} (hsent : Bytes.firstLine (Event.octets es) = Bytes.firstLine sent) :
    Exchanges sent es none .done (.ok (Utf8.decode (Bytes.firstLine (Event.octets es))) t)

section Exchange

variable {order : Order} {s : System} {script : Script}

theorem createDefault_of_error {f : SystemFailure} (h : nextSocket s = .error f) :
    Socket.createDefault s = .error (Failure.translated f) (denied s f) := by
  unfold nextSocket at h
  unfold Socket.createDefault Socket.create System.create
  rw [h]
  rfl

theorem createDefault_of_ok (h : nextSocket s = .ok script) :
    Socket.createDefault s = .ok (opened s script).socket (opened s script).system := by
  unfold nextSocket at h
  unfold Socket.createDefault Socket.create System.create
  rw [h]
  rfl

theorem obliging_opened (hs : Obliging order s) (h : nextSocket s = .ok script) :
    (opened s script).Obliging where
  usable := ⟨rfl, rfl, (hs.script script h).quiet⟩
  script := hs.script script h
  peer := fun _ ha => nomatch ha
  names := hs.names

section Ends

variable {data : Bytes} {t u : Session} {line : String} {e f : Failure}

theorem exchange_of_close_error (h : nextSocket s = .ok script)
    (hclose : (after (converse order data (opened s script))).close = .error f t) :
    exchange order data s = .error f t.system := by
  unfold exchange
  rw [createDefault_of_ok h]
  dsimp only
  rw [hclose]

theorem exchange_of_error (h : nextSocket s = .ok script)
    (hr : converse order data (opened s script) = .error e u) (hclose : u.close = .ok () t) :
    exchange order data s = .error e t.system := by
  unfold exchange
  rw [createDefault_of_ok h]
  dsimp only
  rw [hr, after, hclose]

theorem exchange_of_ok (h : nextSocket s = .ok script)
    (hr : converse order data (opened s script) = .ok line u) (hclose : u.close = .ok () t) :
    exchange order data s = .ok line t.system := by
  unfold exchange
  rw [createDefault_of_ok h]
  dsimp only
  rw [hr, after, hclose]

end Ends

/-- What comes of closing at the end: how it fails, or else how the conversation ended. -/
inductive Ends : Answer → EStateM.Result Failure Session String →
    EStateM.Result Failure System String → Prop where
  | closeFailed {f : SystemFailure} {r : EStateM.Result Failure Session String} {t : System} :
    Ends (.failed f) r (.error (Failure.translated f) t)
  | failed {e : Failure} {u : Session} {t : System} : Ends .done (.error e u) (.error e t)
  | line {line : String} {u : Session} {t : System} : Ends .done (.ok line u) (.ok line t)

/-- Whatever the conversation comes to, the socket is closed once, as the last call. -/
theorem ends_exchange (h : nextSocket s = .ok script) {data : Bytes} {es : List Event}
    (hnoted : (opened s script).system.Noted
      (after (converse order data (opened s script))).system es)
    (hkeeps : (opened s script).Keeps (after (converse order data (opened s script)))) :
    ∃ closing, s.Noted (after (exchange order data s))
        (.called socketCall .done :: es ++ [.called (.on s.nextNumber .close) closing]) ∧
      Ends closing (converse order data (opened s script)) (exchange order data s) := by
  have hopened : s.Noted (opened s script).system [.called socketCall .done] :=
    System.Noted.note ..
  have hbefore := hopened.trans hnoted
  rcases Session.close_cases hkeeps.closed hkeeps.number with
    ⟨t, hclose, hclosed⟩ | ⟨f, t, hclose, hclosed⟩
  · refine ⟨.done, ?_⟩
    cases hr : converse order data (opened s script) with
    | ok line u =>
      rw [hr] at hbefore hclose hclosed
      rw [exchange_of_ok h hr hclose]
      exact ⟨hbefore.trans hclosed, .line⟩
    | error e u =>
      rw [hr] at hbefore hclose hclosed
      rw [exchange_of_error h hr hclose]
      exact ⟨hbefore.trans hclosed, .failed⟩
  · rw [exchange_of_close_error h hclose]
    exact ⟨.failed f, hbefore.trans hclosed, .closeFailed⟩

/-- **An exchange** makes a socket, converses and closes the socket once, as its last call. -/
theorem exchanges (hs : Obliging order s) (h : nextSocket s = .ok script)
    (hasks : Socket.unaskable? s order.host order.service = none) (data : Bytes) :
    ∃ es failure closing, Trace s.nextNumber (calls order s data) es failure ∧
      s.Noted (after (exchange order data s))
        (.called socketCall .done :: es ++ [.called (.on s.nextNumber .close) closing]) ∧
      Exchanges (Script.sent script.recv) es failure closing (exchange order data s) := by
  obtain ⟨es, failure, hnoted, hkeeps, htrace, hline⟩ :=
    converses (obliging_opened hs h) rfl hasks hs.finds rfl rfl data
  obtain ⟨closing, hall, hends⟩ := ends_exchange h hnoted hkeeps
  refine ⟨es, failure, closing, htrace, hall, ?_⟩
  generalize converse order data (opened s script) = r at hline hends
  generalize exchange order data s = r' at hends
  cases hends with
  | closeFailed => exact .closeFailed
  | failed =>
    cases hline with
    | failed => exact .failed
  | line =>
    cases hline with
    | line hsent => exact .line hsent

/-- An exchange with a host or a service that cannot be looked up: the socket is made and closed. -/
theorem exchanges_of_unaskable {f : Failure} (h : nextSocket s = .ok script)
    (hrefused : Socket.unaskable? s order.host order.service = some f) (data : Bytes) :
    ∃ closing, s.Noted (after (exchange order data s))
        [.called socketCall .done, .called (.on s.nextNumber .close) closing] ∧
      Ends closing (.error f (opened s script)) (exchange order data s) := by
  have hconverse : converse order data (opened s script) = .error f (opened s script) :=
    bind_of_error (Socket.connect_of_unaskable order.timeout rfl hrefused)
  have hnoted : (opened s script).system.Noted
      (after (converse order data (opened s script))).system [] := by
    rw [hconverse]
    exact .refl _
  have hkeeps : (opened s script).Keeps (after (converse order data (opened s script))) := by
    rw [hconverse]
    exact .refl _
  have hends := ends_exchange h hnoted hkeeps
  rwa [hconverse] at hends

end Exchange

end Check

end HttpProbe
