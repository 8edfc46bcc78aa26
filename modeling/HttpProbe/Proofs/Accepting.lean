import HttpProbe.Proofs.Starting

/-!
# Taking and serving connections

The accept loop takes one connection after the other and serves each to its end. Calls may fail, and
other threads may close connections, but nobody else closes the listener and nobody asks the
responder to stop:

* `Script.Listens`: a listener is told nothing that goes against this;
* `Took`, `accept_cases`: what one accept leaves;
* `leaves_handle`: what a visit leaves;
* `Event.Serving`: what is noted of all this. No socket is made, and no descriptor is given back
  that was there before;
* **`served_acceptAll`**: so it is over the whole loop, by induction on its rounds.
-/

namespace HttpProbe

/-! ## 1. Listeners and callers -/

/-- During an accept other threads do nothing, and during the visit that follows they may close the
connection. -/
def Callers (q : List (Reply (Caller Script))) : Prop :=
  ∀ r ∈ q, r.Within .none ∧ ∀ caller, r.outcome = .value caller → caller.script.Within .closes

/-- What a listener is told when nobody else closes it and nobody asks the responder to stop. -/
structure Script.Listens (s : Script) : Prop where
  within : s.Within .none
  callers : Callers s.accept

/-- A listener that is open, and that nobody else will close. -/
structure Socket.Live (l : Socket) : Prop where
  isOpen : l.closed = false
  listens : l.descriptor.script.Listens

theorem Script.within_default (i : Interference) : ({} : Script).Within i := by
  constructor <;> exact fun r hr => nomatch hr

/-! ## 2. One accept -/

namespace Socket

/-- An accept noted `es` and left the rest of the listener as it was. -/
structure Took (s t : Session) (es : List Event) : Prop where
  noted : s.system.Noted t.system es
  number : t.socket.descriptor.number = s.socket.descriptor.number
  live : t.socket.Live
  sockets : t.system.sockets = s.system.sockets
  stopAsked : t.system.stopAsked = s.system.stopAsked
  nextNumber : t.system.nextNumber = s.system.nextNumber + Event.births es

theorem Took.refl {s : Session} (h : s.socket.Live) : Took s s [] :=
  ⟨.refl _, rfl, h, rfl, rfl, rfl⟩

/-- The ways in which an accept on a live listener ends: no connection waits; none could be taken;
one was taken that could not be told to wait; or one was taken. -/
inductive Accepts (s : Session) : EStateM.Result Failure Session (Option Socket) → Prop where
  | none : Accepts s (.ok none s)
  | refused {e : NetError} {f : SystemFailure} {t : Session}
      (h : Took s t [.called (.on s.socket.descriptor.number .accept) (.failed f)]) :
    Accepts s (.error (.net e) t)
  | hurried {f : SystemFailure} {answer : Answer} {t : Session}
      (h : Took s t [.called (.on s.socket.descriptor.number .accept) .done,
        .called (.on s.system.nextNumber (.setTimeout Option.none)) answer]) :
    Accepts s (.error (.system f) t)
  | taken {c : Socket} {answer : Answer} {t : Session}
      (h : Took s t [.called (.on s.socket.descriptor.number .accept) .done,
        .called (.on s.system.nextNumber (.setTimeout Option.none)) answer])
      (hnumber : c.descriptor.number = s.system.nextNumber) (hopen : c.closed = false)
      (hwithin : c.descriptor.script.Within .closes) :
    Accepts s (.ok (some c) t)

theorem listens_takeAccept {s : Script} (h : s.Listens) :
    s.takeAccept.1.Within .none ∧ s.takeAccept.2.Listens ∧
      ∀ caller, s.takeAccept.1.outcome = .value caller → caller.script.Within .closes := by
  refine ⟨Reply.within_next fun r hr => (h.callers r hr).1,
    ⟨{ h.within with }, fun r hr => h.callers r (Reply.mem_of_mem_next hr)⟩, fun caller hc => ?_⟩
  obtain ⟨r, hr, hout⟩ := Reply.mem_of_next_value hc
  exact (h.callers r hr).2 caller hout

/-- The call of an accept leaves the listener live. -/
theorem took_settled {s : Session} (hlive : s.socket.Live) (answer : Answer) :
    let t := s.settled .accept answer
      (s.socket.descriptor.reply Script.takeAccept fun _ => .ok usualCaller)
    s.system.Noted t.system [.called (.on s.socket.descriptor.number .accept) answer] ∧
      t.socket.descriptor.number = s.socket.descriptor.number ∧ t.socket.Live ∧
      t.system.stopAsked = s.system.stopAsked := by
  obtain ⟨hreply, hrest, -⟩ := listens_takeAccept hlive.listens
  obtain ⟨-, hstopping⟩ := Interference.alone_of_within hreply
  unfold Session.settled Descriptor.reply
  cases hd : s.socket.descriptor.dead with
  | true => exact ⟨System.Noted.note .., rfl, ⟨hlive.isOpen, hlive.listens⟩, Bool.or_false _⟩
  | false =>
    refine ⟨System.Noted.note .., rfl, ⟨hlive.isOpen, hrest⟩, ?_⟩
    show (s.system.stopAsked || (s.socket.descriptor.script.takeAccept).1.stopping) = _
    rw [hstopping, Bool.or_false]

/-- The connection that was taken is told to wait for as long as it likes. -/
theorem unhurry_cases {d : Descriptor} (hwithin : d.script.Within .closes) (s : System) :
    ∃ answer, (∃ f, unhurry d s =
        .error f (s.note (.called (.on d.number (.setTimeout none)) answer))) ∨
      ∃ d', d'.number = d.number ∧ d'.script.Within .closes ∧ unhurry d s =
        .ok d' (s.note (.called (.on d.number (.setTimeout none)) answer)) := by
  obtain ⟨hnumber, -, hreply⟩ := Session.reply_cases d (fun _ => .ok ())
    ((Script.RepliesTo.setTimeout none).regular Operation.noConfusion)
  unfold unhurry
  dsimp only
  split
  · exact ⟨_, .inr ⟨_, hnumber, (hreply _ hwithin).1, rfl⟩⟩
  · exact ⟨_, .inl ⟨_, rfl⟩⟩

theorem accepts_accept {s : Session} (hlive : s.socket.Live) : Accepts s (accept s) := by
  obtain ⟨hreply, -, hcaller⟩ := listens_takeAccept hlive.listens
  obtain ⟨hclosing, -⟩ := Interference.alone_of_within hreply
  unfold accept
  rw [if_neg (ne_true_of_eq_false hlive.isOpen)]
  split
  · exact .none
  · cases htake : takeCaller s with
    | error f t =>
      obtain ⟨-, rfl⟩ := Session.call_error hclosing htake
      obtain ⟨hnoted, hnumber, hlive', hstop⟩ := took_settled hlive (.failed f)
      exact .refused ⟨hnoted, hnumber, hlive', rfl, hstop, rfl⟩
    | ok caller t =>
      obtain ⟨hresult, ht⟩ := Session.call_ok hclosing htake
      have hwithin : (adopted caller t).script.Within .closes := by
        obtain ⟨-, -, hout | ⟨-, husual⟩⟩ := Descriptor.reply_ok hresult
        · exact hcaller caller hout
        · obtain rfl := Except.ok.inj husual
          exact Script.within_default _
      obtain ⟨hnoted, hnumber, hlive', hstop⟩ := took_settled hlive .done
      have hnext : t.system.nextNumber = s.system.nextNumber := by rw [ht]; rfl
      have hsockets : t.system.sockets = s.system.sockets := by rw [ht]; rfl
      rw [← ht] at hnoted hnumber hlive' hstop
      obtain ⟨answer, hunhurry⟩ := unhurry_cases hwithin
        { t.system with nextNumber := t.system.nextNumber + 1 }
      have hmark : (adopted caller t).number = s.system.nextNumber := hnext
      rw [hmark] at hunhurry
      have htook : ∀ u : Session, u.socket = t.socket → u.system =
          { t.system with nextNumber := t.system.nextNumber + 1 }.note
            (.called (.on s.system.nextNumber (.setTimeout Option.none)) answer) →
          Took s u [.called (.on s.socket.descriptor.number .accept) .done,
            .called (.on s.system.nextNumber (.setTimeout Option.none)) answer] := by
        intro u hsocket hsystem
        refine ⟨?_, hsocket ▸ hnumber, hsocket ▸ hlive', ?_, ?_, ?_⟩ <;> rw [hsystem]
        · exact hnoted.trans (System.Noted.note ..)
        · exact hsockets
        · exact hstop
        · exact congrArg (· + 1) hnext
      dsimp only
      obtain ⟨f, hu⟩ | ⟨d, hd, hd', hu⟩ := hunhurry
      · rw [hu]
        exact .hurried (htook _ rfl rfl)
      · rw [hu]
        exact .taken (htook _ rfl rfl) hd rfl hd'

theorem accepts_of_eq {s : Session} {r : EStateM.Result Failure Session (Option Socket)}
    (hlive : s.socket.Live) (h : accept s = r) : Accepts s r :=
  h ▸ accepts_accept hlive

end Socket

/-! ## 3. What is noted of the loop -/

namespace Event

/-- A listener of number `n` was asked for connections and these were served, where `k` is the next
number. No socket was made, and only connections that were taken meanwhile were closed. -/
structure Serving (n k : Nat) (es : List Event) : Prop where
  made : ∀ m, made m es = []
  old : ∀ m, m < k → closings m es = 0
  new : ∀ m, k + births es ≤ m → closings m es = 0
  accepts : ∀ m answer, .called (.on m .accept) answer ∈ es → m = n

namespace Serving

variable {n k : Nat} {es fs : List Event}

theorem nil (n k : Nat) : Serving n k [] :=
  ⟨fun _ => rfl, fun _ _ => rfl, fun _ _ => rfl, fun _ _ h => nomatch h⟩

theorem append (h : Serving n k es) (h' : Serving n (k + births es) fs) :
    Serving n k (es ++ fs) where
  made m := by rw [made_append, h.made, h'.made, List.append_nil]
  old m hm := by
    rw [closings_append, h.old m hm, h'.old m (Nat.lt_of_lt_of_le hm (Nat.le_add_right _ _))]
  new m hm := by
    rw [births_append, ← Nat.add_assoc] at hm
    rw [closings_append, h'.new m hm, h.new m (Nat.le_trans (Nat.le_add_right _ _) hm)]
  accepts m answer he := by
    rcases List.mem_append.1 he with he | he
    · exact h.accepts m answer he
    · exact h'.accepts m answer he

/-- No connection could be taken. -/
theorem refused (n k : Nat) (f : SystemFailure) :
    Serving n k [.called (.on n .accept) (.failed f)] := by
  refine ⟨fun _ => rfl, fun _ _ => rfl, fun _ _ => rfl, fun m answer he => ?_⟩
  cases List.mem_singleton.1 he
  rfl

/-- A connection was taken, and it was served. -/
theorem visit (n : Nat) (h : ∀ e ∈ es, e.Concerns k) :
    Serving n k (.called (.on n .accept) .done :: es) := by
  obtain ⟨hbirths, hmade⟩ := births_of_concerns h
  have hcount : births (.called (.on n .accept) .done :: es) = 1 + births es := rfl
  have hclosings : ∀ m, closings m (.called (.on n .accept) .done :: es) = closings m es :=
    fun m => List.countP_cons_of_neg (fun h => nomatch h)
  refine ⟨fun m => ?_, fun m hm => ?_, fun m hm => ?_, fun m answer he => ?_⟩
  · exact (List.nil_append _).trans (hmade _)
  · rw [hclosings, closings_of_concerns h (Nat.ne_of_lt hm)]
  · rw [hcount, hbirths] at hm
    rw [hclosings, closings_of_concerns h (Nat.ne_of_gt (Nat.lt_of_lt_of_le (Nat.lt_succ_self k) hm))]
  · rcases List.mem_cons.1 he with he | he
    · cases he
      rfl
    · exact absurd he (notMem_of_concerns h answer)

end Serving

end Event

/-! ## 4. The loop -/

namespace Site

/-- The end of the thread is noted after the visit, if a failure ended it. -/
theorem handle_cases (c : Socket) (s : Site) :
    let v := Responder.serve s.responder.plan ⟨c, s.system⟩
    (s.handle c).system = v.conclude.2.system ∨
      ∃ f, (s.handle c).system = v.conclude.2.system.note (.threadEnded f) := by
  unfold handle
  dsimp only
  cases (Responder.serve s.responder.plan ⟨c, s.system⟩).conclude.1 with
  | none => exact .inl rfl
  | some f => exact .inr ⟨f, rfl⟩

/-- **A visit** closes its connection once and leaves all else as it was. -/
theorem leaves_handle {c : Socket} (hopen : c.closed = false) (s : Site) :
    ∃ es, s.system.Noted (s.handle c).system es ∧ (∀ e ∈ es, e.Concerns c.descriptor.number) ∧
      Event.closings c.descriptor.number es = 1 ∧
      (s.handle c).system.sockets = s.system.sockets ∧
      (s.handle c).system.nextNumber = s.system.nextNumber ∧
      (c.descriptor.script.Within .closes →
        (s.handle c).system.stopAsked = s.system.stopAsked) := by
  let v := Responder.serve s.responder.plan ⟨c, s.system⟩
  have hserved : (⟨c, s.system⟩ : Session).Leaves v.session := Responder.leaves_serve ..
  obtain ⟨u, hsaid, hclose⟩ := Responder.conclude_eq v
  have hleft := hserved.trans hsaid.leaves
  have hhandled := hleft.handled.trans (Session.handled_closeElsewhere u)
  have hstop : c.descriptor.script.Within .closes →
      u.closeElsewhere.system.stopAsked = s.system.stopAsked := fun hwithin =>
    (Session.system_closeElsewhere u).2.2.trans ((hleft.stays .closes hwithin).stopAsked rfl)
  obtain ⟨es, hnoted, hconcerns, hclosings⟩ := hhandled.noted
  rw [Session.closed_closeElsewhere] at hclosings
  have hclosings : Event.closings c.descriptor.number es = 1 := by
    have hzero : c.closed.toNat = 0 := by rw [hopen]; rfl
    exact (Nat.add_zero _).symm.trans (hzero ▸ hclosings)
  rw [← hclose] at hhandled hnoted hstop
  obtain hsystem | ⟨f, hsystem⟩ := handle_cases c s
  · rw [hsystem]
    exact ⟨es, hnoted, hconcerns, hclosings, hhandled.sockets, hhandled.nextNumber, hstop⟩
  · rw [hsystem]
    refine ⟨es ++ [.threadEnded f], hnoted.trans (System.Noted.note ..), fun e he => ?_, ?_,
      hhandled.sockets, hhandled.nextNumber, hstop⟩
    · rcases List.mem_append.1 he with he | he
      · exact hconcerns e he
      · rw [List.mem_singleton.1 he]
        exact .threadEnded
    · rw [Event.closings_append, hclosings]
      rfl

/-- The loop of the listener of number `n` ran from `s` to `t` and noted `es`. -/
structure Served (n : Nat) (s t : Site) (es : List Event) : Prop where
  noted : s.system.Noted t.system es
  serving : Event.Serving n s.system.nextNumber es
  nextNumber : t.system.nextNumber = s.system.nextNumber + Event.births es
  sockets : t.system.sockets = s.system.sockets
  stopAsked : t.system.stopAsked = s.system.stopAsked
  running : t.responder.running = s.responder.running
  started : t.responder.started = s.responder.started
  unfinished : t.responder.unfinished = s.responder.unfinished
  listener : ∃ l, t.responder.listener = some l ∧ l.Live ∧ l.descriptor.number = n

theorem Served.refl {s : Site} {l : Socket} (hlistener : s.responder.listener = some l)
    (hlive : l.Live) : Served l.descriptor.number s s [] where
  noted := .refl _
  serving := .nil ..
  nextNumber := rfl
  sockets := rfl
  stopAsked := rfl
  running := rfl
  started := rfl
  unfinished := rfl
  listener := ⟨l, hlistener, hlive, rfl⟩

theorem Served.trans {n : Nat} {s t u : Site} {es fs : List Event} (h : Served n s t es)
    (h' : Served n t u fs) : Served n s u (es ++ fs) where
  noted := h.noted.trans h'.noted
  serving := h.serving.append (h.nextNumber ▸ h'.serving)
  nextNumber := by rw [h'.nextNumber, h.nextNumber, Event.births_append, Nat.add_assoc]
  sockets := h'.sockets.trans h.sockets
  stopAsked := h'.stopAsked.trans h.stopAsked
  running := h'.running.trans h.running
  started := h'.started.trans h.started
  unfinished := h'.unfinished.trans h.unfinished
  listener := h'.listener

section Rounds

variable {s : Site} {l : Socket} {t : Session} {es : List Event}

/-- Nobody asked to stop during the accept, so the responder runs as before. -/
theorem running_withListener (hstop : s.system.stopAsked = false)
    (h : Socket.Took ⟨l, s.system⟩ t es) :
    (s.withListener t).responder.running = s.responder.running := by
  have hquiet : t.system.stopAsked = false := h.stopAsked.trans hstop
  show (s.responder.running && !t.system.stopAsked) = _
  rw [hquiet]
  exact Bool.and_true _

/-- An accept that gave no connection. -/
theorem served_withListener (hstop : s.system.stopAsked = false)
    (h : Socket.Took ⟨l, s.system⟩ t es)
    (hserving : Event.Serving l.descriptor.number s.system.nextNumber es) :
    Served l.descriptor.number s (s.withListener t) es where
  noted := h.noted
  serving := hserving
  nextNumber := h.nextNumber
  sockets := h.sockets
  stopAsked := hstop.symm
  running := running_withListener hstop h
  started := rfl
  unfinished := rfl
  listener := ⟨_, rfl, h.live, h.number⟩

/-- An accept that gave a connection, and the visit of this connection. -/
theorem served_handle (hstop : s.system.stopAsked = false) {c : Socket} {answer : Answer}
    (h : Socket.Took ⟨l, s.system⟩ t [.called (.on l.descriptor.number .accept) .done,
      .called (.on s.system.nextNumber (.setTimeout none)) answer])
    (hnumber : c.descriptor.number = s.system.nextNumber) (hopen : c.closed = false)
    (hwithin : c.descriptor.script.Within .closes) :
    ∃ es, Served l.descriptor.number s ((s.withListener t).handle c) es := by
  obtain ⟨es, hnoted, hconcerns, -, hsockets, hnext, hmark⟩ :=
    leaves_handle hopen (s.withListener t)
  have hvisit : ∀ e ∈ Event.called (.on s.system.nextNumber (.setTimeout none)) answer :: es,
      e.Concerns s.system.nextNumber := by
    intro e he
    rcases List.mem_cons.1 he with rfl | he
    · exact .operation (fun h => nomatch h)
    · exact hnumber ▸ hconcerns e he
  have hcount : Event.births (.called (.on l.descriptor.number .accept) .done ::
      .called (.on s.system.nextNumber (.setTimeout none)) answer :: es) = 1 + 0 :=
    congrArg (1 + ·) (Event.births_of_concerns hvisit).1
  exact ⟨_,
    { noted := h.noted.trans hnoted
      serving := .visit _ hvisit
      nextNumber :=
        (hnext.trans h.nextNumber).trans (congrArg (s.system.nextNumber + ·) hcount.symm)
      sockets := hsockets.trans h.sockets
      stopAsked := (hmark hwithin).trans hstop.symm
      running := running_withListener hstop h
      started := rfl
      unfinished := rfl
      listener := ⟨_, rfl, h.live, h.number⟩ }⟩

/-- One round, with the visit of the connection that it takes. -/
theorem served_acceptOnce {s : Site} (hlistener : s.responder.listener = some l) (hlive : l.Live)
    (hstop : s.system.stopAsked = false) :
    ∃ es, Served l.descriptor.number s s.acceptOnce.served es := by
  unfold acceptOnce
  split
  · rw [hlistener]
    dsimp only
    cases ht : Socket.accept ⟨l, s.system⟩ with
    | ok connection t =>
      cases Socket.accepts_of_eq hlive ht with
      | none => exact ⟨[], served_withListener hstop (.refl hlive) (.nil ..)⟩
      | taken htook hnumber hopen hwithin => exact served_handle hstop htook hnumber hopen hwithin
    | error f t =>
      cases Socket.accepts_of_eq hlive ht with
      | refused htook =>
        have hround := served_withListener hstop htook (.refused ..)
        unfold proceed
        dsimp only
        split
        · exact ⟨_, hround⟩
        · split
          · exact ⟨_, { hround with }⟩
          · exact ⟨_, hround⟩
      | hurried htook =>
        refine ⟨_, served_withListener hstop htook (.visit _ fun e he => ?_)⟩
        rw [List.mem_singleton.1 he]
        exact .operation (fun h => nomatch h)
  · exact ⟨[], .refl hlistener hlive⟩

end Rounds

/-- **The accept loop** of a live listener, however far it goes. -/
theorem served_acceptAll {s : Site} {l : Socket} (hlistener : s.responder.listener = some l)
    (hlive : l.Live) (hstop : s.system.stopAsked = false) :
    ∃ es, Served l.descriptor.number s s.acceptAll.2 es := by
  -- The induction is on the rounds, and a round leaves a live listener of the same number.
  fun_induction acceptAll s generalizing l with
  | case1 s pause t hround =>
    have hserved := served_acceptOnce hlistener hlive hstop
    rwa [hround] at hserved
  | case2 s t hround ih =>
    obtain ⟨es, hserved⟩ := served_acceptOnce hlistener hlive hstop
    rw [hround] at hserved
    obtain ⟨m, hm, hlive', hsame⟩ := hserved.listener
    obtain ⟨fs, hrest⟩ := ih hm hlive' (hserved.stopAsked.trans hstop)
    exact ⟨_, hserved.trans (hsame ▸ hrest)⟩
  | case3 s c t hround ih =>
    obtain ⟨es, hserved⟩ := served_acceptOnce hlistener hlive hstop
    rw [hround] at hserved
    obtain ⟨m, hm, hlive', hsame⟩ := hserved.listener
    obtain ⟨fs, hrest⟩ := ih hm hlive' (hserved.stopAsked.trans hstop)
    exact ⟨_, hserved.trans (hsame ▸ hrest)⟩

end Site

end HttpProbe
