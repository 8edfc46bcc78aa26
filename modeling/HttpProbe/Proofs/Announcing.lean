import HttpProbe.Proofs.Confinement

/-!
# What the word to the log costs

After a socket was connected or bound, a word to the log says to which address, and the system is
asked twice for it and for its names: once for the host, once for the port. The socket has its
address by then, but the caller learns of a look-up that fails all the same:

* `Session.call_of_alive`: a call in which nobody closes the socket, by the next reply of its queue;
* `Named`, `Announced`: a look-up that the replies answer with a port that can be read, and the two
  of one word to the log;
* `Poised`: an open end with its address, and what is left of the queues;
* `nameOf_cases`: one look-up takes a reply of each, and `announce_cases`: so the word is said
  exactly when both are answered;
* `resolve_cases`, `place_cases`: an address is found, and an end has it exactly when the system
  does not refuse it;
* `Undisturbed`, `Ending`: the ways in which connecting and binding end when nobody closes the
  socket (`ends_connect`, `ends_bind`);
* **`connect_bind_fail_iff`**: they fail exactly when no address is found, or the system refuses it,
  or it cannot be told for the log; and in the last case the socket is connected or bound.

Connecting and binding are the same with the two ends of a connection changed, so all but the
operations themselves is said once for an end.
-/

namespace HttpProbe

/-- Other threads may ask the responder to stop, and do no more. -/
def Interference.stops : Interference := { stopping := true }

theorem Interference.closing_of_stops {m : Interference} (h : stops.Within m) :
    m.closing = false :=
  eq_false_of_ne_true fun hr => absurd (h.1 hr) Bool.false_ne_true

/-! ## 1. Answers of the system -/

/-- What the system answers by an outcome, if `usual` is what it does when nothing else is said. -/
def Outcome.answer {α : Type} (o : Outcome α) (usual : Except SystemFailure α) :
    Except SystemFailure α :=
  match o with
  | .usual => usual
  | .value a => .ok a
  | .failure f => .error f

theorem System.named_eq (s : System) (a : Address) :
    s.named a = (nextOutcome s.descriptions).1.answer (.ok (a.host, toString a.port)) := by
  unfold named
  cases (nextOutcome s.descriptions).1 <;> rfl

namespace Session

variable {α : Type}

/-- The session after a call that took a reply of the descriptor. -/
def taken (s : Session) (operation : Operation) (answer : Answer)
    (take : Script → Reply α × Script) : Session where
  socket := { s.socket with descriptor.script := (take s.socket.descriptor.script).2 }
  system := { s.system.note (.called (.on s.socket.descriptor.number operation) answer) with
    stopAsked := s.system.stopAsked || (take s.socket.descriptor.script).1.stopping }

/-- The end of a call in which the system answered so. -/
def answered (s : Session) (operation : Operation) (take : Script → Reply α × Script)
    (data : α → Answer) : Except SystemFailure α → EStateM.Result SystemFailure Session α
  | .ok a => .ok a (s.taken operation (data a) take)
  | .error f => .error f (s.taken operation (.failed f) take)

/-- **A call in which nobody closes the socket** takes one reply and comes to it. -/
theorem call_of_alive {operation : Operation} {take : Script → Reply α × Script}
    {usual : Descriptor → Except SystemFailure α} {data : α → Answer} {s : Session}
    (halive : s.socket.descriptor.dead = false)
    (hclosing : (take s.socket.descriptor.script).1.closing = false) :
    call operation take usual data s =
      s.answered operation take data
        ((take s.socket.descriptor.script).1.outcome.answer (usual s.socket.descriptor)) := by
  rw [call_quiet hclosing]
  unfold Descriptor.reply
  rw [if_neg (by simp [halive])]
  dsimp only
  cases (take s.socket.descriptor.script).1.outcome with
  | usual =>
    dsimp only [Outcome.answer]
    cases usual s.socket.descriptor <;> rfl
  | value a => rfl
  | failure f => rfl

/-- A call without a result is refused or done. -/
theorem act_cases (operation : Operation) {take : Script → Reply Unit × Script} {s : Session}
    (halive : s.socket.descriptor.dead = false)
    (hclosing : (take s.socket.descriptor.script).1.closing = false) :
    (∃ f, (take s.socket.descriptor.script).1.outcome = .failure f ∧
        act operation take s
          = .error f (s.taken operation (.failed f) take)) ∨
      (∀ f, (take s.socket.descriptor.script).1.outcome ≠ .failure f) ∧
        act operation take s = .ok () (s.taken operation .done take) := by
  unfold act
  rw [call_of_alive halive hclosing]
  cases (take s.socket.descriptor.script).1.outcome with
  | usual => exact .inr ⟨by simp, rfl⟩
  | value a => exact .inr ⟨by simp, rfl⟩
  | failure f => exact .inl ⟨f, rfl, rfl⟩

theorem noted_taken (s : Session) (operation : Operation) (answer : Answer)
    (take : Script → Reply α × Script) :
    s.system.Noted (s.taken operation answer take).system
      [.called (.on s.socket.descriptor.number operation) answer] :=
  System.Noted.note ..

end Session

namespace Socket

open Session

/-! ## 2. The ends -/

namespace End

/-- The queue of replies to the call that asks for the address of an end. -/
def replies (s : Script) : End → List (Reply Address)
  | here => s.getsockname
  | there => s.getpeername

/-- Takes the next of them. -/
def take : End → Script → Reply Address × Script
  | here => Script.takeGetsockname
  | there => Script.takeGetpeername

/-- The address of an end. -/
def address? (d : Descriptor) : End → Option Address
  | here => some d.localAddress
  | there => d.peer

/-- The queue of replies to the call that gives an end its address. -/
def placings (s : Script) : End → List (Reply Unit)
  | here => s.bind
  | there => s.connect

/-- That call. -/
def placing (a : Address) : End → Operation
  | here => .bind a
  | there => .connect a

/-- The address that an end then has. The system picks a port if it is asked for none. -/
def placed (a : Address) : End → Address
  | here => { a with port := if a.port = 0 then freePort else a.port }
  | there => a

end End

/-- Gives an end its address. -/
def place (a : Address) : End → CallM Unit
  | .here => occupy a
  | .there => attach a

/-! ## 3. Look-ups for the log -/

/-- A look-up of an end with the address `own` is answered: the system tells the address, and names
of it with a port that can be read. -/
def Named (reply : Reply Address) (description : Outcome (String × String)) (own : Address) :
    Prop :=
  ∃ a names, reply.outcome.answer (.ok own) = .ok a ∧
    description.answer (.ok (a.host, toString a.port)) = .ok names ∧ Numeric names.2

/-- Both look-ups are answered, the one for the host and the one for the port. -/
def Announced (replies : List (Reply Address)) (descriptions : List (Outcome (String × String)))
    (own : Address) : Prop :=
  Named (Reply.next replies).1 (System.nextOutcome descriptions).1 own ∧
    Named (Reply.next (Reply.next replies).2).1
      (System.nextOutcome (System.nextOutcome descriptions).2).1 own

/-- An open socket with the address of an end, and what the system will say of it. Nobody closes the
socket meanwhile. -/
structure Poised (e : End) (own : Address) (replies : List (Reply Address))
    (descriptions : List (Outcome (String × String))) (s : Session) : Prop where
  isOpen : s.socket.closed = false
  alive : s.socket.descriptor.dead = false
  quiet : ∀ r ∈ replies, r.closing = false
  unheard : ∀ m ∈ s.socket.descriptor.script.describe, m.closing = false
  replies : e.replies s.socket.descriptor.script = replies
  descriptions : s.system.descriptions = descriptions
  address : e.address? s.socket.descriptor = some own

/-- From the first session to the second one something was noted, and the socket is open and has the
address of the end. -/
structure Stands (e : End) (own : Address) (s t : Session) : Prop where
  isOpen : t.socket.closed = false
  address : e.address? t.socket.descriptor = some own
  noted : ∃ es, s.system.Noted t.system es

section LookUps

variable {e : End} {own : Address} {replies : List (Reply Address)}
  {descriptions : List (Outcome (String × String))} {s t : Session}

theorem Poised.stands (h : Poised e own replies descriptions t)
    (hnoted : ∃ es, s.system.Noted t.system es) : Stands e own s t :=
  ⟨h.isOpen, h.address, hnoted⟩

theorem Stands.after (h : Stands e own t s) {u : Session}
    (hnoted : ∃ es, u.system.Noted t.system es) : Stands e own u s := by
  obtain ⟨es, hes⟩ := hnoted
  obtain ⟨fs, hfs⟩ := h.noted
  exact ⟨h.isOpen, h.address, _, hes.trans hfs⟩

theorem Stands.say (h : Stands e own s t) (level : Log.Level) (source : Log.Source)
    (message : String) : Stands e own s (t.say level source message) :=
  ⟨h.isOpen, h.address, h.noted⟩

/-- The session after a look-up of names. -/
def described (s : Session) (a : Address) (answer : Answer) : Session :=
  s.apart s.socket.descriptor.script.takeDescribe
    ({ s.system with descriptions := (System.nextOutcome s.system.descriptions).2 }.note
      (.called (.getnameinfo a) answer))

theorem describe_eq_answer (a : Address) {s : Session}
    (h : ∀ m ∈ s.socket.descriptor.script.describe, m.closing = false) :
    outside Script.takeDescribe (System.describe a) s =
      match (System.nextOutcome s.system.descriptions).1.answer (.ok (a.host, toString a.port)) with
      | .ok names => .ok names (described s a .done)
      | .error f => .error f (described s a (.failed f)) := by
  rw [outside_quiet (Interference.closing_next h), System.describe_eq, System.named_eq]
  cases (System.nextOutcome s.system.descriptions).1.answer (.ok (a.host, toString a.port)) <;> rfl

theorem addressOf_eq_answered (h : Poised e own replies descriptions s) :
    addressOf e s =
      s.answered e.operation e.take (fun _ => .done)
        ((Reply.next replies).1.outcome.answer (.ok own)) := by
  have hclosing := Reply.closing_next h.quiet
  obtain ⟨-, halive, -, -, rfl, -, haddress⟩ := h
  cases e with
  | here =>
    obtain rfl : s.socket.descriptor.localAddress = own := Option.some.inj haddress
    have hquiet : (Script.takeGetsockname s.socket.descriptor.script).1.closing = false := hclosing
    exact call_of_alive halive hquiet
  | there =>
    have hpeer : s.socket.descriptor.peer = some own := haddress
    have hquiet : (Script.takeGetpeername s.socket.descriptor.script).1.closing = false := hclosing
    have hcall : addressOf .there s = _ := call_of_alive halive hquiet
    rw [hcall, hpeer]
    rfl

theorem poised_taken (h : Poised e own replies descriptions s) (answer : Answer) :
    Poised e own (Reply.next replies).2 descriptions (s.taken e.operation answer e.take) := by
  obtain ⟨hopen, halive, hquiet, hunheard, rfl, hdescriptions, haddress⟩ := h
  have hrest : ∀ r ∈ (Reply.next (e.replies s.socket.descriptor.script)).2, r.closing = false :=
    fun r hr => hquiet r (Reply.mem_of_mem_next hr)
  cases e with
  | here => exact ⟨hopen, halive, hrest, hunheard, rfl, hdescriptions, haddress⟩
  | there => exact ⟨hopen, halive, hrest, hunheard, rfl, hdescriptions, haddress⟩

theorem poised_described (h : Poised e own replies descriptions s) (a : Address) (answer : Answer) :
    Poised e own replies (System.nextOutcome descriptions).2 (described s a answer) := by
  obtain ⟨hopen, halive, hquiet, hunheard, hreplies, rfl, haddress⟩ := h
  have hrest : ∀ m ∈ s.socket.descriptor.script.takeDescribe.2.describe, m.closing = false :=
    fun m hm => hunheard m (Interference.mem_of_mem_next hm)
  cases e with
  | here => exact ⟨hopen, halive, hquiet, hrest, hreplies, rfl, haddress⟩
  | there => exact ⟨hopen, halive, hquiet, hrest, hreplies, rfl, haddress⟩

/-- **One look-up** takes a reply and a description, and goes well exactly when they answer it. -/
theorem nameOf_cases (h : Poised e own replies descriptions s) :
    (∃ name t, nameOf e s = .ok name t ∧
        Named (Reply.next replies).1 (System.nextOutcome descriptions).1 own ∧
        Poised e own (Reply.next replies).2 (System.nextOutcome descriptions).2 t ∧
        ∃ es, s.system.Noted t.system es) ∨
      ∃ f t, nameOf e s = .error f t ∧
        ¬ Named (Reply.next replies).1 (System.nextOutcome descriptions).1 own ∧
        Stands e own s t := by
  have haddressOf := addressOf_eq_answered h
  have htaken (answer : Answer) :
      ∃ es, s.system.Noted (s.taken e.operation answer e.take).system es := ⟨_, noted_taken ..⟩
  unfold nameOf
  rw [bind_of_ok (requireOpen_of_open h.isOpen _)]
  cases hanswer : (Reply.next replies).1.outcome.answer (.ok own) with
  | error f =>
    rw [hanswer] at haddressOf
    refine .inr ⟨_, _, bind_of_error (guarded_of_error (bind_of_error haddressOf)), ?_,
      (poised_taken h _).stands (htaken _)⟩
    rintro ⟨a, names, ha, -⟩
    cases hanswer.symm.trans ha
  | ok a =>
    rw [hanswer] at haddressOf
    have hpoised := poised_taken h .done
    have hdescribe := describe_eq_answer a hpoised.unheard
    rw [hpoised.descriptions] at hdescribe
    have hdescribed (answer : Answer) :
        Poised e own (Reply.next replies).2 (System.nextOutcome descriptions).2
            (described (s.taken e.operation .done e.take) a answer) ∧
          ∃ es, s.system.Noted (described (s.taken e.operation .done e.take) a answer).system es :=
      ⟨poised_described hpoised a answer, _,
        (noted_taken s e.operation .done e.take).trans (System.Noted.note ..)⟩
    cases hnames : (System.nextOutcome descriptions).1.answer (.ok (a.host, toString a.port)) with
    | error f =>
      rw [hnames] at hdescribe
      refine .inr ⟨_, _, bind_of_error (guarded_of_error
        ((bind_of_ok haddressOf).trans hdescribe)), ?_,
        (hdescribed _).1.stands (hdescribed _).2⟩
      rintro ⟨a', names, ha, hdescription, -⟩
      obtain rfl := Except.ok.inj (hanswer.symm.trans ha)
      cases hnames.symm.trans hdescription
    | ok names =>
      rw [hnames] at hdescribe
      rw [bind_of_ok (guarded_of_ok ((bind_of_ok haddressOf).trans hdescribe))]
      dsimp only
      cases hport : Whole.read names.2 with
      | ok port =>
        exact .inl ⟨_, _, rfl, ⟨a, names, hanswer, hnames, port, hport⟩, hdescribed .done⟩
      | error why =>
        refine .inr ⟨_, _, rfl, ?_, (hdescribed .done).1.stands (hdescribed .done).2⟩
        rintro ⟨a', names', ha, hdescription, n, hn⟩
        obtain rfl := Except.ok.inj (hanswer.symm.trans ha)
        obtain rfl := Except.ok.inj (hnames.symm.trans hdescription)
        cases hport.symm.trans hn

/-- **The word is said exactly when both look-ups are answered.** The socket stands either way. -/
theorem announce_cases (h : Poised e own replies descriptions s) (word : String → String) :
    (∃ t, (endpoint e >>= fun text => HttpProbe.say .debug .socket (word text)) s = .ok () t ∧
        Announced replies descriptions own ∧ Stands e own s t) ∨
      ∃ f t, (endpoint e >>= fun text => HttpProbe.say .debug .socket (word text)) s = .error f t ∧
        ¬ Announced replies descriptions own ∧ Stands e own s t := by
  rcases nameOf_cases h with
    ⟨name, t, hname, hfirst, hpoised, hnoted⟩ | ⟨f, t, hname, hfirst, hstands⟩
  · have hhost : hostOf e s = .ok name.1 t := bind_of_ok hname
    rcases nameOf_cases hpoised with
      ⟨service, u, hservice, hsecond, hpoised', hnoted'⟩ | ⟨f, u, hservice, hsecond, hstands⟩
    · have hport : portOf e t = .ok service.2 u := bind_of_ok hservice
      have hendpoint : endpoint e s = .ok s!"{name.1}:{service.2}" u := by
        unfold endpoint
        rw [bind_of_ok hhost, bind_of_ok hport]
        rfl
      refine .inl ⟨_, bind_of_ok hendpoint, ⟨hfirst, hsecond⟩, ?_⟩
      exact ((hpoised'.stands hnoted').after hnoted).say ..
    · have hport : portOf e t = .error f u := bind_of_error hservice
      have hendpoint : endpoint e s = .error f u := by
        unfold endpoint
        rw [bind_of_ok hhost, bind_of_error hport]
      exact .inr ⟨f, u, bind_of_error hendpoint, fun ha => hsecond ha.2, hstands.after hnoted⟩
  · have hhost : hostOf e s = .error f t := bind_of_error hname
    have hendpoint : endpoint e s = .error f t := by
      unfold endpoint
      rw [bind_of_error hhost]
    exact .inr ⟨f, t, bind_of_error hendpoint, fun ha => hfirst ha.1, hstands⟩

end LookUps

/-! ## 4. Addresses -/

/-- The host and the service can be looked up, and the look-up finds the address first. -/
structure Resolves (s : Session) (host : String) (service : Service) (a : Address) : Prop where
  asks : unaskable? s.system host service = none
  finds : ∃ rest, s.system.found host service.text? = .ok (a :: rest)

/-- The system refuses the next call of the queue. -/
def Refused (q : List (Reply Unit)) : Prop := ∃ f, (Reply.next q).1.outcome = .failure f

theorem Resolves.unique {s : Session} {host : String} {service : Service} {a b : Address}
    (ha : Resolves s host service a) (hb : Resolves s host service b) : a = b := by
  obtain ⟨rest, ha⟩ := ha.finds
  obtain ⟨rest', hb⟩ := hb.finds
  exact (List.cons.inj (Except.ok.inj (ha.symm.trans hb))).1

/-- What comes before an end is given its address leaves what decides on it. -/
structure Before (e : End) (s t : Session) : Prop where
  isOpen : t.socket.closed = s.socket.closed
  alive : t.socket.descriptor.dead = s.socket.descriptor.dead
  number : t.socket.descriptor.number = s.socket.descriptor.number
  placings : e.placings t.socket.descriptor.script = e.placings s.socket.descriptor.script
  replies : e.replies t.socket.descriptor.script = e.replies s.socket.descriptor.script
  describe : t.socket.descriptor.script.describe = s.socket.descriptor.script.describe
  descriptions : t.system.descriptions = s.system.descriptions
  noted : ∃ es, s.system.Noted t.system es

section Places

variable {e : End} {s t : Session} {host : String} {service : Service}

/-- The session after a look-up of addresses. -/
def sought (s : Session) (host : String) (service : Service) (answer : Answer) : Session :=
  s.apart s.socket.descriptor.script.takeLookUp
    ({ s.system with lookUps := (System.nextOutcome s.system.lookUps).2 }.note
      (.called (lookUpCall s.socket host service) answer))

theorem lookUp_eq_found {s : Session} (host : String) (service : Service)
    (h : ∀ m ∈ s.socket.descriptor.script.lookUp, m.closing = false) :
    outside Script.takeLookUp
        (System.lookUp host service.text? s.socket.family s.socket.kind s.socket.protocol) s =
      match s.system.found host service.text? with
      | .ok addresses => .ok addresses (sought s host service .done)
      | .error f => .error f (sought s host service (.failed f)) := by
  rw [outside_quiet (Interference.closing_next h), System.lookUp_eq]
  cases s.system.found host service.text? <;> rfl

theorem resolve_cases (e : End) (host : String) (service : Service)
    (h : ∀ m ∈ s.socket.descriptor.script.lookUp, m.closing = false) :
    (∃ a t, resolve host service s = .ok a t ∧ Resolves s host service a ∧
        t.socket = { s.socket with descriptor.script := s.socket.descriptor.script.takeLookUp.2 } ∧
        Before e s t) ∨
      ∃ f t, resolve host service s = .error f t ∧ ∀ a, ¬ Resolves s host service a := by
  cases hasks : unaskable? s.system host service with
  | some f =>
    refine .inr ⟨f, s, resolve_of_unaskable hasks, fun a ha => ?_⟩
    cases hasks.symm.trans ha.asks
  | none =>
    rw [resolve_of_askable hasks]
    have hlookUp := lookUp_eq_found host service h
    cases hfound : s.system.found host service.text? with
    | error f =>
      rw [hfound] at hlookUp
      refine .inr ⟨_, _, bind_of_error (guarded_of_error hlookUp), ?_⟩
      rintro a ⟨-, rest, ha⟩
      cases hfound.symm.trans ha
    | ok addresses =>
      rw [hfound] at hlookUp
      rw [bind_of_ok (guarded_of_ok hlookUp)]
      cases addresses with
      | nil =>
        refine .inr ⟨_, _, rfl, ?_⟩
        rintro a ⟨-, rest, ha⟩
        cases hfound.symm.trans ha
      | cons a rest =>
        have hbefore : Before e s (sought s host service .done) := by
          cases e <;> exact ⟨rfl, rfl, rfl, rfl, rfl, rfl, rfl, _, System.Noted.note ..⟩
        exact .inl ⟨a, _, rfl, ⟨hasks, rest, hfound⟩, rfl, hbefore⟩

/-- **An end has its address exactly when the system does not refuse it.** -/
theorem place_cases (a : Address) (hopen : s.socket.closed = false)
    (halive : s.socket.descriptor.dead = false)
    (hplacings : ∀ r ∈ e.placings s.socket.descriptor.script, r.closing = false)
    (hreplies : ∀ r ∈ e.replies s.socket.descriptor.script, r.closing = false)
    (hunheard : ∀ m ∈ s.socket.descriptor.script.describe, m.closing = false) :
    (Refused (e.placings s.socket.descriptor.script) ∧ ∃ f t, guarded (place a e) s = .error f t) ∨
      ¬ Refused (e.placings s.socket.descriptor.script) ∧ ∃ t, guarded (place a e) s = .ok () t ∧
        Poised e (e.placed a) (e.replies s.socket.descriptor.script) s.system.descriptions t ∧
        s.system.Noted t.system [.called (.on s.socket.descriptor.number (e.placing a)) .done] := by
  have hclosing := Reply.closing_next hplacings
  cases e with
  | here =>
    have hquiet : (Script.takeBind s.socket.descriptor.script).1.closing = false := hclosing
    rcases act_cases (.bind a) halive hquiet with ⟨f, hrefused, hcall⟩ | ⟨hnot, hcall⟩
    · exact .inl ⟨⟨f, hrefused⟩, _, _, guarded_of_error (bind_of_error hcall)⟩
    · refine .inr ⟨fun ⟨f, hf⟩ => hnot f hf, _, guarded_of_ok (bind_of_ok hcall), ?_,
        System.Noted.note ..⟩
      exact ⟨hopen, halive, hreplies, hunheard, rfl, rfl, rfl⟩
  | there =>
    have hquiet : (Script.takeConnect s.socket.descriptor.script).1.closing = false := hclosing
    rcases act_cases (.connect a) halive hquiet with ⟨f, hrefused, hcall⟩ | ⟨hnot, hcall⟩
    · exact .inl ⟨⟨f, hrefused⟩, _, _, guarded_of_error (bind_of_error hcall)⟩
    · refine .inr ⟨fun ⟨f, hf⟩ => hnot f hf, _, guarded_of_ok (bind_of_ok hcall), ?_,
        System.Noted.note ..⟩
      exact ⟨hopen, halive, hreplies, hunheard, rfl, rfl, rfl⟩

end Places

/-! ## 5. Connecting and binding -/

/-- The socket is open and nobody closes it, and the system does not fail to set a timeout. -/
structure Undisturbed (s : Session) : Prop where
  isOpen : s.socket.closed = false
  alive : s.socket.descriptor.dead = false
  within : s.socket.descriptor.script.Within .stops
  timed : ∀ r ∈ s.socket.descriptor.script.setTimeout, ∀ f, r.outcome ≠ .failure f

/-- The end has its address: the socket is open, and the system did as it was told. -/
structure Established (e : End) (a : Address) (s t : Session) : Prop where
  isOpen : t.socket.closed = false
  address : e.address? t.socket.descriptor = some (e.placed a)
  noted : ∃ es, s.system.Noted t.system es ∧
    .called (.on s.socket.descriptor.number (e.placing a)) .done ∈ es

/-- How connecting or binding ends. -/
inductive Ending (e : End) (host : String) (service : Service) (s : Session) :
    EStateM.Result Failure Session Unit → Prop where
  /-- No address was found. -/
  | unresolved {f : Failure} {t : Session} (h : ∀ a, ¬ Resolves s host service a) :
    Ending e host service s (.error f t)
  /-- The system refuses the address. -/
  | refused {a : Address} {f : Failure} {t : Session} (ha : Resolves s host service a)
    (h : Refused (e.placings s.socket.descriptor.script)) : Ending e host service s (.error f t)
  /-- The end has its address, and it cannot be told for the log. -/
  | untold {a : Address} {f : Failure} {t : Session} (ha : Resolves s host service a)
    (hplaced : ¬ Refused (e.placings s.socket.descriptor.script))
    (h : ¬ Announced (e.replies s.socket.descriptor.script) s.system.descriptions (e.placed a))
    (ht : Established e a s t) : Ending e host service s (.error f t)
  /-- The end has its address, and the log tells it. -/
  | told {a : Address} {t : Session} (ha : Resolves s host service a)
    (hplaced : ¬ Refused (e.placings s.socket.descriptor.script))
    (h : Announced (e.replies s.socket.descriptor.script) s.system.descriptions (e.placed a))
    (ht : Established e a s t) : Ending e host service s (.ok () t)

section Establishing

variable {e : End} {s t u : Session} {a : Address} {host : String} {service : Service}

theorem Before.trans (h : Before e s t) (h' : Before e t u) : Before e s u := by
  obtain ⟨es, hes⟩ := h.noted
  obtain ⟨fs, hfs⟩ := h'.noted
  exact ⟨h'.isOpen.trans h.isOpen, h'.alive.trans h.alive, h'.number.trans h.number,
    h'.placings.trans h.placings, h'.replies.trans h.replies, h'.describe.trans h.describe,
    h'.descriptions.trans h.descriptions, _, hes.trans hfs⟩

theorem Undisturbed.placings (h : Undisturbed s) :
    ∀ r ∈ e.placings s.socket.descriptor.script, r.closing = false := by
  cases e with
  | here => exact fun r hr => Interference.closing_of_stops (h.within.bind r hr)
  | there => exact fun r hr => Interference.closing_of_stops (h.within.connect r hr)

theorem Undisturbed.replies (h : Undisturbed s) :
    ∀ r ∈ e.replies s.socket.descriptor.script, r.closing = false := by
  cases e with
  | here => exact fun r hr => Interference.closing_of_stops (h.within.getsockname r hr)
  | there => exact fun r hr => Interference.closing_of_stops (h.within.getpeername r hr)

theorem Undisturbed.unheard (h : Undisturbed s) :
    ∀ m ∈ s.socket.descriptor.script.describe, m.closing = false :=
  fun m hm => Interference.closing_of_stops (h.within.describe m hm)

theorem Undisturbed.unsought (h : Undisturbed s) :
    ∀ m ∈ s.socket.descriptor.script.lookUp, m.closing = false :=
  fun m hm => Interference.closing_of_stops (h.within.lookUp m hm)

theorem Stands.established (h : Stands e (e.placed a) t u) {es : List Event}
    (hnoted : s.system.Noted t.system es)
    (hplaced : .called (.on s.socket.descriptor.number (e.placing a)) .done ∈ es) :
    Established e a s u := by
  obtain ⟨fs, hfs⟩ := h.noted
  exact ⟨h.isOpen, h.address, _, hnoted.trans hfs, List.mem_append_left _ hplaced⟩

/-- Before connecting a timeout is set if there is one, and the system does not fail to set it. -/
theorem before_applyTimeout (h : Undisturbed s)
    (hsocket : t.socket =
      { s.socket with descriptor.script := s.socket.descriptor.script.takeLookUp.2 })
    (seconds : Option Binary64) :
    ∃ u, (if seconds.isSome then bare (applyTimeout seconds) else pure ()) t = .ok () u ∧
      Before e t u := by
  split
  · have hquiet : (Script.takeSetTimeout t.socket.descriptor.script).1.closing = false := by
      rw [hsocket]
      exact Reply.closing_next fun r hr => Interference.closing_of_stops (h.within.setTimeout r hr)
    have halive : t.socket.descriptor.dead = false := by rw [hsocket]; exact h.alive
    rcases act_cases (.setTimeout seconds) halive hquiet with ⟨f, hf, -⟩ | ⟨-, hcall⟩
    · rw [hsocket] at hf
      obtain ⟨r, hr, hr'⟩ := Reply.mem_of_next_failure hf
      exact absurd hr' (h.timed r hr f)
    · have hbare : bare (applyTimeout seconds) t =
          .ok () (t.taken (.setTimeout seconds) .done Script.takeSetTimeout) := by
        rw [bare, EStateM.adaptExcept, applyTimeout, hcall]
      refine ⟨_, hbare, rfl, rfl, rfl, ?_, ?_, rfl, rfl, _, noted_taken ..⟩
      · cases e <;> rfl
      · cases e <;> rfl
  · exact ⟨t, rfl, rfl, rfl, rfl, rfl, rfl, rfl, rfl, _, .refl _⟩

/-- **Giving an end its address and saying so**, after what comes before. -/
theorem ends_placing (h : Undisturbed s) (ha : Resolves s host service a) (hbefore : Before e s t)
    (word : String → String) :
    Ending e host service s
      ((guarded (place a e) >>= fun _ =>
        endpoint e >>= fun text => HttpProbe.say .debug .socket (word text)) t) := by
  have hplacings := h.placings (e := e)
  have hreplies := h.replies (e := e)
  have hunheard := h.unheard
  rw [← hbefore.placings] at hplacings
  rw [← hbefore.replies] at hreplies
  rw [← hbefore.describe] at hunheard
  rcases place_cases a (hbefore.isOpen.trans h.isOpen) (hbefore.alive.trans h.alive) hplacings
    hreplies hunheard with ⟨hrefused, f, u, hplace⟩ | ⟨hplaced, u, hplace, hpoised, hnoted⟩
  · rw [bind_of_error hplace]
    exact .refused ha (hbefore.placings ▸ hrefused)
  · rw [bind_of_ok hplace]
    rw [hbefore.placings] at hplaced
    rw [hbefore.replies, hbefore.descriptions] at hpoised
    rw [hbefore.number] at hnoted
    obtain ⟨es, hes⟩ := hbefore.noted
    have hmem : .called (.on s.socket.descriptor.number (e.placing a)) .done ∈
        es ++ [.called (.on s.socket.descriptor.number (e.placing a)) .done] :=
      List.mem_append_right _ List.mem_cons_self
    rcases announce_cases hpoised word with ⟨v, hv, hsaid, hstands⟩ | ⟨f, v, hv, hunsaid, hstands⟩
    · rw [hv]
      exact .told ha hplaced hsaid (hstands.established (hes.trans hnoted) hmem)
    · rw [hv]
      exact .untold ha hplaced hunsaid (hstands.established (hes.trans hnoted) hmem)

theorem ends_connect (h : Undisturbed s) (host : String) (service : Service)
    (timeout : Option Binary64) :
    Ending .there host service s (connect host service timeout s) := by
  unfold connect
  rw [bind_of_ok (requireOpen_of_open h.isOpen _)]
  rcases resolve_cases .there host service h.unsought with
    ⟨a, t, ht, ha, hsocket, hbefore⟩ | ⟨f, t, ht, hnone⟩
  · rw [bind_of_ok ht]
    obtain ⟨u, hu, hbefore'⟩ := before_applyTimeout (e := .there) h hsocket timeout
    have hrest := ends_placing h ha (hbefore.trans hbefore') fun text => s!"connected to {text}"
    rw [← bind_of_ok (k := fun _ => guarded (place a .there) >>= fun _ =>
      endpoint .there >>= fun text => HttpProbe.say .debug .socket s!"connected to {text}") hu]
      at hrest
    -- without a timeout the step before the call is not there at all
    cases htimeout : timeout.isSome with
    | true =>
      rw [htimeout] at hrest
      exact hrest
    | false =>
      rw [htimeout] at hrest
      exact hrest
  · rw [bind_of_error ht]
    exact .unresolved hnone

theorem ends_bind (h : Undisturbed s) (host : String) (service : Service) :
    Ending .here host service s (bind host service s) := by
  unfold bind
  rw [bind_of_ok (requireOpen_of_open h.isOpen _)]
  rcases resolve_cases .here host service h.unsought with
    ⟨a, t, ht, ha, -, hbefore⟩ | ⟨f, t, ht, hnone⟩
  · rw [bind_of_ok ht]
    exact ends_placing h ha hbefore _
  · rw [bind_of_error ht]
    exact .unresolved hnone

/-- What it comes to when an end is given its address. -/
structure Establishes (e : End) (host : String) (service : Service) (s : Session)
    (r : EStateM.Result Failure Session Unit) : Prop where
  /-- It fails exactly when no address is found, or the system refuses it, or it cannot be told for
  the log. -/
  fails_iff : (∃ f t, r = .error f t) ↔
    (∀ a, ¬ Resolves s host service a) ∨ Refused (e.placings s.socket.descriptor.script) ∨
      ∃ a, Resolves s host service a ∧
        ¬ Announced (e.replies s.socket.descriptor.script) s.system.descriptions (e.placed a)
  /-- Whether or not it can be told, the end has the address. -/
  established : ∀ a, Resolves s host service a →
    ¬ Refused (e.placings s.socket.descriptor.script) → Established e a s (after r)

theorem Ending.establishes {r : EStateM.Result Failure Session Unit}
    (h : Ending e host service s r) : Establishes e host service s r := by
  cases h with
  | unresolved hnone =>
    exact ⟨⟨fun _ => .inl hnone, fun _ => ⟨_, _, rfl⟩⟩, fun a ha => absurd ha (hnone a)⟩
  | refused _ hrefused =>
    exact ⟨⟨fun _ => .inr (.inl hrefused), fun _ => ⟨_, _, rfl⟩⟩,
      fun _ _ hnot => absurd hrefused hnot⟩
  | @untold a f t ha _ huntold hestablished =>
    refine ⟨⟨fun _ => .inr (.inr ⟨a, ha, huntold⟩), fun _ => ⟨f, t, rfl⟩⟩, fun b hb _ => ?_⟩
    rw [hb.unique ha]
    exact hestablished
  | @told a t ha hplaced htold hestablished =>
    refine ⟨⟨fun ⟨f, t, hfails⟩ => (nomatch hfails), ?_⟩, fun b hb _ => ?_⟩
    · rintro (hnone | hrefused | ⟨b, hb, huntold⟩)
      · exact absurd ha (hnone a)
      · exact absurd hrefused hplaced
      · rw [hb.unique ha] at huntold
        exact absurd htold huntold
    · rw [hb.unique ha]
      exact hestablished

end Establishing

/-- **Connecting and binding fail exactly when no address is found, or the system refuses it, or it
cannot be told for the log.** In the last case the socket is open, and it is connected or bound. -/
theorem connect_bind_fail_iff {s : Session} (h : Undisturbed s) (host : String) (service : Service)
    (timeout : Option Binary64) :
    Establishes .there host service s (connect host service timeout s) ∧
      Establishes .here host service s (bind host service s) :=
  ⟨(ends_connect h host service timeout).establishes, (ends_bind h host service).establishes⟩

/-- A socket whose peer takes the connection and is gone when the system is first asked for it. -/
def hungUp : Session where
  socket.descriptor.number := 3
  socket.descriptor.script.getpeername := [{ outcome := .failure .notConnected }]
  system := {}

theorem undisturbed_hungUp : Undisturbed hungUp where
  isOpen := rfl
  alive := rfl
  within := by constructor <;> decide
  timed := fun _ hr => nomatch hr

/-- **It connects, and fails**; and it binds as it is told. -/
theorem connect_bind_fail_iff_hungUp :
    Undisturbed hungUp ∧
      (∃ f t, connect "127.0.0.1" (.numbered 80) none hungUp = .error f t) ∧
      Established .there ⟨"127.0.0.1", 80, []⟩ hungUp
        (after (connect "127.0.0.1" (.numbered 80) none hungUp)) ∧
      ¬ ∃ f t, bind "127.0.0.1" (.numbered 80) hungUp = .error f t := by
  obtain ⟨hconnect, hbind⟩ :=
    connect_bind_fail_iff undisturbed_hungUp "127.0.0.1" (.numbered 80) none
  have hresolves : Resolves hungUp "127.0.0.1" (.numbered 80) ⟨"127.0.0.1", 80, []⟩ :=
    ⟨by decide, [], rfl⟩
  refine ⟨undisturbed_hungUp, hconnect.fails_iff.2 (.inr (.inr ⟨_, hresolves, ?_⟩)),
    hconnect.established _ hresolves ?_, fun hfails => ?_⟩
  · rintro ⟨⟨a, names, ha, -⟩, -⟩
    cases ha
  · rintro ⟨f, hf⟩
    cases hf
  · rcases hbind.fails_iff.1 hfails with hnone | ⟨f, hf⟩ | ⟨a, ha, huntold⟩
    · exact hnone _ hresolves
    · cases hf
    · obtain rfl := ha.unique hresolves
      have hnamed : Named {} .usual ⟨"127.0.0.1", 80, []⟩ :=
        ⟨_, _, rfl, rfl, 80, by decide +kernel⟩
      exact huntold ⟨hnamed, hnamed⟩

/-- So it is not true that connecting fails only when no address is found or the system refuses
it. -/
theorem connect_fails_established :
    ¬ ∀ (s : Session) (host : String) (service : Service) (timeout : Option Binary64),
      Undisturbed s →
        ((∃ f t, connect host service timeout s = .error f t) ↔
          (∀ a, ¬ Resolves s host service a) ∨ Refused s.socket.descriptor.script.connect) := by
  intro h
  have hiff := h hungUp "127.0.0.1" (.numbered 80) none undisturbed_hungUp
  rcases hiff.1 ⟨_, _, rfl⟩ with hnone | ⟨f, hf⟩
  · exact hnone ⟨"127.0.0.1", 80, []⟩ ⟨by decide, [], rfl⟩
  · cases hf

end Socket

end HttpProbe
