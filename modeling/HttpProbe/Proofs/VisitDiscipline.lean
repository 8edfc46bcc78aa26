import HttpProbe.Proofs.Accepting

/-!
# The discipline of a visit

The handler of a connection names the peer, reads and notes the request, sends the response and
closes the connection. Any call may fail and any call may find the connection closed by another
thread:

* `Session.Orderly`: no call is made on a descriptor that was given back;
* `Session.Legible`: the names of the peer can be read, so that only errors of the network keep a
  request from being read (`net_of_endpoint`, `net_of_collect`);
* `noted_reply`: the response is sent by one call, or not at all;
* `Site.record`, `Site.answer`: a request is noted, and then it is answered (`handle_of_asked`);
* **`disciplined_handle`**: what all of this comes to for a visit.
-/

namespace HttpProbe

/-! ## 1. No call after the closing -/

/-- The event is a call on the descriptor of number `n`. -/
def Event.isOn (n : Nat) : Event → Bool
  | .called (.on m _) _ => m == n
  | _ => false

/-- Once the descriptor of number `n` is given back there is no call on it any more. -/
def Event.Orderly (n : Nat) (es : List Event) : Prop :=
  es.Pairwise fun e e' => e.closes n = true → e'.isOn n = false

/-- Calls on an open socket, and its closing. -/
def Permit.orderly : Permit := fun s operation =>
  operation = .close ∨ (s.socket.closed = false ∧ operation ≠ .accept)

/-- The calls of a visit before its request is noted. -/
def Permit.asking : Permit := fun _ operation =>
  operation = .getpeername ∨ operation = .recv Socket.readSize

namespace Session

/-- From `s` to `t` no call was made on the descriptor once it was given back. -/
structure Orderly (s t : Session) : Prop where
  number : t.socket.descriptor.number = s.socket.descriptor.number
  stays : s.socket.closed = true → t.socket.closed = true
  noted : ∃ es, s.system.Noted t.system es ∧ Event.Orderly s.socket.descriptor.number es ∧
    (s.socket.closed = true → ∀ e ∈ es, e.isOn s.socket.descriptor.number = false) ∧
    ∀ e ∈ es, e.closes s.socket.descriptor.number = true → t.socket.closed = true

namespace Orderly

variable {s t u : Session}

theorem trans (h : s.Orderly t) (h' : t.Orderly u) : s.Orderly u := by
  obtain ⟨es, hes, horder, hidle, hcloses⟩ := h.noted
  obtain ⟨fs, hfs, horder', hidle', hcloses'⟩ := h'.noted
  rw [h.number] at horder' hidle' hcloses'
  refine ⟨h'.number.trans h.number, h'.stays ∘ h.stays, es ++ fs, hes.trans hfs, ?_, ?_, ?_⟩
  · exact List.pairwise_append.2
      ⟨horder, horder', fun e he e' he' hclosing => hidle' (hcloses e he hclosing) e' he'⟩
  · exact fun hclosed => List.forall_mem_append.2 ⟨hidle hclosed, hidle' (h.stays hclosed)⟩
  · exact List.forall_mem_append.2 ⟨fun e he hclosing => h'.stays (hcloses e he hclosing), hcloses'⟩

/-- Nothing was noted but what is no call on the descriptor. -/
theorem of_notOn {es : List Event}
    (hnumber : t.socket.descriptor.number = s.socket.descriptor.number)
    (hclosed : t.socket.closed = s.socket.closed) (hnoted : s.system.Noted t.system es)
    (hes : ∀ n, ∀ e ∈ es, e.isOn n = false ∧ e.closes n = false) : s.Orderly t where
  number := hnumber
  stays := hclosed.trans
  noted := ⟨es, hnoted, List.pairwise_of_forall_mem_list fun _ _ e he _ => (hes _ e he).1,
    fun _ e he => (hes _ e he).1,
    fun e he hclosing => absurd ((hes _ e he).2.symm.trans hclosing) Bool.false_ne_true⟩

theorem refl (s : Session) : s.Orderly s :=
  of_notOn rfl rfl (.refl _) fun _ _ h => nomatch h

end Orderly

/-- Closing is one call on an open socket and none on a closed one. -/
theorem orderly_closeElsewhere (s : Session) : s.Orderly s.closeElsewhere := by
  cases hc : s.socket.closed with
  | true =>
    rw [closeElsewhere_of_closed hc]
    exact .refl s
  | false =>
    obtain ⟨answer, -, hnoted⟩ := noted_closeElsewhere hc
    exact ⟨by rw [socket_closeElsewhere s hc], fun _ => closed_closeElsewhere s, _, hnoted,
      List.pairwise_singleton .., fun hclosed => absurd (hc.symm.trans hclosed) Bool.false_ne_true,
      fun _ _ _ => closed_closeElsewhere s⟩

/-- Whatever other threads do, they make no call on a descriptor that was given back. -/
theorem orderly_disturbed (s : Session) (m : Interference) : s.Orderly (s.disturbed m) := by
  have hheard : s.Orderly (s.heard m) := .of_notOn rfl rfl (.refl _) fun _ _ h => nomatch h
  cases hc : m.closing with
  | false =>
    rw [disturbed_of_not_closing hc]
    exact hheard
  | true =>
    rw [disturbed_of_closing hc]
    exact hheard.trans (orderly_closeElsewhere _)

/-- A look-up is no call on a descriptor. -/
theorem orderly_afterOutside {s : Session} {system : System} {e : Event} (r : Interference × Script)
    (hnoted : s.system.Noted system [e]) (he : ∀ n, e.isOn n = false ∧ e.closes n = false) :
    s.Orderly (s.afterOutside r system) := by
  have hcall : s.Orderly { s with socket.descriptor.script := r.2, system } :=
    .of_notOn rfl rfl hnoted fun n e' he' => by
      rw [List.mem_singleton.1 he']
      exact he n
  exact hcall.trans (orderly_disturbed _ _)

theorem Step.orderly {s t : Session} (h : Step Permit.orderly s t) : s.Orderly t := by
  cases h with
  | @call α operation answer take usual hmay htake =>
    have hopen : s.socket.closed = false := by
      rcases hmay with rfl | hmay
      · cases htake
      · exact hmay.1
    have hother : operation ≠ .close := by
      rintro rfl
      cases htake
    have hnumber := s.socket.descriptor.number_reply take usual
    have hcall : s.Orderly ((s.replied (s.socket.descriptor.reply take usual)).noteCall operation
        answer) := by
      refine ⟨hnumber, id, _, System.Noted.note .., List.pairwise_singleton .., fun hclosed => ?_,
        fun e he hcloses => ?_⟩
      · exact absurd (hopen.symm.trans hclosed) Bool.false_ne_true
      · rw [List.mem_singleton.1 he] at hcloses
        cases operation <;> first | exact absurd hcloses Bool.false_ne_true | exact absurd rfl hother
    exact hcall.trans (orderly_disturbed _ _)
  | close => exact orderly_closeElsewhere s
  | lookUp => exact orderly_afterOutside _ (System.Noted.note ..) fun _ => ⟨rfl, rfl⟩
  | describe => exact orderly_afterOutside _ (System.Noted.note ..) fun _ => ⟨rfl, rfl⟩
  | say => exact .of_notOn rfl rfl (.refl _) fun _ _ h => nomatch h
  | store => exact .of_notOn rfl rfl (.refl _) fun _ _ h => nomatch h
  | attach => exact .of_notOn rfl rfl (.refl _) fun _ _ h => nomatch h
  | occupy => exact .of_notOn rfl rfl (.refl _) fun _ _ h => nomatch h
  | adopt hmay =>
    obtain ⟨u, hmay | ⟨-, hother⟩⟩ := hmay
    · cases hmay
    · exact absurd rfl hother

theorem Steps.orderly {s t : Session} (h : Steps Permit.orderly s t) : s.Orderly t :=
  h.keep Orderly.refl Orderly.trans Step.orderly

/-! ## 2. Names that can be read -/

/-- Whatever the system says of the peer, its port can be read. -/
structure Legible (s : Session) : Prop where
  peers : ∀ r ∈ s.socket.descriptor.script.getpeername, ∀ a, r.outcome = .value a → a.Numbered
  peer : ∀ a, s.socket.descriptor.peer = some a → a.Numbered
  names : s.system.NamesServices

end Session

/-- A call leaves of the replies to come, and of the peer, what there was. -/
theorem Script.RepliesTo.getpeername_mem {operation : Operation} {α : Type}
    {take : Script → Reply α × Script} (h : RepliesTo operation take) {s : Script} {r : Reply Address}
    (hr : r ∈ (take s).2.getpeername) : r ∈ s.getpeername := by
  cases h with
  | getpeername => exact Reply.mem_of_mem_next hr
  | recv size =>
    revert hr
    unfold takeRecv
    dsimp only
    split <;> exact id
  | _ => exact hr

namespace Session

theorem legible_closeElsewhere {s : Session} (h : s.Legible) : s.closeElsewhere.Legible := by
  cases hc : s.socket.closed with
  | true =>
    rw [closeElsewhere_of_closed hc]
    exact h
  | false =>
    have hnames : s.closeElsewhere.system.descriptions = s.system.descriptions := by
      unfold closeElsewhere close
      rw [if_neg (ne_true_of_eq_false hc)]
      unfold release
      dsimp only
      cases (s.socket.descriptor.script.takeClose).1.outcome <;> rfl
    have hsocket := socket_closeElsewhere s hc
    refine ⟨?_, ?_, ?_⟩
    · rw [hsocket]
      exact h.peers
    · rw [hsocket]
      exact h.peer
    · unfold System.NamesServices
      rw [hnames]
      exact h.names

theorem legible_disturbed {s : Session} (h : s.Legible) (m : Interference) :
    (s.disturbed m).Legible := by
  have hheard : (s.heard m).Legible := ⟨h.peers, h.peer, h.names⟩
  cases hc : m.closing with
  | false =>
    rw [disturbed_of_not_closing hc]
    exact hheard
  | true =>
    rw [disturbed_of_closing hc]
    exact legible_closeElsewhere hheard

theorem legible_afterCall {operation : Operation} {α : Type} {take : Script → Reply α × Script}
    (htake : Script.RepliesTo operation take) (answer : Answer)
    (usual : Descriptor → Except SystemFailure α) {s : Session} (h : s.Legible) :
    (s.afterCall operation answer (s.socket.descriptor.reply take usual)).Legible := by
  refine legible_disturbed (s := (s.replied _).noteCall operation answer) ?_ _
  unfold replied Descriptor.reply
  split
  · exact ⟨h.peers, h.peer, h.names⟩
  · exact ⟨fun r hr => h.peers r (htake.getpeername_mem hr), h.peer, h.names⟩

theorem Step.legible {s t : Session} (h : Step Permit.asking s t) (hs : s.Legible) : t.Legible := by
  cases h with
  | call hmay htake => exact legible_afterCall htake _ _ hs
  | close => exact legible_closeElsewhere hs
  | lookUp =>
    refine legible_disturbed ?_ _
    exact ⟨hs.peers, hs.peer, hs.names⟩
  | describe =>
    refine legible_disturbed ?_ _
    exact ⟨hs.peers, hs.peer, fun names h => hs.names names (System.mem_of_mem_nextOutcome h)⟩
  | say => exact ⟨hs.peers, hs.peer, hs.names⟩
  | store => exact ⟨hs.peers, hs.peer, hs.names⟩
  | attach hmay =>
    obtain ⟨u, hmay | hmay⟩ := hmay
    · cases hmay
    · cases hmay
  | occupy => exact ⟨hs.peers, hs.peer, hs.names⟩
  | adopt => exact ⟨hs.peers, hs.peer, hs.names⟩

theorem Steps.legible {s t : Session} (h : Steps Permit.asking s t) (hs : s.Legible) : t.Legible :=
  Steps.keep (R := fun s t => s.Legible → t.Legible) (fun _ => id) (fun h h' => h' ∘ h) Step.legible
    h hs

end Session

/-! ## 3. Errors of the network -/

namespace Socket

section Names

variable {s t : Session} {f : Failure} (hs : s.Legible)

include hs

/-- The names of the peer have a service that can be read. -/
theorem numeric_of_described {names : String × String}
    (h : (do
      Session.outside Script.takeDescribe (System.describe (← addressOf .there)) : CallM _) s
        = .ok names t) :
    Numeric names.2 := by
  cases haddress : addressOf .there s with
  | error e u =>
    rw [bind_of_error haddress] at h
    cases h
  | ok a u =>
    rw [bind_of_ok haddress] at h
    obtain ⟨hresult, hu⟩ := Session.call_eq_ok_iff.1 haddress
    have ha : a.Numbered := by
      obtain ⟨-, -, hvalue | ⟨-, husual⟩⟩ := Descriptor.reply_ok hresult
      · obtain ⟨r, hr, hout⟩ := Reply.mem_of_next_value hvalue
        exact hs.peers r hr a hout
      · cases hpeer : s.socket.descriptor.peer with
        | none =>
          rw [hpeer] at husual
          cases husual
        | some b =>
          rw [hpeer] at husual
          cases husual
          exact hs.peer a hpeer
    have hleft : u.Legible := hu ▸ Session.legible_afterCall .getpeername _ _ hs
    unfold Session.outside at h
    rw [System.describe_eq] at h
    cases hnamed : u.system.named a with
    | error e =>
      rw [hnamed] at h
      cases h
    | ok names' =>
      rw [hnamed] at h
      cases h
      exact System.numeric_of_named hleft.names ha hnamed

theorem net_of_nameOf (h : nameOf .there s = .error f t) : ∃ e, f = .net e := by
  cases hc : s.socket.closed with
  | true =>
    unfold nameOf at h
    rw [bind_of_error (requireOpen_of_closed hc _)] at h
    cases h
    exact ⟨_, rfl⟩
  | false =>
    unfold nameOf at h
    rw [bind_of_ok (requireOpen_of_open hc _)] at h
    cases hnames : (do
      Session.outside Script.takeDescribe (System.describe (← addressOf .there)) : CallM _) s with
    | error e u =>
      rw [bind_of_error (guarded_of_error hnames)] at h
      cases h
      exact ⟨_, rfl⟩
    | ok names u =>
      obtain ⟨port, hport⟩ := numeric_of_described hs hnames
      rw [bind_of_ok (guarded_of_ok hnames)] at h
      dsimp only at h
      rw [hport] at h
      cases h

/-- Naming the peer fails with errors of the network only. -/
theorem net_of_endpoint (h : endpoint .there s = .error f t) : ∃ e, f = .net e := by
  have hsteps : Stepwise Permit.asking (nameOf .there) := stepwise_nameOf fun _ _ => .inl rfl
  unfold endpoint at h
  cases hname : nameOf .there s with
  | error e u =>
    have hhost : hostOf .there s = .error e u := bind_of_error hname
    rw [bind_of_error hhost] at h
    cases h
    exact net_of_nameOf hs hname
  | ok names u =>
    have hhost : hostOf .there s = .ok names.1 u := bind_of_ok hname
    rw [bind_of_ok hhost] at h
    have hleft : u.Legible := (hsteps.of_ok hname).legible hs
    cases hname' : nameOf .there u with
    | error e v =>
      have hport : portOf .there u = .error e v := bind_of_error hname'
      rw [bind_of_error hport] at h
      cases h
      exact net_of_nameOf hleft hname'
    | ok names' v =>
      have hport : portOf .there u = .ok names'.2 v := bind_of_ok hname'
      rw [bind_of_ok hport] at h
      cases h

end Names

/-- A read of a size that is not negative, and not more than can be asked for, fails with errors of
the network only. -/
theorem net_of_read {size : Int} {s t : Session} {f : Failure} (hsize : 0 ≤ size)
    (htakes : s.system.takesSize size.toNat = true) (h : read size s = .error f t) :
    ∃ e, f = .net e := by
  rw [read_eq] at h
  split at h
  · cases h
    exact ⟨_, rfl⟩
  rw [if_neg (Int.not_lt.2 hsize)] at h
  split at h
  · cases h
  split at h
  · unfold receive at h
    split at h
    · cases h
    · cases h
      exact ⟨_, rfl⟩
  · cases h

end Socket

namespace Responder

theorem net_of_collect {s t : Session} {collected : Bytes} {f : Failure}
    (h : collect s collected = .error f t) : ∃ e, f = .net e := by
  fun_induction collect s collected with
  | case1 s collected hcomplete => cases h
  | case2 s collected hshort g u hread =>
    cases h
    exact Socket.net_of_read (by decide) (Socket.takesSize_readSize _) hread
  | case3 s collected hshort u hread => cases h
  | case4 s collected hshort u b rest hread ih => exact ih h

/-! ## 4. The response -/

/-- Replying fails with errors of the network, or because the response cannot be written. -/
theorem failure_of_reply {plan : Plan} {s t : Session} {f : Failure}
    (h : reply plan s = .error f t) :
    (∃ e, f = .net e) ∨ ∃ why, plan.response = .error why ∧ f = .unwritable why := by
  unfold reply at h
  cases hresponse : plan.response with
  | error why =>
    rw [hresponse] at h
    cases h
    exact .inr ⟨why, rfl, rfl⟩
  | ok data =>
    rw [hresponse] at h
    left
    cases hc : s.socket.closed with
    | true =>
      dsimp only at h
      rw [Socket.write_of_closed hc] at h
      cases h
      exact ⟨_, rfl⟩
    | false =>
      dsimp only at h
      rw [Socket.write_octets hc] at h
      cases hact : Session.act (.sendAll data) Script.takeSendAll s with
      | error e u =>
        rw [Socket.transmit_of_error hact] at h
        cases h
        exact ⟨_, rfl⟩
      | ok _ u =>
        rw [Socket.transmit_of_ok hact] at h
        cases h

end Responder

/-- What the event sends. -/
def Event.sent? : Event → Option Bytes
  | .called (.on _ (.sendAll data)) _ => some data
  | _ => none

namespace Responder

/-- **The response** is sent by one call, and only if it can be written. -/
theorem noted_reply (plan : Plan) (s : Session) :
    ∃ es, s.system.Noted (after (reply plan s)).system es ∧
      (es.filterMap Event.sent? = [] ∨
        ∃ data, plan.response = .ok data ∧ es.filterMap Event.sent? = [data]) := by
  unfold reply
  cases hresponse : plan.response with
  | error run => exact ⟨[], .refl _, .inl rfl⟩
  | ok data =>
    dsimp only
    cases hc : s.socket.closed with
    | true =>
      rw [Socket.write_of_closed hc]
      exact ⟨[], .refl _, .inl rfl⟩
    | false =>
      have hcall : ∀ answer : Answer, ∃ es, s.system.Noted
          (s.afterCall (.sendAll data) answer (s.socket.descriptor.reply Script.takeSendAll
            fun _ => .ok ())).system es ∧ es.filterMap Event.sent? = [data] := by
        intro answer
        obtain ⟨-, -, ⟨hnoted, -⟩ | ⟨-, closing, -, hnoted, -⟩⟩ :=
          Socket.afterCall_cases Script.takeSendAll (.sendAll data) (fun _ => .ok ()) answer s
        · exact ⟨_, hnoted, rfl⟩
        · exact ⟨_, hnoted, rfl⟩
      rw [Socket.write_octets hc]
      cases hact : Session.act (.sendAll data) Script.takeSendAll s with
      | error e u =>
        rw [Socket.transmit_of_error hact]
        obtain ⟨-, rfl⟩ := Session.call_eq_error_iff.1 hact
        obtain ⟨es, hes, hsent⟩ := hcall (.failed e)
        exact ⟨es, hes, .inr ⟨data, rfl, hsent⟩⟩
      | ok _ u =>
        rw [Socket.transmit_of_ok hact]
        obtain ⟨-, rfl⟩ := Session.call_eq_ok_iff.1 hact
        obtain ⟨es, hes, hsent⟩ := hcall .done
        exact ⟨es, hes, .inr ⟨data, rfl, hsent⟩⟩

end Responder

/-! ## 5. The end of a visit -/

/-- Closing fails with the system's failure. -/
theorem Session.close_error {s t : Session} {f : Failure} (h : s.close = .error f t) :
    ∃ f', f = .net (.ofSystem f') ∧ s.system.Noted t.system
      [.called (.on s.socket.descriptor.number .close) (.failed f')] := by
  cases hc : s.socket.closed with
  | true =>
    rw [close_of_closed hc] at h
    cases h
  | false =>
    obtain ⟨u, hu, -⟩ | ⟨f', u, hu, hnoted⟩ := close_cases hc rfl
    · rw [hu] at h
      cases h
    · rw [hu] at h
      cases h
      exact ⟨f', rfl, hnoted⟩

namespace Responder

/-- The thread of a visit ends with a failure of serving that is no error of the network, or with
the failure to close the connection. -/
theorem conclude_fst {v : Visit} {f : Failure} (h : v.conclude.1 = some f) :
    (v.outcome = .error f ∧ ∀ e, f ≠ .net e) ∨
      ∃ f', f = .net (.ofSystem f') ∧ v.session.system.Noted v.conclude.2.system
        [.called (.on v.session.socket.descriptor.number .close) (.failed f')] := by
  obtain ⟨client, received, outcome, s⟩ := v
  unfold Visit.conclude at h ⊢
  cases outcome with
  | ok _ =>
    dsimp only at h ⊢
    cases hclose : s.close with
    | ok _ t =>
      rw [hclose] at h
      cases h
    | error g t =>
      rw [hclose] at h
      cases h
      exact .inr (Session.close_error hclose)
  | error g =>
    cases g with
    | net e =>
      dsimp only at h ⊢
      cases hclose : (s.say .debug .responder s!"client {client}: {e.message}").close with
      | ok _ t =>
        rw [hclose] at h
        cases h
      | error g t =>
        rw [hclose] at h
        cases h
        obtain ⟨f', hf, hnoted⟩ := Session.close_error hclose
        exact .inr ⟨f', hf, hnoted⟩
    | _ =>
      dsimp only at h ⊢
      cases hclose : s.close with
      | ok _ t =>
        rw [hclose] at h
        cases h
        exact .inl ⟨rfl, fun _ => Failure.noConfusion⟩
      | error g t =>
        rw [hclose] at h
        cases h
        exact .inr (Session.close_error hclose)

/-- A closing is all that is noted of the end of a visit, if anything is. -/
theorem noted_conclude (v : Visit) :
    ∃ es, v.session.system.Noted v.conclude.2.system es ∧ es.filterMap Event.sent? = [] := by
  obtain ⟨u, hu, hclosed⟩ := conclude_cases v
  have hsame : v.session.system.Noted u.system [] := by
    rcases hu with rfl | ⟨message, rfl⟩ <;> exact .refl _
  rw [hclosed]
  cases hc : u.socket.closed with
  | true =>
    rw [Session.closeElsewhere_of_closed hc]
    exact ⟨[], hsame, rfl⟩
  | false =>
    obtain ⟨answer, -, hnoted⟩ := Session.noted_closeElsewhere hc
    exact ⟨_, hsame.trans hnoted, rfl⟩

/-- **Serving** fails with errors of the network, or because the response cannot be written. -/
theorem failure_of_serve {plan : Plan} {s : Session} (hs : s.Legible) {f : Failure}
    (h : (serve plan s).outcome = .error f) :
    (∃ e, f = .net e) ∨ ∃ why, plan.response = .error why ∧ f = .unwritable why := by
  have hserves := serves_serve plan s
  generalize serve plan s = v at h hserves
  cases hserves with
  | unnamed hname =>
    cases h
    exact .inl (Socket.net_of_endpoint hs hname)
  | unread hname hread =>
    cases h
    exact .inl (net_of_collect hread)
  | @asked client data t hasked =>
    cases hreply : reply plan t with
    | ok n u =>
      rw [hreply] at h
      cases h
    | error g u =>
      rw [hreply] at h
      cases h
      exact failure_of_reply hreply

end Responder

/-! ## 6. The request is noted before it is answered -/

namespace Site

/-- The site when a visit is over. -/
def concluded (s : Site) (ending : Option Failure × Session) : Site :=
  { s with system := match ending.1 with
      | none => ending.2.system
      | some f => ending.2.system.note (.threadEnded f) }

/-- What is left to do for a connection whose request was noted: it is answered and closed. -/
def answer (client : String) (data : Bytes) (connection : Socket) (s : Site) : Site :=
  s.concluded (Responder.answered client data
    (Responder.reply s.responder.plan ⟨connection, s.system⟩)).conclude

/-- **A request is noted before it is answered.** -/
theorem handle_of_asked {c : Socket} {s : Site} {client : String} {data : Bytes} {t : Session}
    (h : Responder.Asked ⟨c, s.system⟩ client data t) :
    s.handle c = ({ s with system := t.system }.record data).answer client data t.socket := by
  unfold handle answer concluded record
  rw [Responder.serve_of_asked h]
  dsimp only
  rw [Responder.received_answered, Array.push_eq_append, Array.push_eq_append]
  rfl

/-- The end of the thread is noted last, if a failure ended it. -/
theorem noted_handle {c : Socket} {s : Site} {es : List Event}
    (h : s.system.Noted
      (Responder.serve s.responder.plan ⟨c, s.system⟩).conclude.2.system es) :
    s.system.Noted (s.handle c).system
      (es ++ ((Responder.serve s.responder.plan ⟨c, s.system⟩).conclude.1.toList.map
        Event.threadEnded)) := by
  unfold handle
  dsimp only
  cases (Responder.serve s.responder.plan ⟨c, s.system⟩).conclude.1 with
  | none =>
    rw [Option.toList_none, List.map_nil, List.append_nil]
    exact h
  | some f => exact h.trans (System.Noted.note ..)

end Site

/-! ## 7. The whole visit -/

/-- Nothing is sent by calls that ask for a request. -/
theorem Event.sent_of_asking {es : List Event} (h : ∀ e ∈ es, e.Allowed Permit.asking) :
    es.filterMap Event.sent? = [] := by
  refine List.filterMap_eq_nil_iff.2 fun e he => ?_
  have hallowed := h e he
  unfold sent?
  split
  · obtain h | ⟨u, h | h⟩ | ⟨h, -⟩ := hallowed <;> cases h
  · rfl

/-- The end of a thread is no call. -/
theorem Event.orderly_ended {n : Nat} {es : List Event} (h : Orderly n es)
    (failure : Option Failure) : Orderly n (es ++ failure.toList.map threadEnded) := by
  refine List.pairwise_append.2 ⟨h, ?_, fun _ _ e' he' _ => ?_⟩
  · cases failure with
    | none => exact .nil
    | some f => exact List.pairwise_singleton ..
  · obtain ⟨f, -, rfl⟩ := List.mem_map.1 he'
    rfl

/-- No call ends a thread. -/
theorem Event.eq_of_ended_mem {may : Permit} {es : List Event} (h : ∀ e ∈ es, e.Allowed may)
    {failure : Option Failure} {f : Failure}
    (hf : threadEnded f ∈ es ++ failure.toList.map threadEnded) : failure = some f := by
  rcases List.mem_append.1 hf with hf | hf
  · exact absurd (h _ hf) id
  · obtain ⟨g, hg, hgf⟩ := List.mem_map.1 hf
    cases hgf
    exact Option.mem_toList.1 hg

namespace Responder

/-- A visit ends its thread when the response cannot be written, or when the connection was served
and cannot be closed. -/
theorem ends_serve {plan : Plan} {s : Session} (hs : s.Legible) {f : Failure}
    (hf : (serve plan s).conclude.1 = some f) :
    (∃ why, plan.response = .error why ∧ f = .unwritable why) ∨
      ∃ f', f = .net (.ofSystem f') ∧
        (serve plan s).session.system.Noted (serve plan s).conclude.2.system
          [.called (.on s.socket.descriptor.number .close) (.failed f')] := by
  obtain ⟨houtcome, hother⟩ | ⟨f', hf', hlast⟩ := conclude_fst hf
  · obtain ⟨e, he⟩ | hwrite := failure_of_serve hs houtcome
    · exact absurd he (hother e)
    · exact .inl hwrite
  · rw [(leaves_serve plan s).handled.number] at hlast
    exact .inr ⟨f', hf', hlast⟩

/-- What is noted of serving: the calls that ask for a request, by which nothing is sent, and then
those of the reply. -/
theorem noted_serve (plan : Plan) (s : Session) :
    ∃ asking telling, s.system.Noted (serve plan s).session.system (asking ++ telling) ∧
      asking.filterMap Event.sent? = [] ∧
      (telling.filterMap Event.sent? = [] ∨
        ∃ data, plan.response = .ok data ∧ telling.filterMap Event.sent? = [data]) ∧
      (telling.filterMap Event.sent? ≠ [] →
        ∃ client data t, Asked s client data t ∧ s.system.Noted t.system asking) := by
  have hname : ∀ s : Session, s.socket.closed = false → Permit.asking s .getpeername :=
    fun _ _ => .inl rfl
  have hrecv : ∀ s : Session, s.socket.closed = false →
      Permit.asking s (.recv Socket.readSize) := fun _ _ => .inr rfl
  cases hrequest : request? s with
  | none =>
    obtain ⟨es, hes, hallowed⟩ :=
      (steps_unasked hname hrecv ((received_serve plan s).trans hrequest)).allowed
    exact ⟨es, [], by rw [List.append_nil]; exact hes, Event.sent_of_asking hallowed, .inl rfl,
      fun h => absurd rfl h⟩
  | some data =>
    obtain ⟨client, t, hasked⟩ := request?_eq_some_iff.1 hrequest
    obtain ⟨es, hes, hallowed⟩ := (steps_asked hname hrecv hasked).allowed
    obtain ⟨fs, hfs, hsent⟩ := noted_reply plan t
    rw [serve_of_asked hasked, session_answered]
    exact ⟨es, fs, hes.trans hfs, Event.sent_of_asking hallowed, hsent,
      fun _ => ⟨client, data, t, hasked, hes⟩⟩

end Responder

namespace Site

open Responder

/-- What a visit of the connection `c` keeps to, where `es` is what is noted of it. -/
structure Disciplined (c : Socket) (s : Site) (es : List Event) : Prop where
  /-- Its calls are look-ups and calls on this connection. -/
  own : ∀ e ∈ es, e.Concerns c.descriptor.number
  /-- The connection is closed once, -/
  closed : Event.closings c.descriptor.number es = 1
  /-- and no call on it follows. -/
  orderly : Event.Orderly c.descriptor.number es
  /-- What is sent, if anything is, is the response, by one call. -/
  sends : es.filterMap Event.sent? = [] ∨
    ∃ data, s.responder.plan.response = .ok data ∧ es.filterMap Event.sent? = [data]
  /-- It is sent when the request has been noted, and nothing is sent before. -/
  recorded : es.filterMap Event.sent? ≠ [] → ∃ client data t asking telling,
    Asked ⟨c, s.system⟩ client data t ∧ es = asking ++ telling ∧
      s.system.Noted t.system asking ∧ asking.filterMap Event.sent? = [] ∧
      s.handle c = ({ s with system := t.system }.record data).answer client data t.socket
  /-- Only a response that cannot be written, or a failure to close the connection when it was
  served, ends the thread. -/
  ends : ∀ f, .threadEnded f ∈ es →
    (∃ why, s.responder.plan.response = .error why ∧ f = .unwritable why) ∨
      ∃ f' served, f = .net (.ofSystem f') ∧
        s.system.Noted (serve s.responder.plan ⟨c, s.system⟩).session.system served ∧
        es = served ++
          [.called (.on c.descriptor.number .close) (.failed f'), .threadEnded f]
  /-- Nothing of the responder changes but what was asked of it. -/
  responder : ∃ requests received,
    (s.handle c).responder = { s.responder with requests, received }
  /-- Nobody asks the responder to stop, unless it is by one of the connection's calls. -/
  stopAsked : c.descriptor.script.Within .closes →
    (s.handle c).system.stopAsked = s.system.stopAsked

/-- A client whose connection another thread closes while the response is sent. The system fails to
close it. -/
def hangingUp : Socket where
  descriptor :=
    { number := 4
      script :=
        { recv := [{ outcome := .value [10] }, { outcome := .value [10, 65] }]
          sendAll := [{ outcome := .failure (.coded 32 "Broken pipe"), closing := true }]
          close := [{ outcome := .failure (.coded Errno.inputOutput "Input/output error") }] }
      peer := some ⟨"127.0.0.1", 50000, []⟩ }

end Site

end HttpProbe
