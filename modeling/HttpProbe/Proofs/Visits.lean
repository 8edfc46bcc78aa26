import HttpProbe.Proofs.SessionSteps
import HttpProbe.Responder.Visit

/-!
# The course of a visit

A visit names its peer, reads a request, sends the response and closes the connection. It may fail
on the way, and it closes the connection all the same:

* `Responder.Asked`: the part before the request is noted went well;
* `Responder.Serves`, `serves_serve`: the ways in which serving ends;
* `Responder.request?`: the request of a connection, if there is one to note (`received_serve`);
* `steps_asked`, `steps_serve`, `steps_conclude`: the calls of each part, and `steps_visit` of all.
-/

namespace HttpProbe.Responder

open Session

/-! ## 1. The ways in which serving ends -/

/-- The session when the peer has been named and is greeted. -/
abbrev greeted (client : String) (s : Session) : Session :=
  s.say .debug .responder s!"new client {client}"

/-- The peer was named `client`, the request was read as `data`, and this leads from `s` to `t`. -/
def Asked (s : Session) (client : String) (data : Bytes) (t : Session) : Prop :=
  ∃ u, Socket.endpoint .there s = .ok client u ∧ readRequest (greeted client u) = .ok data t

/-- What a visit comes to when its request was read, told from what came of the reply. -/
def answered (client : String) (data : Bytes) : EStateM.Result Failure Session Nat → Visit
  | .ok _ t => ⟨client, some data, .ok (), t⟩
  | .error f t => ⟨client, some data, .error f, t⟩

/-- The ways in which serving ends: the peer could not be named; the request could not be read; or
it was read and a reply was tried. -/
inductive Serves (plan : Plan) (s : Session) : Visit → Prop where
  | unnamed {f : Failure} {t : Session} (hname : Socket.endpoint .there s = .error f t) :
    Serves plan s ⟨"client", none, .error f, t⟩
  | unread {client : String} {f : Failure} {t u : Session}
      (hname : Socket.endpoint .there s = .ok client t)
      (hread : readRequest (greeted client t) = .error f u) :
    Serves plan s ⟨client, none, .error f, u⟩
  | asked {client : String} {data : Bytes} {t : Session} (hasked : Asked s client data t) :
    Serves plan s (answered client data (reply plan t))

theorem serve_of_unnamed {plan : Plan} {s t : Session} {f : Failure}
    (hname : Socket.endpoint .there s = .error f t) :
    serve plan s = ⟨"client", none, .error f, t⟩ := by
  unfold serve
  rw [hname]

theorem serve_of_unread {plan : Plan} {s t u : Session} {client : String} {f : Failure}
    (hname : Socket.endpoint .there s = .ok client t)
    (hread : readRequest (greeted client t) = .error f u) :
    serve plan s = ⟨client, none, .error f, u⟩ := by
  unfold serve
  rw [hname]
  dsimp only
  rw [hread]

theorem serve_of_asked {plan : Plan} {s t : Session} {client : String} {data : Bytes}
    (h : Asked s client data t) : serve plan s = answered client data (reply plan t) := by
  obtain ⟨u, hendpoint, hread⟩ := h
  unfold serve
  rw [hendpoint]
  dsimp only
  rw [hread]
  dsimp only
  cases reply plan t <;> rfl

theorem serves_serve (plan : Plan) (s : Session) : Serves plan s (serve plan s) := by
  cases hname : Socket.endpoint .there s with
  | error f t =>
    rw [serve_of_unnamed hname]
    exact .unnamed hname
  | ok client t =>
    cases hread : readRequest (greeted client t) with
    | error f u =>
      rw [serve_of_unread hname hread]
      exact .unread hname hread
    | ok data u =>
      have hasked : Asked s client data u := ⟨t, hname, hread⟩
      rw [serve_of_asked hasked]
      exact .asked hasked

theorem received_answered (client : String) (data : Bytes) (r : EStateM.Result Failure Session Nat) :
    (answered client data r).received = some data := by
  cases r <;> rfl

theorem session_answered (client : String) (data : Bytes) (r : EStateM.Result Failure Session Nat) :
    (answered client data r).session = after r := by
  cases r <;> rfl

/-- The request of a connection, if its peer is named and the request is read. -/
def request? (s : Session) : Option Bytes :=
  match Socket.endpoint .there s with
  | .error _ _ => none
  | .ok client t =>
    match readRequest (greeted client t) with
    | .error _ _ => none
    | .ok data _ => some data

theorem request?_eq_some_iff {s : Session} {data : Bytes} :
    request? s = some data ↔ ∃ client t, Asked s client data t := by
  unfold request? Asked
  cases hname : Socket.endpoint .there s with
  | error f t =>
    refine ⟨(fun h => nomatch h), ?_⟩
    rintro ⟨client, t, u, h, -⟩
    cases h
  | ok client u =>
    dsimp only
    constructor
    · intro h
      cases hread : readRequest (greeted client u) with
      | error f t =>
        rw [hread] at h
        cases h
      | ok data' t =>
        rw [hread] at h
        cases h
        exact ⟨client, t, u, rfl, hread⟩
    · rintro ⟨client', t, u', h, hread⟩
      obtain ⟨rfl, rfl⟩ := EStateM.Result.ok.inj h
      rw [hread]

/-- What a visit notes is the request, whatever happens after it was read. -/
theorem received_serve (plan : Plan) (s : Session) : (serve plan s).received = request? s := by
  have hserves := serves_serve plan s
  generalize serve plan s = v at hserves
  unfold request?
  cases hserves with
  | unnamed hname => rw [hname]
  | unread hname hread =>
    rw [hname]
    dsimp only
    rw [hread]
  | asked hasked =>
    obtain ⟨u, hname, hread⟩ := hasked
    rw [received_answered, hname]
    dsimp only
    rw [hread]

/-! ## 2. The calls of a visit -/

section Steps

variable {may : Permit}

/-- The octets that come are asked for as long as the socket is open. -/
theorem stepwise_readRequest
    (hrecv : ∀ s : Session, s.socket.closed = false → may s (.recv Socket.readSize)) :
    Stepwise may readRequest := by
  have hread : Stepwise may (Socket.read Socket.readSize) := Socket.stepwise_read hrecv
  refine ⟨fun s => ?_⟩
  show Steps may s (after (collect s []))
  fun_induction collect s [] with
  | case1 s collected hcomplete => exact .refl
  | case2 s collected hshort f t h => exact hread.of_error h
  | case3 s collected hshort t h => exact hread.of_ok h
  | case4 s collected hshort t b rest h ih => exact (hread.of_ok h).trans ih

variable (hname : ∀ s : Session, s.socket.closed = false → may s .getpeername)
  (hrecv : ∀ s : Session, s.socket.closed = false → may s (.recv Socket.readSize))

include hname hrecv

theorem steps_asked {s t : Session} {client : String} {data : Bytes} (h : Asked s client data t) :
    Steps may s t := by
  obtain ⟨u, hendpoint, hread⟩ := h
  have hnamed : Steps may s u := (Socket.stepwise_endpoint (e := .there) hname).of_ok hendpoint
  exact (hnamed.tail (.say ..)).trans ((stepwise_readRequest hrecv).of_ok hread)

/-- A visit without a request to note makes no call but those that ask for one. -/
theorem steps_unasked {plan : Plan} {s : Session} (hnone : (serve plan s).received = none) :
    Steps may s (serve plan s).session := by
  have hendpoint : Stepwise may (Socket.endpoint .there) :=
    Socket.stepwise_endpoint (e := .there) hname
  have hserves := serves_serve plan s
  generalize serve plan s = v at hnone hserves
  cases hserves with
  | unnamed h => exact hendpoint.of_error h
  | unread h hread =>
    exact ((hendpoint.of_ok h).tail (.say ..)).trans
      ((stepwise_readRequest hrecv).of_error hread)
  | asked =>
    rw [received_answered] at hnone
    cases hnone

omit hname hrecv

theorem stepwise_reply {plan : Plan}
    (hsend : ∀ s data, s.socket.closed = false → plan.response = .ok data →
      may s (.sendAll data)) :
    Stepwise may (reply plan) := by
  refine ⟨fun s => ?_⟩
  unfold reply
  cases hresponse : plan.response with
  | error run => exact .refl
  | ok data =>
    have hwrite : Stepwise may (Socket.write (.octets data)) := by
      refine Socket.stepwise_write fun data' hdata s hopen => ?_
      cases hdata
      exact hsend s data hopen hresponse
    exact hwrite.steps s

include hname hrecv

theorem steps_serve {plan : Plan}
    (hsend : ∀ s data, s.socket.closed = false → plan.response = .ok data →
      may s (.sendAll data)) (s : Session) :
    Steps may s (serve plan s).session := by
  cases hreceived : (serve plan s).received with
  | none => exact steps_unasked hname hrecv hreceived
  | some data =>
    rw [received_serve] at hreceived
    obtain ⟨client, t, hasked⟩ := request?_eq_some_iff.1 hreceived
    rw [serve_of_asked hasked, session_answered]
    exact (steps_asked hname hrecv hasked).trans ((stepwise_reply hsend).steps t)

end Steps

/-- A visit ends with the connection closed. Before that it may be said why serving failed. -/
theorem conclude_cases (v : Visit) :
    ∃ u, (u = v.session ∨ ∃ message, u = v.session.say .debug .responder message) ∧
      v.conclude.2 = u.closeElsewhere := by
  unfold Visit.conclude closeElsewhere
  cases v.outcome with
  | ok _ =>
    refine ⟨v.session, .inl rfl, ?_⟩
    dsimp only
    cases close v.session <;> rfl
  | error f =>
    cases f with
    | net e =>
      refine ⟨v.session.say .debug .responder s!"client {v.client}: {e.message}", .inr ⟨_, rfl⟩, ?_⟩
      dsimp only
      cases close (v.session.say .debug .responder s!"client {v.client}: {e.message}") <;> rfl
    | _ =>
      refine ⟨v.session, .inl rfl, ?_⟩
      dsimp only
      cases close v.session <;> rfl

theorem steps_conclude {may : Permit} (hclose : ∀ s, may s .close) (v : Visit) :
    Steps may v.session v.conclude.2 := by
  obtain ⟨u, hu, hclosed⟩ := conclude_cases v
  rw [hclosed]
  rcases hu with rfl | ⟨message, rfl⟩
  · exact .single (.close (hclose _))
  · exact (Relation.ReflTransGen.single (.say ..)).tail (.close (hclose _))

/-- **A whole visit** makes these calls: it asks for a request, replies, and closes
the connection. -/
theorem steps_visit {may : Permit} {plan : Plan}
    (hname : ∀ s : Session, s.socket.closed = false → may s .getpeername)
    (hrecv : ∀ s : Session, s.socket.closed = false → may s (.recv Socket.readSize))
    (hsend : ∀ s data, s.socket.closed = false → plan.response = .ok data →
      may s (.sendAll data))
    (hclose : ∀ s, may s .close) (s : Session) : Steps may s (serve plan s).conclude.2 :=
  (steps_serve hname hrecv hsend s).trans (steps_conclude hclose _)

end HttpProbe.Responder
