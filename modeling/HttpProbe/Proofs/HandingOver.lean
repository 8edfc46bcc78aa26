import HttpProbe.Proofs.Lifetime
import HttpProbe.Proofs.VisitDiscipline

/-!
# Connections that are handed over

Between visits a responder hands connections over, and nothing else that it does is of any concern
to the record of requests:

* `Event.unhurried?`: the number of the connection that is handed over. An accepted connection is
  told to wait for as long as it likes, and nothing else is;
* `Site.Passes`: something happened, and no request was noted;
* `Site.Idles`: and no connection was handed over either. So it is when a responder is started or
  stopped, and when connections come to wait for it;
* `passes_acceptOnce`: a round of the accept loop hands over the connection that it takes;
* `hurried_handle`: a visit hands nothing over.
-/

namespace HttpProbe

/-! ## 1. Connections that are handed over -/

/-- The number of the connection that is told to wait for as long as it likes. -/
def Event.unhurried? : Event → Option Nat
  | .called (.on n (.setTimeout none)) .done => some n
  | _ => none

/-- All calls but those that take a connection and those that tell it to wait. -/
def Permit.hurried : Permit := fun _ operation =>
  operation ≠ .accept ∧ operation ≠ .setTimeout none

/-- Steps of other kinds hand no connection over. -/
theorem Session.Steps.hurried {s t : Session} (h : Steps Permit.hurried s t) :
    ∃ es, s.system.Noted t.system es ∧ es.filterMap Event.unhurried? = [] := by
  obtain ⟨es, hes, hallowed⟩ := h.allowed
  refine ⟨es, hes, List.filterMap_eq_nil_iff.2 fun e he => ?_⟩
  have hcall := hallowed e he
  unfold Event.unhurried?
  split
  · obtain h | ⟨u, -, h⟩ | ⟨-, u, h, -⟩ := hcall
    · cases h
    · exact absurd rfl h
    · exact absurd rfl h
  · rfl

namespace Socket

/-- The number of the connection that an accept gives. -/
def taken : EStateM.Result Failure Session (Option Socket) → List Nat
  | .ok (some c) _ => [c.descriptor.number]
  | _ => []

theorem noted_takeCaller (s : Session) :
    ∃ es, s.system.Noted (after (takeCaller s)).system es ∧
      es.filterMap Event.unhurried? = [] := by
  have hcall : ∀ answer, ∃ es, s.system.Noted (s.afterCall .accept answer
      (s.socket.descriptor.reply Script.takeAccept fun _ => .ok usualCaller)).system es ∧
      es.filterMap Event.unhurried? = [] := by
    intro answer
    obtain ⟨-, -, ⟨hnoted, -⟩ | ⟨-, closing, -, hnoted, -⟩⟩ :=
      afterCall_cases Script.takeAccept .accept (fun _ => .ok usualCaller) answer s
    · exact ⟨_, hnoted, rfl⟩
    · exact ⟨_, hnoted, rfl⟩
  cases htake : takeCaller s with
  | ok caller t =>
    obtain ⟨-, rfl⟩ := Session.call_eq_ok_iff.1 htake
    exact hcall .done
  | error f t =>
    obtain ⟨-, rfl⟩ := Session.call_eq_error_iff.1 htake
    exact hcall (.failed f)

/-- **An accept** hands over the connection that it gives, and no other. -/
theorem noted_accept (s : Session) :
    ∃ es, s.system.Noted (after (accept s)).system es ∧
      es.filterMap Event.unhurried? = taken (accept s) := by
  unfold accept
  split
  · exact ⟨[], .refl _, rfl⟩
  split
  · exact ⟨[], .refl _, rfl⟩
  obtain ⟨es, hes, hnone⟩ := noted_takeCaller s
  cases htake : takeCaller s with
  | error f t =>
    rw [htake] at hes
    exact ⟨es, hes, hnone⟩
  | ok caller t =>
    rw [htake] at hes
    have hnoted : ∀ answer, s.system.Noted
        ({ t.system with nextNumber := t.system.nextNumber + 1 }.note
          (.called (.on t.system.nextNumber (.setTimeout none)) answer))
        (es ++ [.called (.on t.system.nextNumber (.setTimeout none)) answer]) := fun answer =>
      System.Noted.trans (t := { t.system with nextNumber := t.system.nextNumber + 1 }) hes
        (System.Noted.note ..)
    have hnumber := (adopted caller t).number_reply Script.takeSetTimeout fun _ => .ok ()
    dsimp only
    unfold unhurry
    dsimp only
    cases ((adopted caller t).reply Script.takeSetTimeout fun _ => .ok ()).result with
    | error f =>
      refine ⟨_, hnoted _, ?_⟩
      rw [List.filterMap_append, hnone]
      rfl
    | ok _ =>
      refine ⟨_, hnoted _, ?_⟩
      rw [List.filterMap_append, hnone]
      exact congrArg (fun n => [n]) hnumber.symm

end Socket

namespace Site

/-! ## 2. What happens between visits -/

/-- From `s` to `t` this happened, and no request was noted. -/
structure Passes (s t : Site) (es : List Event) : Prop where
  noted : s.system.Noted t.system es
  requests : t.responder.requests = s.responder.requests
  received : t.responder.received = s.responder.received

namespace Passes

variable {s t u : Site} {es fs : List Event}

theorem silent (s : Site) : Passes s s [] := ⟨.refl s.system, rfl, rfl⟩

theorem trans (h : Passes s t es) (h' : Passes t u fs) : Passes s u (es ++ fs) where
  noted := h.noted.trans h'.noted
  requests := h'.requests.trans h.requests
  received := h'.received.trans h.received

end Passes

/-- From `s` to `t` no request was noted and no connection was handed over. -/
def Idles (s t : Site) : Prop := ∃ es, Passes s t es ∧ es.filterMap Event.unhurried? = []

theorem Idles.refl (s : Site) : Idles s s := ⟨[], .silent s, rfl⟩

theorem Idles.trans {s t u : Site} (h : Idles s t) (h' : Idles t u) : Idles s u := by
  obtain ⟨es, hes, hnone⟩ := h
  obtain ⟨fs, hfs, hnone'⟩ := h'
  exact ⟨_, hes.trans hfs, by rw [List.filterMap_append, hnone, hnone']; rfl⟩

/-- Nothing happened at all. -/
theorem Passes.idles_silent {s t : Site} (h : Passes s t []) : Idles s t := ⟨[], h, rfl⟩

/-- What is only said is no request. -/
theorem idles_say (s : Site) (level : Log.Level) (message : String) : Idles s (s.say level message) :=
  Passes.idles_silent ⟨.refl _, rfl, rfl⟩

/-- A visit hands nothing over. -/
theorem hurried_handle (c : Socket) (s : Site) :
    ∃ es, s.system.Noted (s.handle c).system es ∧ es.filterMap Event.unhurried? = [] := by
  have hsteps : Session.Steps Permit.hurried ⟨c, s.system⟩
      (Responder.serve s.responder.plan ⟨c, s.system⟩).conclude.2 :=
    Responder.steps_visit (fun _ _ => ⟨Operation.noConfusion, Operation.noConfusion⟩)
      (fun _ _ => ⟨Operation.noConfusion, Operation.noConfusion⟩)
      (fun _ _ _ _ => ⟨Operation.noConfusion, Operation.noConfusion⟩)
      (fun _ => ⟨Operation.noConfusion, Operation.noConfusion⟩) _
  obtain ⟨es, hes, hnone⟩ := hsteps.hurried
  refine ⟨_, noted_handle hes, ?_⟩
  rw [List.filterMap_append, hnone]
  cases (Responder.serve s.responder.plan ⟨c, s.system⟩).conclude.1 <;> rfl

/-! ## 3. A round of the accept loop -/

theorem passes_withListener {s : Site} {l : Socket}
    {r : EStateM.Result Failure Session (Option Socket)} (h : Socket.accept ⟨l, s.system⟩ = r) :
    ∃ es, Passes s (s.withListener (after r)) es ∧
      es.filterMap Event.unhurried? = Socket.taken r := by
  obtain ⟨es, hes, htaken⟩ := Socket.noted_accept ⟨l, s.system⟩
  rw [h] at hes htaken
  exact ⟨es, ⟨hes, rfl, rfl⟩, htaken⟩

/-- The number of the connection that a round takes. -/
def handed : Round → List Nat
  | .taken c _ => [c.descriptor.number]
  | _ => []

/-- **A round** hands over the connection that it takes, and no other. -/
theorem passes_acceptOnce (s : Site) :
    ∃ es, Passes s s.acceptOnce.site es ∧
      es.filterMap Event.unhurried? = handed s.acceptOnce := by
  unfold acceptOnce
  split
  · cases s.responder.listener with
    | none => exact ⟨[], .silent s, rfl⟩
    | some l =>
      dsimp only
      cases ht : Socket.accept ⟨l, s.system⟩ with
      | ok connection t =>
        obtain ⟨es, hes, htaken⟩ := passes_withListener ht
        cases connection with
        | none => exact ⟨es, hes, htaken⟩
        | some c => exact ⟨es, hes, htaken⟩
      | error f t =>
        obtain ⟨es, hes, htaken⟩ := passes_withListener ht
        cases f with
        | net e =>
          unfold proceed
          dsimp only
          split
          · exact ⟨es, hes, htaken⟩
          · split
            · exact ⟨es, ⟨hes.noted, hes.requests, hes.received⟩, htaken⟩
            · exact ⟨es, hes, htaken⟩
        | _ => exact ⟨es, hes, htaken⟩
  · exact ⟨[], .silent s, rfl⟩

/-- A round starts no loop and ends none. -/
theorem unfinished_acceptOnce {s : Site} {r : Round} (h : s.acceptOnce = r) :
    r.site.responder.unfinished = s.responder.unfinished := by
  subst h
  unfold acceptOnce
  split
  · cases s.responder.listener with
    | none => rfl
    | some l =>
      dsimp only
      fun_cases proceed s (Socket.accept ⟨l, s.system⟩) <;> rfl
  · rfl

/-! ## 4. Start and stop -/

theorem idles_settle (loop : Nat) (p : Pause) (s : Site) : Idles s (settle loop (p, s)) := by
  cases p with
  | parked => exact .refl s
  | finished => exact Passes.idles_silent ⟨.refl _, rfl, rfl⟩
  | died f => exact ⟨[.threadEnded f], ⟨System.Noted.note .., rfl, rfl⟩, rfl⟩

theorem idles_offer (callers : List (Reply (Caller Script))) (s : Site) :
    Idles s (s.offer callers) := by
  unfold offer
  cases s.responder.listener with
  | none => exact .refl s
  | some l => exact Passes.idles_silent ⟨.refl _, rfl, rfl⟩

/-- Steps with a listener that was made just now. -/
theorem idles_fresh {s t : Site} {script : Script} {u : Session}
    (h : Session.Steps Permit.hurried (s.fresh script) u) (hsystem : t.system.events = u.system.events)
    (hrequests : t.responder.requests = s.responder.requests)
    (hreceived : t.responder.received = s.responder.received) : Idles s t := by
  obtain ⟨es, hes, hnone⟩ := h.hurried
  have hmade : s.system.Noted (s.fresh script).system [.called Check.socketCall .done] :=
    System.Noted.note ..
  have hnoted : s.system.Noted t.system ([.called Check.socketCall .done] ++ es) := by
    rw [System.Noted, hsystem]
    exact hmade.trans hes
  exact ⟨_, ⟨hnoted, hrequests, hreceived⟩, hnone⟩

theorem idles_start (s : Site) : Idles s (after (start s)) := by
  cases hrunning : s.responder.running with
  | true =>
    rw [start_of_running hrunning]
    exact .refl s
  | false =>
    have hsetUp : Stepwise Permit.hurried (setUp s.responder.plan.host s.responder.port) :=
      stepwise_setUp _ _ fun _ _ haccept _ htimeout => ⟨haccept, htimeout⟩
    have hport : Stepwise Permit.hurried (Socket.portOf .here) :=
      Socket.stepwise_portOf fun _ _ => ⟨Operation.noConfusion, Operation.noConfusion⟩
    have hstarts := starts_of_stopped hrunning
    generalize start s = r at hstarts
    cases hstarts with
    | @noSocket f hnext =>
      exact ⟨[.called Check.socketCall (.failed f)], ⟨System.Noted.note .., rfl, rfl⟩, rfl⟩
    | abandoned hnext hu =>
      have hclosed := (hsetUp.of_error hu).tail
        (.close ⟨Operation.noConfusion, Operation.noConfusion⟩)
      exact idles_fresh hclosed rfl rfl rfl
    | unnamed hnext hu ht => exact idles_fresh ((hsetUp.of_ok hu).trans (hport.of_error ht)) rfl rfl rfl
    | started hnext hu ht => exact idles_fresh ((hsetUp.of_ok hu).trans (hport.of_ok ht)) rfl rfl rfl

/-- The accept loop that is waited for ends at once, without another round. -/
theorem idles_join {s : Site} (hrunning : s.responder.running = false) : Idles s (join s) := by
  unfold join
  cases s.responder.started with
  | zero => exact .refl s
  | succ loop =>
    dsimp only
    split
    · rw [acceptAll_of_stopped hrunning]
      exact (idles_settle loop .finished s).trans (Passes.idles_silent ⟨.refl _, rfl, rfl⟩)
    · exact .refl s

theorem idles_stop (s : Site) : Idles s (after (stop s)) := by
  cases hrunning : s.responder.running with
  | false =>
    rw [stop_of_not_running hrunning]
    exact .refl s
  | true =>
    have hcleared : Idles s { s with responder.running := false } :=
      Passes.idles_silent ⟨.refl _, rfl, rfl⟩
    refine (hcleared.trans (idles_join rfl)).trans ?_
    unfold stop
    rw [if_neg (by rw [hrunning]; decide)]
    generalize join { s with responder.running := false } = u
    dsimp only
    cases u.responder.listener with
    | none => exact idles_say ..
    | some l =>
      have hclose : Session.Steps Permit.hurried ⟨l, u.system⟩
          (after (Session.close ⟨l, u.system⟩)) :=
        .single (.close ⟨Operation.noConfusion, Operation.noConfusion⟩)
      obtain ⟨es, hes, hnone⟩ := hclose.hurried
      dsimp only
      cases hc : Session.close ⟨l, u.system⟩ with
      | ok _ t =>
        rw [hc] at hes
        exact ⟨es, ⟨hes, rfl, rfl⟩, hnone⟩
      | error f t =>
        rw [hc] at hes
        exact ⟨es, ⟨hes, rfl, rfl⟩, hnone⟩

end Site

end HttpProbe
