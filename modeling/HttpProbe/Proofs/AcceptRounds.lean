import HttpProbe.Proofs.Lifetime

/-!
# One round of the accept loop

Each round of the loop takes one result of an accept off the queue and does what it calls for:

* `Reply.caller?`, `Reply.complaint?`, `Reply.goesOn`: what a result calls for, told from the result
  alone;
* `Reply.Admits`: the results that an accept of a responder comes to while nobody closes the
  listener;
* `Site.Attends`: the responder runs, and its listener is open;
* `Site.round`: the site after one round, whatever the state of the queue;
* **`acceptAll_eq`**: the loop is a round, and then the loop again if the result says so.
-/

namespace HttpProbe

/-! ## 1. What the results of accepts call for -/

namespace Reply

/-- The error that ends the loop: any but one that says that time is over. -/
def fatal? (r : Reply (Caller Script)) : Option NetError :=
  match r.outcome with
  | .failure f => if (NetError.ofSystem f).isTimeout then none else some (.ofSystem f)
  | _ => none

/-- The client that is let in. -/
def caller? (r : Reply (Caller Script)) : Option (Caller Script) :=
  match r.outcome with
  | .usual => some Socket.usualCaller
  | .value caller => some caller
  | .failure _ => none

/-- What is said of an error that ends the loop, unless the responder was asked to
stop meanwhile. -/
def complaint? (r : Reply (Caller Script)) : Option Log.Record :=
  if r.stopping then none
  else r.fatal?.map fun e => ⟨.error, .responder, s!"accept failed: {e.message}"⟩

/-- What is noted of the accept. -/
def answer (r : Reply (Caller Script)) : Answer :=
  match r.outcome with
  | .failure f => .failed f
  | _ => .done

/-- The loop goes on after this result: nobody asked to stop, and nothing failed but that time was
over. -/
def goesOn (r : Reply (Caller Script)) : Bool := !r.stopping && r.fatal?.isNone

/-- Nobody closes the listener during the accept. If it gives a connection, this can be told to
wait, and during its calls other threads do no more than to close it: a wish to stop comes during
accepts only. -/
structure Admits (r : Reply (Caller Script)) : Prop where
  closing : r.closing = false
  within : ∀ caller, r.caller? = some caller → caller.script.Within .closes
  timeout : ∀ caller, r.caller? = some caller →
    ∀ f, caller.script.takeSetTimeout.1.outcome ≠ .failure f

theorem level_complaint {r : Reply (Caller Script)} {record : Log.Record}
    (h : r.complaint? = some record) : record.level = .error := by
  unfold complaint? at h
  split at h
  · cases h
  · obtain ⟨e, -, rfl⟩ := Option.map_eq_some_iff.1 h
    rfl

/-- Where nothing ends the loop there is nothing to say. -/
theorem complaint?_of_fatal {r : Reply (Caller Script)} (h : r.fatal? = none) :
    r.complaint? = none := by
  unfold complaint?
  rw [h]
  cases r.stopping <;> rfl

theorem fatal?_of_caller {r : Reply (Caller Script)} {caller : Caller Script}
    (h : r.caller? = some caller) : r.fatal? = none := by
  unfold fatal?
  unfold caller? at h
  cases ho : r.outcome with
  | usual => rfl
  | value c => rfl
  | failure f =>
    rw [ho] at h
    cases h

theorem failure_of_caller {r : Reply (Caller Script)} (h : r.caller? = none) :
    ∃ f, r.outcome = .failure f := by
  unfold caller? at h
  cases ho : r.outcome with
  | usual =>
    rw [ho] at h
    cases h
  | value c =>
    rw [ho] at h
    cases h
  | failure f => exact ⟨f, rfl⟩

end Reply

/-! ## 2. One accept -/

/-- The listener when one result of its queue was taken. -/
def Socket.next (l : Socket) : Socket :=
  { l with descriptor.script := l.descriptor.script.takeAccept.2 }

/-- The connection of number `n` that the listener gives for a client. -/
def Socket.connection (l : Socket) (n : Nat) (caller : Caller Script) : Socket :=
  { l with
    descriptor :=
      { number := n
        script := caller.script.takeSetTimeout.2
        localAddress := l.descriptor.localAddress
        peer := caller.peer }
    buffer := []
    ended := false
    closed := false }

/-- A connection that can be told to wait for as long as it likes is told so. -/
theorem Socket.unhurry_ok {d : Descriptor} (hdead : d.dead = false)
    (htimeout : ∀ f, d.script.takeSetTimeout.1.outcome ≠ .failure f) (s : System) :
    unhurry d s = .ok { d with script := d.script.takeSetTimeout.2 }
      (s.note (.called (.on d.number (.setTimeout none)) .done)) := by
  unfold unhurry Descriptor.reply
  dsimp only
  rw [if_neg (ne_true_of_eq_false hdead)]
  dsimp only
  cases ho : d.script.takeSetTimeout.1.outcome with
  | usual => rfl
  | value a => rfl
  | failure f => exact absurd ho (htimeout f)

namespace Site

/-- The responder runs, and its listener is open. -/
structure Attends (s : Site) (l : Socket) : Prop where
  running : s.responder.running = true
  listener : s.responder.listener = some l
  isOpen : l.closed = false
  alive : l.descriptor.dead = false
  stopAsked : s.system.stopAsked = false

/-- The site when an accept had this result. -/
def heard (l : Socket) (r : Reply (Caller Script)) (s : Site) : Site where
  responder := { s.responder with
    listener := some l.next, running := s.responder.running && !r.stopping }
  system := s.system.note (.called (.on l.descriptor.number .accept) r.answer)

/-- The site when a connection was told to wait for as long as it likes. -/
def welcomed (s : Site) : Site where
  responder := s.responder
  system := { s.system with nextNumber := s.system.nextNumber + 1 }.note
    (.called (.on s.system.nextNumber (.setTimeout none)) .done)

/-- The site when it was said what there is to say of an accept. -/
def complained (r : Reply (Caller Script)) (s : Site) : Site :=
  match r.complaint? with
  | none => s
  | some record => { s with system.log := s.system.log.push record }

/-- The site after one round: an accept, and the visit of the connection if it gave one. -/
def round (l : Socket) (r : Reply (Caller Script)) (s : Site) : Site :=
  match r.caller? with
  | none => (s.heard l r).complained r
  | some caller => (s.heard l r).welcomed.handle (l.connection s.system.nextNumber caller)

section Accept

variable {s : Site} {l : Socket} {r : Reply (Caller Script)} {rest : List (Reply (Caller Script))}
  (hs : s.Attends l) (hq : l.descriptor.script.accept = r :: rest) (hr : r.Admits)

/-- The session when an accept had this result. -/
def turned (s : Site) (l : Socket) (r : Reply (Caller Script)) : Session where
  socket := l.next
  system := { s.system.note (.called (.on l.descriptor.number .accept) r.answer) with
    stopAsked := s.system.stopAsked || r.stopping }

include hs

theorem withListener_turned : s.withListener (s.turned l r) = s.heard l r := by
  unfold withListener heard turned
  dsimp only
  rw [hs.stopAsked, Bool.false_or]
  show Site.mk _ { s.system.note _ with stopAsked := false } = Site.mk _ (s.system.note _)
  rw [← hs.stopAsked]
  rfl

include hq hr

/-- An accept takes the first result of the queue. -/
theorem takeCaller_eq :
    Socket.takeCaller ⟨l, s.system⟩ = match r.outcome with
      | .usual => .ok Socket.usualCaller (s.turned l r)
      | .value caller => .ok caller (s.turned l r)
      | .failure f => .error f (s.turned l r) := by
  have hnext : l.descriptor.script.takeAccept.1 = r := by
    unfold Script.takeAccept
    rw [hq]
    rfl
  unfold Socket.takeCaller
  rw [Session.call_quiet (by rw [hnext]; exact hr.closing)]
  unfold Session.settled Descriptor.reply turned Reply.answer
  dsimp only
  rw [if_neg (ne_true_of_eq_false hs.alive)]
  dsimp only
  rw [hnext]
  cases r.outcome <;> rfl

theorem accept_of_failure {f : SystemFailure} (hf : r.outcome = .failure f) :
    Socket.accept ⟨l, s.system⟩ = .error (.net (.ofSystem f)) (s.turned l r) := by
  have htake := takeCaller_eq hs hq hr
  rw [hf] at htake
  unfold Socket.accept
  dsimp only
  rw [if_neg (ne_true_of_eq_false hs.isOpen), hq, List.isEmpty_cons, if_neg Bool.false_ne_true, htake]

theorem accept_of_caller {caller : Caller Script} (hcaller : r.caller? = some caller) :
    ∃ t, Socket.accept ⟨l, s.system⟩ = .ok (some (l.connection s.system.nextNumber caller)) t ∧
      s.withListener t = (s.heard l r).welcomed := by
  have htake : Socket.takeCaller ⟨l, s.system⟩ = .ok caller (s.turned l r) := by
    rw [takeCaller_eq hs hq hr]
    unfold Reply.caller? at hcaller
    cases ho : r.outcome with
    | usual =>
      rw [ho] at hcaller
      rw [Option.some.inj hcaller]
    | value c =>
      rw [ho] at hcaller
      rw [Option.some.inj hcaller]
    | failure f =>
      rw [ho] at hcaller
      cases hcaller
  have hunhurry := Socket.unhurry_ok (d := Socket.adopted caller (s.turned l r)) rfl
    (hr.timeout caller hcaller)
    { (s.turned l r).system with nextNumber := (s.turned l r).system.nextNumber + 1 }
  unfold Socket.accept
  dsimp only
  rw [if_neg (ne_true_of_eq_false hs.isOpen), hq, List.isEmpty_cons, if_neg Bool.false_ne_true, htake]
  dsimp only
  rw [hunhurry]
  refine ⟨_, rfl, ?_⟩
  show (s.withListener (s.turned l r)).welcomed = _
  rw [withListener_turned hs]

end Accept

/-! ## 3. One round of the loop -/

/-- What is left of the loop after a round. -/
def carriedOut : Round → Pause × Site
  | .ends pause t => (pause, t)
  | .again t => t.acceptAll
  | .taken c t => (t.handle c).acceptAll

theorem acceptAll_eq_carriedOut (s : Site) : s.acceptAll = carriedOut s.acceptOnce := by
  rw [acceptAll]
  split <;> rename_i hround <;> rw [hround] <;> rfl

theorem acceptAll_eq_proceed {s : Site} {l : Socket} (hrunning : s.responder.running = true)
    (hlistener : s.responder.listener = some l) :
    s.acceptAll = carriedOut (s.proceed (Socket.accept ⟨l, s.system⟩)) := by
  have hround : s.acceptOnce = s.proceed (Socket.accept ⟨l, s.system⟩) := by
    unfold acceptOnce
    rw [if_pos hrunning, hlistener]
  rw [← hround]
  exact acceptAll_eq_carriedOut s

section Round

variable {s : Site} {l : Socket} {r : Reply (Caller Script)} {rest : List (Reply (Caller Script))}
  (hs : s.Attends l)

include hs

theorem running_heard (r : Reply (Caller Script)) :
    (s.heard l r).responder.running = !r.stopping :=
  (congrArg (· && !r.stopping) hs.running).trans (Bool.true_and _)

theorem running_round (r : Reply (Caller Script)) :
    (s.round l r).responder.running = !r.stopping := by
  unfold round complained
  cases r.caller? with
  | some caller => exact running_heard hs r
  | none => cases r.complaint? <;> exact running_heard hs r

variable (hq : l.descriptor.script.accept = r :: rest) (hr : r.Admits)

/-- After a round that asked to stop the loop looks at the flag and ends. -/
theorem acceptAll_round (hnone : r.fatal? = none) : (s.round l r).acceptAll =
    if r.goesOn then (s.round l r).acceptAll else (.finished, s.round l r) := by
  have hrunning := running_round hs r
  unfold Reply.goesOn
  cases hstop : r.stopping with
  | false =>
    rw [hnone]
    rfl
  | true =>
    rw [hstop] at hrunning
    exact acceptAll_of_stopped hrunning

include hq hr

theorem acceptAll_of_caller {caller : Caller Script} (hcaller : r.caller? = some caller) :
    s.acceptAll = (s.round l r).acceptAll := by
  obtain ⟨t, haccept, ht⟩ := accept_of_caller hs hq hr hcaller
  have hround : (s.withListener t).handle (l.connection s.system.nextNumber caller)
      = s.round l r := by
    unfold round
    rw [hcaller, ht]
  rw [acceptAll_eq_proceed hs.running hs.listener, haccept, ← hround]
  rfl

theorem acceptAll_of_failure {f : SystemFailure} (hf : r.outcome = .failure f) :
    s.acceptAll = if (NetError.ofSystem f).isTimeout then (s.heard l r).acceptAll
      else if r.stopping then (.finished, s.heard l r)
      else (.finished, (s.heard l r).say .error
        s!"accept failed: {(NetError.ofSystem f).message}") := by
  rw [acceptAll_eq_proceed hs.running hs.listener, accept_of_failure hs hq hr hf]
  unfold proceed
  dsimp only
  rw [withListener_turned hs, running_heard hs]
  cases (NetError.ofSystem f).isTimeout <;> cases r.stopping <;> rfl

/-- **One round of the loop.** -/
theorem acceptAll_eq : s.acceptAll =
    if r.goesOn then (s.round l r).acceptAll else (.finished, s.round l r) := by
  cases hcaller : r.caller? with
  | some caller =>
    rw [acceptAll_of_caller hs hq hr hcaller]
    exact acceptAll_round hs (Reply.fatal?_of_caller hcaller)
  | none =>
    obtain ⟨f, hf⟩ := Reply.failure_of_caller hcaller
    have hround : s.round l r = (s.heard l r).complained r := by
      unfold round
      rw [hcaller]
    rw [acceptAll_of_failure hs hq hr hf]
    cases hlate : (NetError.ofSystem f).isTimeout with
    | true =>
      have hnone : r.fatal? = none := by
        unfold Reply.fatal?
        rw [hf]
        exact if_pos hlate
      have hsame : s.round l r = s.heard l r := by
        rw [hround]
        unfold complained
        rw [Reply.complaint?_of_fatal hnone]
      rw [← acceptAll_round hs hnone, hsame]
      rfl
    | false =>
      have hsome : r.fatal? = some (.ofSystem f) := by
        unfold Reply.fatal?
        rw [hf]
        exact if_neg (ne_true_of_eq_false hlate)
      rw [hround]
      unfold Reply.goesOn complained Reply.complaint?
      rw [hsome]
      cases r.stopping <;> rfl

end Round

end Site

end HttpProbe
