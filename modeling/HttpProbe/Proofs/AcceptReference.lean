import HttpProbe.Proofs.AcceptRounds
import HttpProbe.Proofs.RequestRecord

/-!
# The accept loop against its reference

What the loop does with a queue of results is told from the queue alone. It asks for the results up
to the first that ends it, and a run that finds the queue empty changes nothing of this:

* `Session.Steps.errors`, `errors_handle`: a visit says no errors, so none of its failures looks
  like one of the loop's;
* `Reply.asked`, `Reply.unasked`, `Reply.last?`: the results that are asked for, the others, and the
  one between them;
* `Site.Heeded`: these results were given, and each was acted on. One round heeds one result
  (`heeded_round`), and rounds add up (`Heeded.trans`);
* `heeded_acceptAll`: so it is for the whole queue, by induction on it;
* `Site.WorkedOff`: the same over any number of runs, with more callers before each;
* **`runs_follow_queue`**: all of it for a responder that runs.
-/

namespace HttpProbe

/-! ## 1. What a visit does not touch -/

/-- The errors that were said. -/
def System.errors (s : System) : List Log.Record := s.log.toList.filter (·.level = .error)

/-- The number and the answer of an accept. -/
def Event.accepting? : Event → Option (Nat × Answer)
  | .called (.on n .accept) answer => some (n, answer)
  | _ => none

theorem Event.accepting_of_concerns {n : Nat} {es : List Event} (h : ∀ e ∈ es, e.Concerns n) :
    es.filterMap accepting? = [] := by
  refine List.filterMap_eq_nil_iff.2 fun e he => ?_
  cases h e he with
  | lookUp => rfl
  | describe => rfl
  | threadEnded => rfl
  | operation hother =>
    unfold accepting?
    split
    · rename_i hcall
      cases hcall
      exact absurd rfl hother
    · rfl

theorem System.errors_push (s : System) (record : Log.Record) :
    System.errors { s with log := s.log.push record } =
      s.errors ++ [record].filter (·.level = .error) := by
  unfold errors
  rw [Array.toList_push, List.filter_append]

theorem System.errors_debug (s : System) (source : Log.Source) (message : String) :
    (s.say .debug source message).errors = s.errors :=
  (s.errors_push _).trans (List.append_nil _)

namespace Session

theorem errors_closeElsewhere (s : Session) : s.closeElsewhere.system.errors = s.system.errors := by
  unfold closeElsewhere close
  split
  · rfl
  · unfold release
    dsimp only
    cases s.socket.descriptor.script.takeClose.1.outcome with
    | failure f => rfl
    | usual => exact System.errors_debug ..
    | value a => exact System.errors_debug ..

theorem errors_disturbed (s : Session) (m : Interference) :
    (s.disturbed m).system.errors = s.system.errors := by
  cases hc : m.closing with
  | false =>
    rw [disturbed_of_not_closing hc]
    rfl
  | true =>
    rw [disturbed_of_closing hc]
    exact errors_closeElsewhere _

theorem Step.errors {may : Permit} {s t : Session} (h : Step may s t) :
    t.system.errors = s.system.errors := by
  cases h with
  | call => exact errors_disturbed _ _
  | lookUp => exact errors_disturbed _ _
  | describe => exact errors_disturbed _ _
  | close => exact errors_closeElsewhere s
  | say => exact System.errors_debug ..
  | _ => rfl

/-- **Operations on a socket** say no errors. -/
theorem Steps.errors {may : Permit} {s t : Session} (h : Steps may s t) :
    t.system.errors = s.system.errors :=
  h.keep (R := fun s t => t.system.errors = s.system.errors) (fun _ => rfl)
    (fun h h' => h'.trans h) Step.errors

end Session

namespace Site

/-- No failure during a visit is said as an error. -/
theorem errors_handle (c : Socket) (s : Site) : (s.handle c).system.errors = s.system.errors := by
  have hsteps : Session.Steps (fun _ _ => True) ⟨c, s.system⟩
      (Responder.serve s.responder.plan ⟨c, s.system⟩).conclude.2 :=
    Responder.steps_visit (fun _ _ => trivial) (fun _ _ => trivial) (fun _ _ _ _ => trivial)
      (fun _ => trivial) _
  obtain hsystem | ⟨f, hsystem⟩ := handle_cases c s
  · rw [hsystem]
    exact hsteps.errors
  · rw [hsystem]
    exact hsteps.errors

end Site

/-! ## 2. Any number of rounds -/

/-- The listener when these results are to come. -/
def Socket.awaiting (l : Socket) (q : List (Reply (Caller Script))) : Socket :=
  { l with descriptor.script := { l.descriptor.script with accept := q } }

/-- The connections that the listener gives for these clients, one after the other. The first has
number `n`. -/
def Socket.connections (l : Socket) (n : Nat) (callers : List (Caller Script)) : List Socket :=
  (callers.zipIdx n).map fun (caller, k) => l.connection k caller

theorem Socket.connections_append (l : Socket) (n : Nat) (callers callers' : List (Caller Script)) :
    l.connections n (callers ++ callers')
      = l.connections n callers ++ l.connections (n + callers.length) callers' := by
  unfold connections
  rw [List.zipIdx_append, List.map_append]

/-- A script is recursive, so it is not what its fields make of it by definition. -/
theorem Socket.awaiting_accept (l : Socket) : l.awaiting l.descriptor.script.accept = l := by
  obtain ⟨⟨number, ⟨⟩, here, peer, dead⟩⟩ := l
  rfl

theorem Socket.next_eq {l : Socket} {r : Reply (Caller Script)} {rest : List (Reply (Caller Script))}
    (hq : l.descriptor.script.accept = r :: rest) : l.next = l.awaiting rest := by
  unfold next awaiting Script.takeAccept
  rw [hq]
  rfl

namespace Site

/-- From `s` to `t` the listener gave these results, and each was acted on once, in this order. Its
connections were handed over and visited, its errors were said, and nothing else was asked of the
listener. -/
structure Heeded (s : Site) (l : Socket) (q : List (Reply (Caller Script))) (t : Site) : Prop where
  visited : ∃ handed es, Chronicle s handed es t ∧ s.system.Noted t.system es ∧
    handed.map (·.socket) = l.connections s.system.nextNumber (q.filterMap Reply.caller?) ∧
    es.filterMap Event.accepting? = q.map fun r => (l.descriptor.number, r.answer)
  errors : t.system.errors = s.system.errors ++ q.filterMap Reply.complaint?
  running : t.responder.running = (s.responder.running && q.all fun r => !r.stopping)
  nextNumber : t.system.nextNumber = s.system.nextNumber + (q.filterMap Reply.caller?).length
  stopAsked : t.system.stopAsked = s.system.stopAsked

namespace Heeded

variable {s t u : Site} {l : Socket} {q q' : List (Reply (Caller Script))}

theorem refl (s : Site) (l : Socket) : Heeded s l [] s where
  visited := ⟨[], [], .nothing s, .refl _, rfl, rfl⟩
  errors := (List.append_nil _).symm
  running := (Bool.and_true _).symm
  nextNumber := rfl
  stopAsked := rfl

theorem trans (h : Heeded s l q t) (h' : Heeded t l q' u) : Heeded s l (q ++ q') u := by
  obtain ⟨handed, es, hes, hnoted, hsockets, haccepts⟩ := h.visited
  obtain ⟨handed', fs, hfs, hnoted', hsockets', haccepts'⟩ := h'.visited
  refine ⟨⟨_, _, hes.trans hfs, hnoted.trans hnoted', ?_, ?_⟩, ?_, ?_, ?_,
    h'.stopAsked.trans h.stopAsked⟩
  · rw [List.map_append, hsockets, hsockets', h.nextNumber, List.filterMap_append,
      Socket.connections_append]
  · rw [List.filterMap_append, haccepts, haccepts', List.map_append]
  · rw [h'.errors, h.errors, List.filterMap_append, List.append_assoc]
  · rw [h'.running, h.running, List.all_append, Bool.and_assoc]
  · rw [h'.nextNumber, h.nextNumber, List.filterMap_append, List.length_append, Nat.add_assoc]

/-- What the listener gives does not depend on what is to come. -/
theorem of_awaiting {waiting : List (Reply (Caller Script))}
    (h : Heeded s (l.awaiting waiting) q t) : Heeded s l q t := { h with }

end Heeded

section Rounds

variable {s : Site} {l : Socket} {r : Reply (Caller Script)} (hs : s.Attends l)

theorem errors_complained (r : Reply (Caller Script)) (s : Site) :
    (s.complained r).system.errors = s.system.errors ++ r.complaint?.toList := by
  unfold complained
  cases hr : r.complaint? with
  | none => exact (List.append_nil _).symm
  | some record =>
    have hlevel : [record].filter (·.level = .error) = [record] :=
      List.filter_eq_self.2 fun e he => by
        rw [List.mem_singleton.1 he, Reply.level_complaint hr]
        rfl
    exact (s.system.errors_push record).trans (congrArg (s.system.errors ++ ·) hlevel)

theorem passes_complained (r : Reply (Caller Script)) (s : Site) :
    s.Passes (s.complained r) [] ∧ (s.complained r).system.nextNumber = s.system.nextNumber ∧
      (s.complained r).system.stopAsked = s.system.stopAsked := by
  unfold complained
  cases r.complaint? <;> exact ⟨⟨.refl _, rfl, rfl⟩, rfl, rfl⟩

/-- A round leaves the listener without the result that it took. -/
theorem listener_round (s : Site) (l : Socket) (r : Reply (Caller Script)) :
    (s.round l r).responder.listener = some l.next := by
  unfold round complained
  cases r.caller? with
  | some caller => rfl
  | none => cases r.complaint? <;> rfl

include hs

/-- An accept that gave no connection. -/
theorem heeded_of_failure (hcaller : r.caller? = none) : Heeded s l [r] (s.round l r) := by
  have hround : s.round l r = (s.heard l r).complained r := by
    unfold round
    rw [hcaller]
  have hcallers : [r].filterMap Reply.caller? = [] := List.filterMap_cons_none hcaller
  have hcomplaints : [r].filterMap Reply.complaint? = r.complaint?.toList := by
    rw [List.filterMap_cons]
    cases r.complaint? <;> rfl
  obtain ⟨hsaid, hnext, hstop⟩ := passes_complained r (s.heard l r)
  have hpasses : s.Passes (s.round l r) [.called (.on l.descriptor.number .accept) r.answer] :=
    hround ▸ ⟨(System.Noted.note ..).trans hsaid.noted, hsaid.requests, hsaid.received⟩
  refine ⟨⟨[], _, .passes hpasses rfl (.nothing _), hpasses.noted, ?_, rfl⟩, ?_, ?_, ?_, ?_⟩
  · rw [hcallers]
    rfl
  · rw [hround, errors_complained, hcomplaints]
    rfl
  · rw [running_round hs, hs.running]
    exact (Bool.and_true _).symm
  · rw [hround, hnext, hcallers]
    rfl
  · rw [hround, hstop]
    rfl

/-- An accept that gave a connection, and the visit of this connection. -/
theorem heeded_of_caller (hr : r.Admits) {caller : Caller Script} (hcaller : r.caller? = some caller) :
    Heeded s l [r] (s.round l r) := by
  have hround : s.round l r
      = (s.heard l r).welcomed.handle (l.connection s.system.nextNumber caller) := by
    unfold round
    rw [hcaller]
  have hcallers : [r].filterMap Reply.caller? = [caller] := List.filterMap_cons_some hcaller
  have hcomplaints : [r].filterMap Reply.complaint? = [] :=
    List.filterMap_cons_none (Reply.complaint?_of_fatal (Reply.fatal?_of_caller hcaller))
  have hwithin : (l.connection s.system.nextNumber caller).descriptor.script.Within .closes :=
    ((Script.RepliesTo.setTimeout none).regular Operation.noConfusion).rest _ _
      (hr.within caller hcaller)
  obtain ⟨es, hes, hconcerns, -, -, hnext, hstop⟩ :=
    leaves_handle (c := l.connection s.system.nextNumber caller) rfl (s.heard l r).welcomed
  obtain ⟨es', hes', hnone⟩ :=
    hurried_handle (l.connection s.system.nextNumber caller) (s.heard l r).welcomed
  obtain rfl := hes'.unique hes
  -- What was noted before the visit: the accept, and that the connection was told to wait.
  have hpasses : s.Passes (s.heard l r).welcomed
      [.called (.on l.descriptor.number .accept) r.answer,
        .called (.on s.system.nextNumber (.setTimeout none)) .done] :=
    ⟨(System.Noted.note ..).trans (System.Noted.note ..), rfl, rfl⟩
  have hvisit := Chronicle.visit (c := l.connection s.system.nextNumber caller) hpasses rfl hes
    hnone (.nothing _)
  rw [hround]
  refine ⟨⟨_, _, hvisit, hvisit.noted, ?_, ?_⟩, ?_, ?_, ?_, ?_⟩
  · rw [hcallers]
    rfl
  · rw [List.filterMap_append, List.filterMap_append, Event.accepting_of_concerns hconcerns]
    rfl
  · rw [errors_handle, hcomplaints]
    exact (List.append_nil _).symm
  · rw [← hround, running_round hs, hs.running]
    exact (Bool.and_true _).symm
  · rw [hnext, hcallers]
    rfl
  · rw [hstop hwithin]
    rfl

/-- **A round** acts on one result. -/
theorem heeded_round (hr : r.Admits) : Heeded s l [r] (s.round l r) := by
  cases hcaller : r.caller? with
  | none => exact heeded_of_failure hs hcaller
  | some caller => exact heeded_of_caller hs hr hcaller

theorem attends_round {rest : List (Reply (Caller Script))}
    (hq : l.descriptor.script.accept = r :: rest) (hr : r.Admits) (hgoes : r.goesOn = true) :
    (s.round l r).Attends (l.awaiting rest) where
  running := by
    have hstopping : (!r.stopping) = true := (Bool.and_eq_true _ _ ▸ hgoes).1
    rw [running_round hs, hstopping]
  listener := by rw [listener_round, Socket.next_eq hq]
  isOpen := hs.isOpen
  alive := hs.alive
  stopAsked := (heeded_round hs hr).stopAsked.trans hs.stopAsked

end Rounds

end Site

/-! ## 3. The whole queue -/

namespace Reply

/-- The results that the loop asks for: those after which it goes on, and the first other one. -/
def asked (q : List (Reply (Caller Script))) : List (Reply (Caller Script)) :=
  q.takeWhile goesOn ++ (q.dropWhile goesOn).take 1

/-- The results that it does not ask for any more. -/
def unasked (q : List (Reply (Caller Script))) : List (Reply (Caller Script)) :=
  (q.dropWhile goesOn).drop 1

/-- The result that ends the loop, if there is one. -/
def last? (q : List (Reply (Caller Script))) : Option (Reply (Caller Script)) :=
  (q.dropWhile goesOn).head?

variable {r : Reply (Caller Script)} {q : List (Reply (Caller Script))}

theorem asked_cons (r : Reply (Caller Script)) (rest : List (Reply (Caller Script))) :
    asked (r :: rest) = if r.goesOn then r :: asked rest else [r] := by
  unfold asked
  rw [List.takeWhile_cons, List.dropWhile_cons]
  cases r.goesOn <;> rfl

theorem unasked_cons (r : Reply (Caller Script)) (rest : List (Reply (Caller Script))) :
    unasked (r :: rest) = if r.goesOn then unasked rest else rest := by
  unfold unasked
  rw [List.dropWhile_cons]
  cases r.goesOn <;> rfl

theorem last?_cons (r : Reply (Caller Script)) (rest : List (Reply (Caller Script))) :
    last? (r :: rest) = if r.goesOn then last? rest else some r := by
  unfold last?
  rw [List.dropWhile_cons]
  cases r.goesOn <;> rfl

/-- As long as the loop goes on, more results are results of the same queue. -/
theorem append_of_none (hlast : last? q = none) (more : List (Reply (Caller Script))) :
    unasked q = [] ∧ asked (q ++ more) = asked q ++ asked more ∧
      unasked (q ++ more) = unasked more ∧ last? (q ++ more) = last? more := by
  induction q with
  | nil => exact ⟨rfl, rfl, rfl, rfl⟩
  | cons r rest ih =>
    rw [last?_cons] at hlast
    rw [List.cons_append, asked_cons, asked_cons, unasked_cons, unasked_cons, last?_cons]
    cases hgoes : r.goesOn with
    | true =>
      rw [hgoes] at hlast
      obtain ⟨hleft, hasked, hunasked, hmore⟩ := ih hlast
      exact ⟨hleft, congrArg (r :: ·) hasked, hunasked, hmore⟩
    | false =>
      rw [hgoes] at hlast
      cases hlast

/-- Once it has ended it asks for none of them. -/
theorem append_of_some (hlast : last? q = some r) (more : List (Reply (Caller Script))) :
    asked (q ++ more) = asked q ∧ unasked (q ++ more) = unasked q ++ more ∧
      last? (q ++ more) = some r := by
  induction q with
  | nil => cases hlast
  | cons r' rest ih =>
    rw [last?_cons] at hlast
    rw [List.cons_append, asked_cons, asked_cons, unasked_cons, unasked_cons, last?_cons]
    cases hgoes : r'.goesOn with
    | true =>
      rw [hgoes] at hlast
      obtain ⟨hasked, hunasked, hmore⟩ := ih hlast
      exact ⟨congrArg (r' :: ·) hasked, hunasked, hmore⟩
    | false =>
      rw [hgoes] at hlast
      exact ⟨rfl, rfl, hlast⟩

theorem complaint?_of_goesOn (h : r.goesOn = true) : r.complaint? = none := by
  obtain ⟨-, hfatal⟩ := (Bool.and_eq_true _ _).mp h
  exact complaint?_of_fatal (Option.isNone_iff_eq_none.1 hfatal)

/-- Only the result that ends the loop may be complained of. -/
theorem complaints_asked (q : List (Reply (Caller Script))) :
    (asked q).filterMap complaint? = ((last? q).bind complaint?).toList := by
  induction q with
  | nil => rfl
  | cons r rest ih =>
    rw [asked_cons, last?_cons]
    cases hgoes : r.goesOn with
    | true => exact (List.filterMap_cons_none (complaint?_of_goesOn hgoes)).trans ih
    | false =>
      show [r].filterMap complaint? = r.complaint?.toList
      rw [List.filterMap_cons]
      cases r.complaint? <;> rfl

end Reply

namespace Site

theorem acceptAll_of_empty {s : Site} {l : Socket} (hs : s.Attends l)
    (hq : l.descriptor.script.accept = []) : s.acceptAll = (.parked, s) := by
  have haccept : Socket.accept ⟨l, s.system⟩ = .ok none ⟨l, s.system⟩ := by
    unfold Socket.accept
    dsimp only
    rw [if_neg (ne_true_of_eq_false hs.isOpen), hq]
    rfl
  have hsame : s.withListener ⟨l, s.system⟩ = s := by
    unfold withListener
    dsimp only
    rw [hs.stopAsked, Bool.not_false, Bool.and_true, ← hs.listener, ← hs.stopAsked]
  rw [acceptAll_eq_proceed hs.running hs.listener, haccept]
  exact congrArg (Pause.parked, ·) hsame

/-- **The loop** acts on every result that it is to ask for, and leaves the others. -/
theorem heeded_acceptAll {s : Site} {l : Socket} {q : List (Reply (Caller Script))}
    (hs : s.Attends l) (hq : l.descriptor.script.accept = q) (hadmits : ∀ r ∈ q, r.Admits) :
    s.acceptAll.1 = (if (Reply.last? q).isNone then .parked else .finished) ∧
      Heeded s l (Reply.asked q) s.acceptAll.2 ∧
      s.acceptAll.2.responder.listener = some (l.awaiting (Reply.unasked q)) ∧
      (Reply.last? q = none → s.acceptAll.2.Attends (l.awaiting [])) := by
  -- The induction is on the queue. A round after which the loop goes on leaves a site that attends
  -- the listener with the rest of the queue.
  induction q generalizing s l with
  | nil =>
    have hl : l.awaiting [] = l := hq ▸ l.awaiting_accept
    rw [acceptAll_of_empty hs hq, show Reply.unasked [] = [] from rfl, hl]
    exact ⟨rfl, .refl s l, hs.listener, fun _ => hs⟩
  | cons r rest ih =>
    have hr : r.Admits := hadmits r List.mem_cons_self
    have hround : Heeded s l [r] (s.round l r) := heeded_round hs hr
    rw [acceptAll_eq hs hq hr, Reply.asked_cons, Reply.unasked_cons, Reply.last?_cons]
    cases hgoes : r.goesOn with
    | true =>
      obtain ⟨hpause, hrest, hlistener, hattends⟩ := ih (attends_round hs hq hr hgoes) rfl
        fun r' hr' => hadmits r' (List.mem_cons_of_mem r hr')
      exact ⟨hpause, hround.trans hrest.of_awaiting, hlistener, hattends⟩
    | false =>
      refine ⟨rfl, hround, ?_, fun h => nomatch h⟩
      exact (listener_round s l r).trans (congrArg some (Socket.next_eq hq))

/-! ## 4. Runs -/

/-- From `s` to `t` the loop worked off the queue of the listener `l`, as far as it is to. -/
structure WorkedOff (s : Site) (l : Socket) (loop : Nat) (q : List (Reply (Caller Script)))
    (t : Site) : Prop where
  heeded : Heeded s l (Reply.asked q) t
  listener : t.responder.listener = some (l.awaiting (Reply.unasked q))
  waits : Reply.last? q = none → t.Attends (l.awaiting []) ∧ t.responder.unfinished = [loop]
  ended : ∀ r, Reply.last? q = some r → t.responder.unfinished = []

theorem unfinished_acceptAll (s : Site) :
    s.acceptAll.2.responder.unfinished = s.responder.unfinished := by
  fun_induction acceptAll s with
  | case1 s pause t hround => exact unfinished_acceptOnce hround
  | case2 s t hround ih => exact ih.trans (unfinished_acceptOnce hround)
  | case3 s c t hround ih => exact ih.trans (unfinished_acceptOnce hround)

/-- A change that is no concern of the loop's. -/
theorem heeded_of_system {s t : Site} {l : Socket} (hsystem : t.system = s.system)
    (hrunning : t.responder.running = s.responder.running)
    (hrequests : t.responder.requests = s.responder.requests)
    (hreceived : t.responder.received = s.responder.received) : Heeded s l [] t := by
  have hnoted : s.system.Noted t.system [] := hsystem ▸ .refl _
  refine ⟨⟨[], _, .passes ⟨hnoted, hrequests, hreceived⟩ rfl (.nothing t), hnoted, rfl, rfl⟩,
    ?_, ?_, ?_, ?_⟩
  · rw [hsystem]
    exact (List.append_nil _).symm
  · rw [hrunning]
    exact (Bool.and_true _).symm
  · rw [hsystem]
    rfl
  · rw [hsystem]

section Runs

variable {s t : Site} {l : Socket} {loop : Nat} {q : List (Reply (Caller Script))}

/-- **A run** works the queue off, and forgets the loop if it has ended. -/
theorem workedOff_run (hs : s.Attends l) (hloop : s.responder.unfinished = [loop])
    (hq : l.descriptor.script.accept = q) (hadmits : ∀ r ∈ q, r.Admits) :
    s.run.1 = .paused (if (Reply.last? q).isNone then .parked else .finished) ∧
      WorkedOff s l loop q s.run.2 := by
  obtain ⟨hpause, hheeded, hlistener, hattends⟩ := heeded_acceptAll hs hq hadmits
  have hunfinished := unfinished_acceptAll s
  have hrun : s.run = (.paused s.acceptAll.1, settle loop s.acceptAll) := by
    unfold run
    rw [hloop]
  rw [hrun]
  generalize s.acceptAll = ended at *
  obtain ⟨p, t⟩ := ended
  cases hlast : Reply.last? q with
  | none =>
    rw [hlast] at hpause
    obtain rfl : p = .parked := hpause
    exact ⟨rfl, hheeded, hlistener, fun _ => ⟨hattends hlast, hunfinished.trans hloop⟩,
      fun r hr => nomatch hlast.symm.trans hr⟩
  | some r =>
    rw [hlast] at hpause
    obtain rfl : p = .finished := hpause
    have hforget : Heeded t l [] (t.forget loop) := heeded_of_system rfl rfl rfl rfl
    have hnone : (t.forget loop).responder.unfinished = [] := by
      show t.responder.unfinished.filter (· != loop) = []
      rw [show t.responder.unfinished = [loop] from hunfinished.trans hloop]
      exact List.filter_cons_of_neg (by rw [bne_self_eq_false]; decide)
    have hended := hheeded.trans hforget
    rw [List.append_nil] at hended
    exact ⟨rfl, hended, hlistener, fun h => (nomatch h.symm.trans hlast), fun _ _ => hnone⟩

/-- An offer is no concern of anything but the queue. -/
theorem offer_keeps (callers : List (Reply (Caller Script))) (s : Site) :
    Heeded s l [] (s.offer callers) ∧ (s.offer callers).system = s.system ∧
      (s.offer callers).responder.running = s.responder.running ∧
      (s.offer callers).responder.unfinished = s.responder.unfinished := by
  unfold offer
  cases s.responder.listener <;> exact ⟨heeded_of_system rfl rfl rfl rfl, rfl, rfl, rfl⟩

theorem offer_of_listener (hlistener : s.responder.listener = some l)
    (callers : List (Reply (Caller Script))) :
    (s.offer callers).responder.listener
      = some (l.awaiting (l.descriptor.script.accept ++ callers)) := by
  unfold offer
  rw [hlistener]
  rfl

section Later

variable {callers : List (Reply (Caller Script))} (h : WorkedOff s l loop q t)

include h

theorem heeded_of_offer (callers : List (Reply (Caller Script))) :
    Heeded s l (Reply.asked q) (t.offer callers) := by
  have hoffered := h.heeded.trans (offer_keeps callers t).1
  rwa [List.append_nil] at hoffered

/-- A loop that has ended is not run again. -/
theorem WorkedOff.of_ended {r : Reply (Caller Script)} (hlast : Reply.last? q = some r) :
    WorkedOff s l loop (q ++ callers) (t.offer callers).run.2 := by
  obtain ⟨hasked, hunasked, hmore⟩ := Reply.append_of_some hlast callers
  have hended : (t.offer callers).responder.unfinished = [] :=
    (offer_keeps (l := l) callers t).2.2.2.trans (h.ended r hlast)
  have hidle : (t.offer callers).run = (.idle, t.offer callers) := by
    unfold run
    rw [hended]
  rw [hidle]
  refine ⟨?_, ?_, (fun hnone => nomatch hmore.symm.trans hnone), fun _ _ => hended⟩
  · rw [hasked]
    exact heeded_of_offer h callers
  · rw [hunasked]
    exact offer_of_listener h.listener callers

/-- A loop that waits goes on with the new results. -/
theorem WorkedOff.of_waiting (hlast : Reply.last? q = none) (hadmits : ∀ r ∈ callers, r.Admits) :
    WorkedOff s l loop (q ++ callers) (t.offer callers).run.2 := by
  obtain ⟨hleft, hasked, hunasked, hmore⟩ := Reply.append_of_none hlast callers
  obtain ⟨hattends, hloop⟩ := h.waits hlast
  obtain ⟨-, hsystem, hrunning, hunfinished⟩ := offer_keeps (l := l) callers t
  have hlistener := offer_of_listener h.listener callers
  rw [hleft] at hlistener
  have hattends' : (t.offer callers).Attends (l.awaiting callers) :=
    { running := hrunning.trans hattends.running
      listener := hlistener
      isOpen := hattends.isOpen
      alive := hattends.alive
      stopAsked := hsystem ▸ hattends.stopAsked }
  obtain ⟨-, hrun⟩ := workedOff_run hattends' (hunfinished.trans hloop) rfl hadmits
  refine ⟨?_, ?_, hmore ▸ hrun.waits, hmore ▸ hrun.ended⟩
  · rw [hasked]
    exact (heeded_of_offer h callers).trans hrun.heeded.of_awaiting
  · rw [hunasked]
    exact hrun.listener

/-- **A later run** goes on where the loop was, or finds that it has ended. -/
theorem WorkedOff.later (hadmits : ∀ r ∈ callers, r.Admits) :
    WorkedOff s l loop (q ++ callers) (t.offer callers).run.2 := by
  cases hlast : Reply.last? q with
  | none => exact h.of_waiting hlast hadmits
  | some r => exact h.of_ended hlast

end Later

/-- Any number of later runs, with more callers before each. -/
theorem WorkedOff.foldl (h : WorkedOff s l loop q t)
    {later : List (List (Reply (Caller Script)))} (hadmits : ∀ r ∈ later.flatten, r.Admits) :
    WorkedOff s l loop (q ++ later.flatten)
      (later.foldl (fun s callers => (s.offer callers).run.2) t) := by
  induction later generalizing q t with
  | nil =>
    rw [List.flatten_nil, List.append_nil]
    exact h
  | cons callers later ih =>
    rw [List.flatten_cons] at hadmits ⊢
    obtain ⟨hnow, hthen⟩ := List.forall_mem_append.1 hadmits
    rw [← List.append_assoc]
    exact ih (h.later hnow) hthen

end Runs

/-- **The accept loop against its reference.** A responder runs and its loop waits. However many
runs there are, and however the results of accepts come to be in the queue, the loop comes to this:

* it asks for the results up to the first that asked to stop or failed other than by time being
  over, this one included, and for no more;
* the connections among them are handed over and visited, each once and in this order, whatever
  happens during a visit;
* one error is said if the last of them failed and nobody asked to stop until then, and none
  otherwise;
* the loop has ended if there is such a last result, and waits for more otherwise. -/
theorem runs_follow_queue {s : Site} {l : Socket} {loop : Nat} (hs : s.Attends l)
    (hloop : s.responder.unfinished = [loop]) (later : List (List (Reply (Caller Script))))
    (hadmits : ∀ r ∈ l.descriptor.script.accept ++ later.flatten, r.Admits) :
    let first := l.descriptor.script.accept
    let q := first ++ later.flatten
    let t := later.foldl (fun s callers => (s.offer callers).run.2) s.run.2
    s.run.1 = .paused (if (Reply.last? first).isNone then .parked else .finished) ∧
      (∃ handed es, Chronicle s handed es t ∧ s.system.Noted t.system es ∧
        handed.map (·.socket)
          = l.connections s.system.nextNumber ((Reply.asked q).filterMap Reply.caller?) ∧
        es.filterMap Event.accepting?
          = (Reply.asked q).map fun r => (l.descriptor.number, r.answer)) ∧
      t.system.errors = s.system.errors ++ ((Reply.last? q).bind Reply.complaint?).toList ∧
      t.responder.running = ((Reply.asked q).all fun r => !r.stopping) ∧
      t.responder.unfinished = (if (Reply.last? q).isNone then [loop] else []) ∧
      t.responder.listener = some (l.awaiting (Reply.unasked q)) := by
  intro first q t
  obtain ⟨hnow, hthen⟩ := List.forall_mem_append.1 hadmits
  obtain ⟨hpause, hrun⟩ := workedOff_run hs hloop rfl hnow
  have hall : WorkedOff s l loop q t := hrun.foldl hthen
  refine ⟨hpause, hall.heeded.visited, ?_, ?_, ?_, hall.listener⟩
  · rw [hall.heeded.errors, Reply.complaints_asked]
  · rw [hall.heeded.running, hs.running, Bool.true_and]
  · cases hlast : Reply.last? q with
    | none => exact (hall.waits hlast).2
    | some r => exact hall.ended r hlast

/-- A client that asks for nothing and hangs up. The system fails to close its connection. -/
def hasty : Caller Script where
  script :=
    { recv := [{ outcome := .value [10, 10] }]
      sendAll := [{ outcome := .failure (.coded 32 "Broken pipe"), closing := true }]
      close := [{ outcome := .failure (.coded Errno.inputOutput "Input/output error") }] }
  peer := ⟨"127.0.0.1", 50000, []⟩

/-- A listener for which such a client waits, and then nobody until its time is over. -/
def attending : Socket where
  descriptor :=
    { number := 3
      script := { accept := [{ outcome := .value hasty }, { outcome := .failure .timeout }] } }

/-- A responder with this listener. -/
def attended : Site where
  responder := { running := true, listener := some attending, started := 1, unfinished := [0] }
  system := { nextNumber := 4 }

/-- Nobody at first, and then two more clients. During the accept of the first of them somebody asks
to stop. -/
def latecomers : List (List (Reply (Caller Script))) :=
  [[], [{ outcome := .value hasty, stopping := true }, { outcome := .value hasty }]]

theorem admits_hasty (stopping : Bool) :
    Reply.Admits { outcome := .value hasty, stopping } where
  closing := rfl
  within caller h := by
    obtain rfl := Option.some.inj h
    constructor <;> decide
  timeout caller h f hf := by
    obtain rfl := Option.some.inj h
    cases hf

/-- The client that came with the wish to stop is visited, and the one after it is not. -/
theorem runs_follow_queue_attended :
    attended.Attends attending ∧ attended.responder.unfinished = [0] ∧
      (∀ r ∈ attending.descriptor.script.accept ++ latecomers.flatten, r.Admits) ∧
      let t := latecomers.foldl (fun s callers => (s.offer callers).run.2) attended.run.2
      attended.run.1 = .paused .parked ∧
        (∃ handed es, Chronicle attended handed es t ∧
          handed.map (·.socket) = [attending.connection 4 hasty, attending.connection 5 hasty] ∧
          es.filterMap Event.accepting? =
            [(3, .done), (3, .failed .timeout), (3, .done)]) ∧
        t.system.errors = [] ∧ t.responder.running = false ∧ t.responder.unfinished = [] ∧
        t.responder.listener = some (attending.awaiting [{ outcome := .value hasty }]) := by
  have hattends : attended.Attends attending := ⟨rfl, rfl, rfl, rfl, rfl⟩
  have hadmits : ∀ r ∈ attending.descriptor.script.accept ++ latecomers.flatten, r.Admits := by
    intro r hr
    have htimeout : Reply.Admits { outcome := .failure .timeout } :=
      ⟨rfl, (fun _ h => nomatch h), fun _ h => nomatch h⟩
    have hqueue : attending.descriptor.script.accept ++ latecomers.flatten =
        [{ outcome := .value hasty }, { outcome := .failure .timeout },
          { outcome := .value hasty, stopping := true }, { outcome := .value hasty }] := rfl
    rw [hqueue] at hr
    simp only [List.mem_cons, List.not_mem_nil, or_false] at hr
    rcases hr with rfl | rfl | rfl | rfl
    · exact admits_hasty false
    · exact htimeout
    · exact admits_hasty true
    · exact admits_hasty false
  obtain ⟨hpause, ⟨handed, es, hchronicle, -, hsockets, haccepts⟩, herrors, hrunning, hunfinished,
    hlistener⟩ := runs_follow_queue hattends rfl latecomers hadmits
  exact ⟨hattends, rfl, hadmits, hpause, ⟨handed, es, hchronicle, hsockets, haccepts⟩, herrors,
    hrunning, hunfinished, hlistener⟩

end Site

end HttpProbe
