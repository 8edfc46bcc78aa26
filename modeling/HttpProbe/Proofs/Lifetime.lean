import HttpProbe.Proofs.Accepting

/-!
# The life of a responder

A responder is started, run and stopped any number of times. Any of its calls may fail, but nobody
else closes its listener or asks it to stop, and a listener that was set up tells its port:

* `Event.opened`: the sockets that were made and not given back;
* `Sound`: the invariant. It ties the running flag, the listener and the accept loops to what was
  noted of the system so far;
* `Goes`: what one move leaves. `goes_start`, `goes_run`, `goes_stop` say that it leaves the
  invariant, and that it accepts nothing on a listener that is done with (`Retired`);
* `goes_lives`: so does a whole life, by induction on its moves;
* **`lifecycle`**: the responder runs exactly if one socket is open and this is its listener, and no
  accept loop outlives a stop.
-/

namespace HttpProbe

/-! ## 1. The sockets that are open -/

namespace Event

/-- The numbers of the sockets that were made and not given back, where `n` was the next number. -/
def opened (n : Nat) (es : List Event) : List Nat := (made n es).filter fun m => closings m es == 0

theorem mem_making {n m : Nat} {e : Event} (h : m ∈ e.making n) : m = n ∧ e.birth = 1 := by
  unfold making at h
  split at h
  · exact ⟨List.mem_singleton.1 h, rfl⟩
  · cases h

theorem bounds_of_mem_made {n m : Nat} {es : List Event} (h : m ∈ made n es) :
    n ≤ m ∧ m < n + births es := by
  induction es generalizing n with
  | nil => cases h
  | cons e es ih =>
    rw [births]
    rcases List.mem_append.1 h with h | h
    · obtain ⟨rfl, hbirth⟩ := mem_making h
      omega
    · obtain ⟨hle, hlt⟩ := ih h
      omega

variable {n k : Nat} {es fs : List Event}

/-- Of the sockets that were open those stay open that were not given back since. -/
theorem opened_append (hk : n + births es = k) (hunborn : ∀ m, k ≤ m → closings m es = 0) :
    opened n (es ++ fs) = (opened n es).filter (fun m => closings m fs == 0) ++ opened k fs := by
  have hold : ∀ m ∈ made n es, (closings m (es ++ fs) == 0)
      = (closings m fs == 0 && closings m es == 0) := by
    intro m _
    rw [closings_append, Bool.eq_iff_iff]
    simp only [beq_iff_eq, Bool.and_eq_true]
    omega
  have hnew : ∀ m ∈ made k fs, (closings m (es ++ fs) == 0) = (closings m fs == 0) := by
    intro m hm
    rw [closings_append, hunborn m (bounds_of_mem_made hm).1, Nat.zero_add]
  rw [opened, made_append, hk, List.filter_append, List.filter_congr hold, List.filter_congr hnew,
    ← List.filter_filter]
  rfl

/-- Every number was given away once, no descriptor was given back that was not made, and no socket
was given back twice. -/
structure Ledger (n : Nat) (es : List Event) (k : Nat) : Prop where
  next : n + births es = k
  unborn : ∀ m, k ≤ m → closings m es = 0
  once : ∀ m ∈ made n es, closings m es ≤ 1

theorem Ledger.nil (n : Nat) : Ledger n [] n :=
  ⟨rfl, fun _ _ => rfl, fun _ h => nomatch h⟩

/-- Descriptors that were there before may be given back by `fs` if they are open. -/
theorem Ledger.append (h : Ledger n es k) (hnew : ∀ m, k + births fs ≤ m → closings m fs = 0)
    (hold : ∀ m ∈ made n es, closings m es + closings m fs ≤ 1)
    (hmade : ∀ m ∈ made k fs, closings m fs ≤ 1) : Ledger n (es ++ fs) (k + births fs) where
  next := by rw [births_append, ← Nat.add_assoc, h.next]
  unborn m hm := by
    rw [closings_append, h.unborn m (Nat.le_trans (Nat.le_add_right _ _) hm), hnew m hm]
  once m hm := by
    rw [closings_append]
    rw [made_append, h.next] at hm
    rcases List.mem_append.1 hm with hm | hm
    · exact hold m hm
    · rw [h.unborn m (bounds_of_mem_made hm).1, Nat.zero_add]
      exact hmade m hm

/-- No descriptor that was there before is given back. -/
theorem Ledger.append_spared (h : Ledger n es k) (hspared : ∀ m, m < k → closings m fs = 0)
    (hnew : ∀ m, k + births fs ≤ m → closings m fs = 0)
    (hmade : ∀ m ∈ made k fs, closings m fs ≤ 1) :
    Ledger n (es ++ fs) (k + births fs) ∧ opened n (es ++ fs) = opened n es ++ opened k fs := by
  have hzero : ∀ m ∈ made n es, closings m fs = 0 := fun m hm =>
    hspared m (h.next ▸ (bounds_of_mem_made hm).2)
  refine ⟨h.append hnew (fun m hm => ?_) hmade, ?_⟩
  · rw [hzero m hm]
    exact h.once m hm
  · have hall : ∀ m ∈ opened n es, (closings m fs == 0) = true := fun m hm =>
      beq_iff_eq.2 (hzero m (List.mem_of_mem_filter hm))
    rw [opened_append h.next h.unborn, List.filter_eq_self.2 hall]

/-- A call that makes no socket and gives none back leaves the same sockets open. -/
theorem Ledger.append_idle (h : Ledger n es k) {e : Event} (hbirths : births [e] = 0)
    (hmade : ∀ m, made m [e] = []) (hclosings : ∀ m, closings m [e] = 0) :
    Ledger n (es ++ [e]) k ∧ opened n (es ++ [e]) = opened n es := by
  obtain ⟨hledger, hsame⟩ := h.append_spared (fun m _ => hclosings m) (fun m _ => hclosings m)
    fun m hm => nomatch hmade k ▸ hm
  have hnone : opened k [e] = [] := by
    rw [opened, hmade]
    rfl
  rw [hbirths] at hledger
  rw [hnone, List.append_nil] at hsame
  exact ⟨hledger, hsame⟩

theorem Ledger.le {k' : Nat} (h : Ledger n es k) (h' : Ledger n (es ++ fs) k') : k ≤ k' := by
  have hbirths := h'.next
  rw [births_append, ← Nat.add_assoc, h.next] at hbirths
  omega

/-- What is noted of a listener that was made. -/
theorem closings_listener (h : ∀ e ∈ fs, e.Concerns k) :
    births (.called Check.socketCall .done :: fs) = 1 ∧
      (∀ m, closings m (.called Check.socketCall .done :: fs) = closings m fs) ∧
      ∀ m answer, .called (.on m .accept) answer ∉ .called Check.socketCall .done :: fs := by
  refine ⟨?_, fun m => List.countP_cons_of_neg (fun h => nomatch h), fun m answer he => ?_⟩
  · exact congrArg (1 + ·) (births_of_concerns h).1
  · rcases List.mem_cons.1 he with he | he
    · cases he
    · exact notMem_of_concerns h answer he

/-- A listener that was made is open unless it was closed again. -/
theorem Ledger.append_listener (h : Ledger n es k) (hconcerns : ∀ e ∈ fs, e.Concerns k)
    {closed : Bool} (hclosings : closings k fs = closed.toNat) :
    Ledger n (es ++ .called Check.socketCall .done :: fs) (k + 1) ∧
      opened n (es ++ .called Check.socketCall .done :: fs)
        = opened n es ++ if closed then [] else [k] := by
  obtain ⟨hbirths, hsame, -⟩ := closings_listener hconcerns
  have hother : ∀ m, m ≠ k → closings m (.called Check.socketCall .done :: fs) = 0 := by
    intro m hm
    rw [hsame, closings_of_concerns hconcerns hm]
  have hself : closings k (.called Check.socketCall .done :: fs) = closed.toNat :=
    (hsame k).trans hclosings
  have hopened : opened k (.called Check.socketCall .done :: fs) = if closed then [] else [k] := by
    rw [opened, made_listener hconcerns, List.filter_singleton, hself]
    cases closed <;> rfl
  obtain ⟨hledger, hopen⟩ := h.append_spared
    (fun m hm => hother m (Nat.ne_of_lt hm))
    (fun m hm => hother m (by omega))
    fun m hm => by
      rw [made_listener hconcerns] at hm
      rw [List.mem_singleton.1 hm, hself]
      exact Bool.toNat_le closed
  rw [hbirths] at hledger
  rw [hopened] at hopen
  exact ⟨hledger, hopen⟩

end Event

/-! ## 2. The invariant -/

namespace Site

/-- The state of a responder fits what was noted since the number `n` was the next one. -/
structure Sound (n : Nat) (es : List Event) (s : Site) : Prop where
  ledger : Event.Ledger n es s.system.nextNumber
  running : s.responder.running = true → ∃ l, s.responder.listener = some l ∧ l.Live ∧
    Event.opened n es = [l.descriptor.number]
  stopped : s.responder.running = false →
    Event.opened n es = [] ∧ s.responder.unfinished = []
  loop : s.responder.unfinished = [] ∨
    ∃ k, s.responder.started = k + 1 ∧ s.responder.unfinished = [k]
  stopAsked : s.system.stopAsked = false
  scripts : ∀ script, .ok script ∈ s.system.sockets → script.Listens

/-- The descriptor of number `m` is not the listener of a running responder, and it never
will be. -/
structure Retired (m : Nat) (s : Site) : Prop where
  born : m < s.system.nextNumber
  other : s.responder.running = true → ∀ l, s.responder.listener = some l → l.descriptor.number ≠ m

/-- A move from a sound state `s` leads to `t` and notes `fs`. -/
structure Goes (n : Nat) (es : List Event) (s t : Site) (fs : List Event) : Prop where
  noted : s.system.Noted t.system fs
  sound : Sound n (es ++ fs) t
  retired : ∀ m, Retired m s → Retired m t ∧ ∀ answer, .called (.on m .accept) answer ∉ fs

variable {n : Nat} {es fs gs : List Event} {s t u : Site}

theorem Goes.refl (h : Sound n es s) : Goes n es s s [] :=
  ⟨.refl _, (List.append_nil es).symm ▸ h, fun _ hm => ⟨hm, fun _ h => nomatch h⟩⟩

/-- No socket that was made is the listener of a responder that does not run. -/
theorem Sound.retired (h : Sound n es s) (hrunning : s.responder.running = false) {m : Nat}
    (hm : m ∈ Event.made n es) : Retired m s where
  born := h.ledger.next ▸ (Event.bounds_of_mem_made hm).2
  other := fun hr => nomatch hrunning.symm.trans hr

/-- A number that was given away stays so, so no more is to show of a move than this. -/
theorem Goes.of_sound (h : Sound n es s) (hnoted : s.system.Noted t.system fs)
    (ht : Sound n (es ++ fs) t)
    (hother : ∀ m, Retired m s → t.responder.running = true →
      ∀ l, t.responder.listener = some l → l.descriptor.number ≠ m)
    (haccept : ∀ m, Retired m s → ∀ answer, .called (.on m .accept) answer ∉ fs) :
    Goes n es s t fs :=
  ⟨hnoted, ht, fun m hm => ⟨⟨Nat.lt_of_lt_of_le hm.born (h.ledger.le ht.ledger), hother m hm⟩,
    haccept m hm⟩⟩

theorem Goes.trans (h : Goes n es s t fs) (h' : Goes n (es ++ fs) t u gs) :
    Goes n es s u (fs ++ gs) where
  noted := h.noted.trans h'.noted
  sound := List.append_assoc es fs gs ▸ h'.sound
  retired m hm := by
    obtain ⟨ht, hfs⟩ := h.retired m hm
    obtain ⟨hu, hgs⟩ := h'.retired m ht
    refine ⟨hu, fun answer he => ?_⟩
    rcases List.mem_append.1 he with he | he
    · exact hfs answer he
    · exact hgs answer he

/-! ## 3. A start -/

theorem listens_nextSocket {system : System} {script : Script}
    (hscripts : ∀ script, .ok script ∈ system.sockets → script.Listens)
    (h : Check.nextSocket system = .ok script) : script.Listens := by
  unfold Check.nextSocket at h
  cases hs : system.sockets with
  | nil =>
    rw [hs] at h
    obtain rfl := Except.ok.inj h
    exact ⟨Script.within_default _, fun r hr => nomatch hr⟩
  | cons first rest =>
    rw [hs] at h hscripts
    obtain rfl : first = .ok script := h
    exact hscripts script List.mem_cons_self

/-- What was done with a listener leaves the sockets to come, and nobody asked to stop. -/
theorem calm_of_leaves {script : Script} {v : Session} (h : Sound n es s)
    (hnext : Check.nextSocket s.system = .ok script) (hleft : (s.fresh script).Leaves v) :
    v.system.stopAsked = false ∧ v.socket.Live ∧
      ∀ script, .ok script ∈ v.system.sockets → script.Listens := by
  have hlistens := listens_nextSocket h.scripts hnext
  have hstays := hleft.stays .none hlistens.within
  refine ⟨(hstays.stopAsked rfl).trans h.stopAsked, ⟨hstays.isOpen rfl, hstays.within, ?_⟩,
    fun script hscript => h.scripts script ?_⟩
  · rw [hleft.handled.accept]
    exact hlistens.callers
  · rw [hleft.handled.sockets] at hscript
    exact List.mem_of_mem_tail hscript

/-- A start that failed leaves the responder as it was and no socket open. -/
theorem goes_of_failed (h : Sound n es s) (hrunning : s.responder.running = false)
    (hresponder : t.responder = s.responder) (hnoted : s.system.Noted t.system fs)
    (hledger : Event.Ledger n (es ++ fs) t.system.nextNumber)
    (hsame : Event.opened n (es ++ fs) = Event.opened n es)
    (haccept : ∀ m answer, .called (.on m .accept) answer ∉ fs)
    (hstop : t.system.stopAsked = false)
    (hscripts : ∀ script, .ok script ∈ t.system.sockets → script.Listens) :
    Goes n es s t fs := by
  obtain ⟨hopened, hunfinished⟩ := h.stopped hrunning
  have hstopped : t.responder.running ≠ true := by
    rw [hresponder]
    exact ne_true_of_eq_false hrunning
  have hsound : Sound n (es ++ fs) t :=
    { ledger := hledger
      running := fun hr => absurd hr hstopped
      stopped := fun _ => by
        rw [hsame, hopened, hresponder]
        exact ⟨rfl, hunfinished⟩
      loop := by
        rw [hresponder]
        exact h.loop
      stopAsked := hstop
      scripts := hscripts }
  exact .of_sound h hnoted hsound (fun m _ hr => absurd hr hstopped) fun m _ => haccept m

/-- A listener that could not be set up was closed again. -/
theorem goes_abandoned {script : Script} {v : Session} (h : Sound n es s)
    (hrunning : s.responder.running = false) (hnext : Check.nextSocket s.system = .ok script)
    (hleft : (s.fresh script).Leaves v) :
    ∃ fs, Goes n es s { s with system := v.closeElsewhere.system } fs := by
  have hhandled := hleft.handled.trans (Session.handled_closeElsewhere v)
  obtain ⟨fs, hnoted, hconcerns, hclosings⟩ := events_of_handled hhandled
  obtain ⟨-, -, haccept⟩ := Event.closings_listener hconcerns
  obtain ⟨hstop, -, hscripts⟩ := calm_of_leaves h hnext hleft
  obtain ⟨hsockets, -, hstop'⟩ := Session.system_closeElsewhere v
  rw [Session.closed_closeElsewhere] at hclosings
  obtain ⟨hledger, hopened⟩ := h.ledger.append_listener hconcerns hclosings
  rw [if_pos rfl, List.append_nil] at hopened
  have hcount : v.closeElsewhere.system.nextNumber = s.system.nextNumber + 1 := hhandled.nextNumber
  exact ⟨_, goes_of_failed h hrunning rfl hnoted (hcount ▸ hledger) hopened haccept
    (hstop'.trans hstop) (hsockets.symm ▸ hscripts)⟩

/-- A listener that was set up and told its port is the one socket that is open. -/
theorem goes_launched {script : Script} {v : Session} (h : Sound n es s)
    (hrunning : s.responder.running = false) (hnext : Check.nextSocket s.system = .ok script)
    (hleft : (s.fresh script).Leaves v) (port : Int) : ∃ fs, Goes n es s (s.launched v port) fs := by
  obtain ⟨hnone, hunfinished⟩ := h.stopped hrunning
  obtain ⟨fs, hnoted, hconcerns, hclosings⟩ := events_of_handled hleft.handled
  obtain ⟨-, -, haccept⟩ := Event.closings_listener hconcerns
  obtain ⟨hstop, hlive, hscripts⟩ := calm_of_leaves h hnext hleft
  have hnumber : v.socket.descriptor.number = s.system.nextNumber := hleft.handled.number
  have hcount : v.system.nextNumber = s.system.nextNumber + 1 := hleft.handled.nextNumber
  rw [hlive.isOpen] at hclosings
  obtain ⟨hledger, hopened⟩ := h.ledger.append_listener hconcerns hclosings
  rw [hnone, List.nil_append, if_neg Bool.false_ne_true, ← hnumber] at hopened
  rw [← hcount] at hledger
  have hloop : s.responder.unfinished ++ [s.responder.started] = [s.responder.started] := by
    rw [hunfinished, List.nil_append]
  have hsound : Sound n (es ++ .called Check.socketCall .done :: fs) (s.launched v port) :=
    { ledger := hledger
      running := fun _ => ⟨v.socket, rfl, hlive, hopened⟩
      stopped := fun hr => nomatch hr
      loop := .inr ⟨s.responder.started, rfl, hloop⟩
      stopAsked := hstop
      scripts := hscripts }
  refine ⟨_, .of_sound h hnoted hsound (fun m hm _ l hl => ?_) fun m _ => haccept m⟩
  obtain rfl := Option.some.inj hl
  rw [hnumber]
  exact (Nat.ne_of_lt hm.born).symm

theorem goes_start (h : Sound n es s) (htells : s.responder.running = false → s.TellsPort) :
    ∃ fs, Goes n es s (after (start s)) fs := by
  cases hrunning : s.responder.running with
  | true =>
    rw [start_of_running hrunning]
    exact ⟨[], .refl h⟩
  | false =>
    have hstarts := starts_of_stopped hrunning
    generalize start s = r at hstarts
    cases hstarts with
    | @noSocket f hnext =>
      obtain ⟨hledger, hsame⟩ := h.ledger.append_idle
        (e := .called Check.socketCall (.failed f)) rfl (fun _ => rfl) fun _ => rfl
      refine ⟨_, goes_of_failed h hrunning rfl (System.Noted.note ..) hledger hsame
        (fun m answer he => ?_) h.stopAsked
        fun script hscript => h.scripts script (List.mem_of_mem_tail hscript)⟩
      cases List.mem_singleton.1 he
    | @abandoned script v e f hnext hv =>
      exact goes_abandoned h hrunning hnext ((confined_setUp ..).of_error hv)
    | @unnamed script v w e hnext hv hw =>
      obtain ⟨port, w', hw'⟩ := htells hrunning script v hnext hv
      exact nomatch hw.symm.trans hw'
    | @started script v w port hnext hv hw =>
      have hset := (confined_setUp ..).of_ok hv
      exact goes_launched h hrunning hnext
        (hset.trans ((Socket.confined_portOf .here).of_ok hw)) port

/-! ## 4. A run -/

theorem goes_offer {callers : List (Reply (Caller Script))} (h : Sound n es s)
    (hcallers : Callers callers) : Goes n es s (s.offer callers) [] := by
  unfold offer
  cases hlistener : s.responder.listener with
  | none => exact .refl h
  | some l =>
    have hlisten : l.descriptor.script.Listens →
        { l.descriptor.script with accept := l.descriptor.script.accept ++ callers }.Listens := by
      intro hlistens
      refine ⟨{ hlistens.within with }, fun r hr => ?_⟩
      rcases List.mem_append.1 hr with hr | hr
      · exact hlistens.callers r hr
      · exact hcallers r hr
    have hsound : Sound n (es ++ []) { s with responder.listener := some { l with
        descriptor.script.accept := l.descriptor.script.accept ++ callers } } :=
      { ledger := (List.append_nil es).symm ▸ h.ledger
        running := fun hr => by
          obtain ⟨l', hl', hlive, hopened⟩ := h.running hr
          obtain rfl := Option.some.inj (hl'.symm.trans hlistener)
          rw [List.append_nil]
          exact ⟨_, rfl, ⟨hlive.isOpen, hlisten hlive.listens⟩, hopened⟩
        stopped := (List.append_nil es).symm ▸ h.stopped
        loop := h.loop
        stopAsked := h.stopAsked
        scripts := h.scripts }
    refine .of_sound h (.refl _) hsound (fun m hm hr k hk => ?_) fun _ _ _ h => nomatch h
    obtain rfl := Option.some.inj hk
    exact hm.other hr l hlistener

theorem goes_served {l : Socket} (h : Sound n es s) (hrunning : s.responder.running = true)
    (hlistener : s.responder.listener = some l)
    (hserved : Served l.descriptor.number s t fs) : Goes n es s t fs := by
  obtain ⟨l', hl', -, hopened⟩ := h.running hrunning
  obtain rfl := Option.some.inj (hl'.symm.trans hlistener)
  obtain ⟨l'', hl'', hlive, hnumber⟩ := hserved.listener
  have hmade : Event.made s.system.nextNumber fs = [] := hserved.serving.made _
  obtain ⟨hledger, hopen⟩ := h.ledger.append_spared hserved.serving.old hserved.serving.new
    (fun m hm => nomatch hmade ▸ hm)
  have hnone : Event.opened s.system.nextNumber fs = [] := by
    rw [Event.opened, hmade]
    rfl
  rw [hnone, List.append_nil, hopened, ← hnumber] at hopen
  rw [← hserved.nextNumber] at hledger
  have hgoing : t.responder.running = true := hserved.running.trans hrunning
  have hsound : Sound n (es ++ fs) t :=
    { ledger := hledger
      running := fun _ => ⟨l'', hl'', hlive, hopen⟩
      stopped := fun hr => nomatch hr.symm.trans hgoing
      loop := by
        rw [hserved.unfinished, hserved.started]
        exact h.loop
      stopAsked := hserved.stopAsked.trans h.stopAsked
      scripts := by
        rw [hserved.sockets]
        exact h.scripts }
  refine .of_sound h hserved.noted hsound (fun m hm _ k hk => ?_) fun m hm answer he => ?_
  · obtain rfl := Option.some.inj (hl''.symm.trans hk)
    rw [hnumber]
    exact hm.other hrunning _ hlistener
  · exact hm.other hrunning _ hlistener (hserved.serving.accepts m answer he).symm

theorem goes_forget (h : Sound n es s) (k : Nat) : Goes n es s (s.forget k) [] := by
  have hgone : s.responder.unfinished = [] → s.responder.unfinished.filter (· != k) = [] := by
    intro hnone
    rw [hnone]
    rfl
  have hloop : s.responder.unfinished.filter (· != k) = [] ∨
      ∃ j, s.responder.started = j + 1 ∧ s.responder.unfinished.filter (· != k) = [j] := by
    rcases h.loop with hnone | ⟨j, hstarted, hone⟩
    · exact .inl (hgone hnone)
    · rw [hone]
      by_cases hj : j = k
      · exact .inl (List.filter_cons_of_neg (by simp [hj]))
      · exact .inr ⟨j, hstarted, List.filter_cons_of_pos (by simp [hj])⟩
  have hsound : Sound n es (s.forget k) :=
    { ledger := h.ledger
      running := h.running
      stopped := fun hr => ⟨(h.stopped hr).1, hgone (h.stopped hr).2⟩
      loop := hloop
      stopAsked := h.stopAsked
      scripts := h.scripts }
  exact .of_sound h (.refl _) ((List.append_nil es).symm ▸ hsound) (fun m hm => hm.other)
    fun _ _ _ h => nomatch h

theorem goes_ended (h : Sound n es s) (f : Failure) :
    Goes n es s { s with system := s.system.note (.threadEnded f) } [.threadEnded f] := by
  obtain ⟨hledger, hsame⟩ :=
    h.ledger.append_idle (e := .threadEnded f) rfl (fun _ => rfl) fun _ => rfl
  have hsound : Sound n (es ++ [.threadEnded f])
      { s with system := s.system.note (.threadEnded f) } :=
    { ledger := hledger
      running := hsame.symm ▸ h.running
      stopped := hsame.symm ▸ h.stopped
      loop := h.loop
      stopAsked := h.stopAsked
      scripts := h.scripts }
  refine .of_sound h (System.Noted.note ..) hsound (fun m hm => hm.other) fun m _ answer he => ?_
  cases List.mem_singleton.1 he

theorem goes_settle {p : Pause × Site} (h : Goes n es s p.2 fs) (loop : Nat) :
    ∃ gs, Goes n es s (settle loop p) gs := by
  obtain ⟨pause, t⟩ := p
  cases pause with
  | parked => exact ⟨fs, h⟩
  | finished => exact ⟨_, h.trans (goes_forget h.sound loop)⟩
  | died f =>
    have hforgot := h.trans (goes_forget h.sound loop)
    exact ⟨_, hforgot.trans (goes_ended hforgot.sound f)⟩

theorem goes_run (h : Sound n es s) : ∃ fs, Goes n es s s.run.2 fs := by
  unfold run
  cases hloops : s.responder.unfinished with
  | nil => exact ⟨[], .refl h⟩
  | cons loop rest =>
    have hrunning : s.responder.running = true := by
      refine eq_true_of_ne_false fun hr => ?_
      rw [(h.stopped hr).2] at hloops
      cases hloops
    obtain ⟨l, hlistener, hlive, -⟩ := h.running hrunning
    obtain ⟨fs, hserved⟩ := served_acceptAll hlistener hlive h.stopAsked
    exact goes_settle (goes_served h hrunning hlistener hserved) loop

/-! ## 5. A stop -/

/-- With the running flag clear an accept loop ends at once. -/
theorem acceptAll_of_stopped (h : s.responder.running = false) : s.acceptAll = (.finished, s) := by
  have hround : s.acceptOnce = .ends .finished s := if_neg (ne_true_of_eq_false h)
  rw [acceptAll]
  split <;> rename_i hr <;> cases hr.symm.trans hround
  rfl

/-- The accept loop that is waited for is the only one, so none is left. -/
theorem join_of_stopped (h : s.responder.running = false)
    (hloop : s.responder.unfinished = [] ∨
      ∃ k, s.responder.started = k + 1 ∧ s.responder.unfinished = [k]) :
    join s = { s with responder.unfinished := [] } := by
  unfold join
  rcases hloop with hnone | ⟨k, hstarted, hone⟩
  · have hsame : s = { s with responder.unfinished := [] } := by
      rw [← hnone]
    split
    · exact hsame
    · rw [if_neg (by rw [hnone]; exact List.not_mem_nil)]
      exact hsame
  · rw [hstarted]
    dsimp only
    rw [if_pos (by rw [hone]; exact List.mem_singleton_self k), acceptAll_of_stopped h]
    have hempty : (s.responder.unfinished.filter (· != k)).filter (· != k) = [] := by
      rw [hone, List.filter_cons_of_neg (by simp)]
      rfl
    show { s with responder.unfinished := (s.responder.unfinished.filter (· != k)).filter (· != k) }
      = _
    rw [hempty]

/-- A stop of a running responder clears the flag and closes the listener, whether or not the
closing fails. -/
theorem stop_of_running {l : Socket} (hrunning : s.responder.running = true)
    (hlistener : s.responder.listener = some l)
    (hloop : s.responder.unfinished = [] ∨
      ∃ k, s.responder.started = k + 1 ∧ s.responder.unfinished = [k]) :
    ∃ log, after (stop s) =
      { responder := { s.responder with
          running := false, unfinished := []
          listener := some (Session.closeElsewhere ⟨l, s.system⟩).socket }
        system := { (Session.closeElsewhere ⟨l, s.system⟩).system with log } } := by
  have hjoin : join { s with responder.running := false }
      = { s with responder := { s.responder with running := false, unfinished := [] } } :=
    join_of_stopped rfl hloop
  unfold stop
  rw [if_neg (by rw [hrunning]; decide), hjoin]
  dsimp only
  rw [hlistener]
  dsimp only
  unfold Session.closeElsewhere
  cases Session.close ⟨l, s.system⟩ with
  | ok _ v => exact ⟨_, rfl⟩
  | error f v => exact ⟨_, rfl⟩

/-- The open socket is given back. -/
theorem ledger_close {m k : Nat} (h : Event.Ledger n es k) (hopened : Event.opened n es = [m])
    (answer : Answer) :
    Event.Ledger n (es ++ [.called (.on m .close) answer]) k ∧
      Event.opened n (es ++ [.called (.on m .close) answer]) = [] := by
  have hmem : m ∈ Event.opened n es := hopened ▸ List.mem_singleton_self m
  obtain ⟨hmade, hzero⟩ := List.mem_filter.1 hmem
  have hself : Event.closings m [.called (.on m .close) answer] = 1 :=
    Event.closings_of_close m answer
  have hother : ∀ j, j ≠ m → Event.closings j [.called (.on m .close) answer] = 0 := by
    intro j hj
    refine Event.closings_of_concerns (fun e he => ?_) hj
    rw [List.mem_singleton.1 he]
    exact .operation (fun h => nomatch h)
  have hborn : m < k := h.next ▸ (Event.bounds_of_mem_made hmade).2
  refine ⟨h.append (fun j hj => ?_) (fun j hj => ?_) (fun j hj => by cases hj), ?_⟩
  · exact hother j (Nat.ne_of_gt (Nat.lt_of_lt_of_le hborn hj))
  · by_cases hj' : j = m
    · exact Nat.le_of_eq (by rw [hj', hself, beq_iff_eq.1 hzero])
    · rw [hother j hj']
      exact h.once j hj
  · rw [Event.opened_append h.next h.unborn, hopened,
      List.filter_cons_of_neg (by rw [hself]; decide)]
    rfl

/-- **A stop** makes no accept call, and the responder does not run afterwards. -/
theorem goes_stop (h : Sound n es s) :
    ∃ fs, Goes n es s (after (stop s)) fs ∧
      (∀ m answer, .called (.on m .accept) answer ∉ fs) ∧
      (after (stop s)).responder.running = false := by
  cases hrunning : s.responder.running with
  | false =>
    rw [stop_of_not_running hrunning]
    exact ⟨[], .refl h, (fun _ _ h => nomatch h), hrunning⟩
  | true =>
    obtain ⟨l, hlistener, hlive, hopened⟩ := h.running hrunning
    obtain ⟨log, hstop⟩ := stop_of_running hrunning hlistener h.loop
    obtain ⟨answer, -, hnoted⟩ :=
      Session.noted_closeElsewhere (s := ⟨l, s.system⟩) hlive.isOpen
    obtain ⟨hsockets, hnext, hquiet⟩ := Session.system_closeElsewhere ⟨l, s.system⟩
    obtain ⟨hledger, hnone⟩ := ledger_close h.ledger hopened answer
    have haccept : ∀ m other,
        .called (.on m .accept) other ∉ [Event.called (.on l.descriptor.number .close) answer] :=
      fun m other he => nomatch List.mem_singleton.1 he
    rw [hstop]
    refine ⟨_, .of_sound h hnoted ?_ (fun _ _ hr => nomatch hr) fun m _ => haccept m, haccept, rfl⟩
    exact
      { ledger := hnext ▸ hledger
        running := fun hr => nomatch hr
        stopped := fun _ => ⟨hnone, rfl⟩
        loop := .inl rfl
        stopAsked := hquiet.trans h.stopAsked
        scripts := fun script hscript => h.scripts script (hsockets ▸ hscript) }

/-! ## 6. Whole lives -/

/-- What may be done with a responder. -/
inductive Move where
  | start
  | stop
  /-- Connections wait, and the oldest accept loop is run. -/
  | run (callers : List (Reply (Caller Script)))
  /-- A start, a run and a stop. -/
  | cycle (callers : List (Reply (Caller Script)))

namespace Move

def perform : Move → Site → Site
  | start, s => after (Site.start s)
  | stop, s => after (Site.stop s)
  | run callers, s => (s.offer callers).run.2
  | cycle callers, s => after (Site.cycle callers s)

/-- The connections that wait are told of nobody who stops the responder. -/
def Calm : Move → Prop
  | start => True
  | stop => True
  | run callers => Callers callers
  | cycle callers => Callers callers

/-- The move begins with a start. -/
def Starts : Move → Prop
  | start => True
  | cycle _ => True
  | _ => False

/-- The site at which a stop begins during the move, if one does. -/
def stopBegins : Move → Site → Option Site
  | stop, s => if s.responder.running then some s else none
  | cycle callers, s =>
    match Site.start s with
    | .error _ _ => none
    | .ok _ s =>
      let s := (s.offer callers).run.2
      if s.responder.running then some s else none
  | _, _ => none

end Move

/-- The site after a life of moves. -/
def lives (s : Site) (moves : List Move) : Site := moves.foldl (fun s m => m.perform s) s

/-- A cycle is a start, a run and a stop, one after the other. -/
theorem after_cycle {callers : List (Reply (Caller Script))} (h : start s = .ok () t) :
    after (cycle callers s) = after (stop (t.offer callers).run.2) := by
  unfold cycle
  rw [h]
  dsimp only
  cases stop (t.offer callers).run.2 <;> rfl

theorem goes_opening {callers : List (Reply (Caller Script))} (h : Sound n es s)
    (hcallers : Callers callers) (htells : s.responder.running = false → s.TellsPort)
    (hstart : start s = .ok () t) : ∃ fs, Goes n es s (t.offer callers).run.2 fs := by
  obtain ⟨fs, hstarted⟩ := goes_start h htells
  rw [hstart] at hstarted
  have hoffered := hstarted.trans (goes_offer hstarted.sound hcallers)
  obtain ⟨gs, hrun⟩ := goes_run hoffered.sound
  exact ⟨_, hoffered.trans hrun⟩

theorem goes_perform (h : Sound n es s) {m : Move} (hcalm : m.Calm)
    (htells : m.Starts → s.responder.running = false → s.TellsPort) :
    ∃ fs, Goes n es s (m.perform s) fs := by
  cases m with
  | start => exact goes_start h (htells trivial)
  | stop =>
    obtain ⟨fs, hstop, -⟩ := goes_stop h
    exact ⟨fs, hstop⟩
  | run callers =>
    have hoffered := goes_offer h hcalm
    obtain ⟨fs, hrun⟩ := goes_run hoffered.sound
    exact ⟨_, hoffered.trans hrun⟩
  | cycle callers =>
    show ∃ fs, Goes n es s (after (cycle callers s)) fs
    cases hs : start s with
    | error why t =>
      obtain ⟨fs, hstart⟩ := goes_start h (htells trivial)
      have hcycle : cycle callers s = .error why t := by
        unfold cycle
        rw [hs]
      rw [hs] at hstart
      rw [hcycle]
      exact ⟨fs, hstart⟩
    | ok _ t =>
      obtain ⟨fs, hopening⟩ := goes_opening h hcalm (htells trivial) hs
      obtain ⟨gs, hstop, -⟩ := goes_stop hopening.sound
      rw [after_cycle hs]
      exact ⟨_, hopening.trans hstop⟩

theorem lives_append (s : Site) (before rest : List Move) :
    lives s (before ++ rest) = lives (lives s before) rest :=
  List.foldl_append

theorem goes_lives (h : Sound n es s) {moves : List Move} (hcalm : ∀ m ∈ moves, m.Calm)
    (htells : ∀ before m rest, moves = before ++ m :: rest → m.Starts →
      (lives s before).responder.running = false → (lives s before).TellsPort) :
    ∃ fs, Goes n es s (lives s moves) fs := by
  induction moves generalizing s es with
  | nil => exact ⟨[], .refl h⟩
  | cons m moves ih =>
    obtain ⟨fs, hfirst⟩ := goes_perform h (hcalm m List.mem_cons_self) (htells [] m moves rfl)
    obtain ⟨gs, hrest⟩ := ih hfirst.sound (fun m' hm' => hcalm m' (List.mem_cons_of_mem _ hm'))
      fun before m' rest hmoves => htells (m :: before) m' rest (congrArg (m :: ·) hmoves)
    exact ⟨_, hfirst.trans hrest⟩

/-- What is left of a move when its stop begins is the stop. -/
theorem goes_stopBegins (h : Sound n es s) {m : Move} (hcalm : m.Calm)
    (htells : m.Starts → s.responder.running = false → s.TellsPort)
    (hu : m.stopBegins s = some u) :
    u.responder.running = true ∧ m.perform s = after (stop u) ∧ ∃ fs, Goes n es s u fs := by
  cases m with
  | start => cases hu
  | run callers => cases hu
  | stop =>
    dsimp only [Move.stopBegins] at hu
    split at hu
    · rename_i hrunning
      obtain rfl := Option.some.inj hu
      exact ⟨hrunning, rfl, [], .refl h⟩
    · cases hu
  | cycle callers =>
    dsimp only [Move.stopBegins] at hu
    cases hs : start s with
    | error why t =>
      rw [hs] at hu
      cases hu
    | ok _ t =>
      rw [hs] at hu
      dsimp only at hu
      split at hu
      · rename_i hrunning
        obtain rfl := Option.some.inj hu
        exact ⟨hrunning, after_cycle hs, goes_opening h hcalm (htells trivial) hs⟩
      · cases hu

/-! ## 7. The theorem -/

/-- A responder that was not started yet. -/
structure Fresh (s : Site) : Prop where
  running : s.responder.running = false
  unfinished : s.responder.unfinished = []
  stopAsked : s.system.stopAsked = false

theorem Fresh.sound (h : s.Fresh) (hscripts : ∀ script, .ok script ∈ s.system.sockets →
    script.Listens) : Sound s.system.nextNumber [] s :=
  ⟨.nil _, (fun hr => nomatch h.running.symm.trans hr), fun _ => ⟨rfl, h.unfinished⟩,
    .inl h.unfinished, h.stopAsked, hscripts⟩

/-- The state of a responder fits the sockets that are open: the responder runs exactly if one of
the sockets that it made is open and this is its listener, every other one was given back once, and
there is at most one accept loop, and none if the responder does not run. -/
structure Accounted (n : Nat) (es : List Event) (s : Site) : Prop where
  running : s.responder.running = true ↔
    ∃ l, s.responder.listener = some l ∧ l.closed = false ∧
      Event.opened n es = [l.descriptor.number]
  others : ∀ m ∈ Event.made n es, m ∉ Event.opened n es → Event.closings m es = 1
  loop : s.responder.unfinished.length ≤ 1
  stopped : s.responder.running = false → s.responder.unfinished = []

theorem Sound.accounted (h : Sound n es s) : Accounted n es s where
  running := by
    constructor
    · intro hr
      obtain ⟨l, hl, hlive, hopened⟩ := h.running hr
      exact ⟨l, hl, hlive.isOpen, hopened⟩
    · rintro ⟨l, -, -, hopened⟩
      refine eq_true_of_ne_false fun hr => ?_
      rw [(h.stopped hr).1] at hopened
      cases hopened
  others := by
    intro m hm hclosed
    have hne : Event.closings m es ≠ 0 := fun hz =>
      hclosed (List.mem_filter.2 ⟨hm, beq_iff_eq.2 hz⟩)
    exact Nat.le_antisymm (h.ledger.once m hm) (Nat.one_le_iff_ne_zero.2 hne)
  loop := by
    rcases h.loop with hnone | ⟨k, -, hone⟩
    · rw [hnone]
      exact Nat.zero_le 1
    · rw [hone]
      exact Nat.le_refl 1
  stopped := fun hr => (h.stopped hr).2

/-- From the moment at which a stop begins nothing is accepted on the listener that it closes. -/
theorem silent_since_stop {moves before rest : List Move} {m : Move} {l : Socket}
    (h : Sound n es s) (hcalm : ∀ m ∈ moves, m.Calm)
    (htells : ∀ before m rest, moves = before ++ m :: rest → m.Starts →
      (lives s before).responder.running = false → (lives s before).TellsPort)
    (hmoves : moves = before ++ m :: rest) (hu : m.stopBegins (lives s before) = some u)
    (hl : u.responder.listener = some l) :
    ∃ fs, u.system.Noted (lives s moves).system fs ∧
      ∀ answer, .called (.on l.descriptor.number .accept) answer ∉ fs := by
  subst hmoves
  have hmem : ∀ m' ∈ m :: rest, m' ∈ before ++ m :: rest :=
    fun m' hm' => List.mem_append_right _ hm'
  obtain ⟨as, hbefore⟩ := goes_lives h
    (fun m' hm' => hcalm m' (List.mem_append_left _ hm'))
    fun before' m' rest' hsplit => htells before' m' (rest' ++ m :: rest) (by
      rw [hsplit, List.append_assoc, List.cons_append])
  obtain ⟨hrunning, hperform, bs, hopening⟩ :=
    goes_stopBegins hbefore.sound (hcalm m (hmem m List.mem_cons_self)) (htells before m rest rfl) hu
  obtain ⟨cs, hstop, hsilent, hstopped⟩ := goes_stop hopening.sound
  have hlives : ∀ rest', lives s (before ++ m :: rest') = lives (after (stop u)) rest' := by
    intro rest'
    rw [lives_append, ← hperform]
    rfl
  obtain ⟨ds, hrest⟩ := goes_lives hstop.sound
    (fun m' hm' => hcalm m' (hmem m' (List.mem_cons_of_mem _ hm')))
    fun before' m' rest' hsplit => by
      rw [← hlives]
      exact htells (before ++ m :: before') m' rest' (by
        rw [hsplit, List.append_assoc, List.cons_append])
  -- The listener that is closed was made, and nobody runs when the rest of the life begins.
  have hmade : l.descriptor.number ∈ Event.made n (es ++ as ++ bs ++ cs) := by
    obtain ⟨l', hl', -, hopened⟩ := hopening.sound.running hrunning
    obtain rfl := Option.some.inj (hl'.symm.trans hl)
    have hopen : l'.descriptor.number ∈ Event.opened n (es ++ as ++ bs) :=
      hopened ▸ List.mem_singleton_self _
    rw [Event.made_append]
    exact List.mem_append_left _ (List.mem_of_mem_filter hopen)
  have hretired : Retired l.descriptor.number (after (stop u)) :=
    hstop.sound.retired hstopped hmade
  rw [hlives]
  refine ⟨cs ++ ds, hstop.noted.trans hrest.noted, fun answer he => ?_⟩
  rcases List.mem_append.1 he with he | he
  · exact hsilent _ answer he
  · exact (hrest.retired _ hretired).2 answer he

/-- **The life of a responder.** Whatever moves are made, the state fits the sockets that are open.
From the moment at which a stop begins there is no accept on the listener that it closes. A
responder that runs is not started again, one that does not run is not stopped again, and after a
stop it may be started. -/
theorem lifecycle {moves : List Move} (hfresh : s.Fresh)
    (hscripts : ∀ script, .ok script ∈ s.system.sockets → script.Listens)
    (hcalm : ∀ m ∈ moves, m.Calm)
    (htells : ∀ before m rest, moves = before ++ m :: rest → m.Starts →
      (lives s before).responder.running = false → (lives s before).TellsPort) :
    (∃ es, s.system.Noted (lives s moves).system es ∧
      Accounted s.system.nextNumber es (lives s moves)) ∧
    (∀ before m rest u l, moves = before ++ m :: rest → m.stopBegins (lives s before) = some u →
      u.responder.listener = some l → ∃ es, u.system.Noted (lives s moves).system es ∧
        ∀ answer, .called (.on l.descriptor.number .accept) answer ∉ es) ∧
    ((lives s moves).responder.running = true →
      start (lives s moves) = .error .alreadyRunning (lives s moves)) ∧
    ((lives s moves).responder.running = false → stop (lives s moves) = .ok () (lives s moves) ∧
      ∀ t, start (lives s moves) ≠ .error .alreadyRunning t) ∧
    (after (stop (lives s moves))).responder.running = false := by
  have hsound := hfresh.sound hscripts
  obtain ⟨es, hlife⟩ := goes_lives hsound hcalm htells
  refine ⟨⟨es, hlife.noted, hlife.sound.accounted⟩, fun before m rest u l hmoves hu hl => ?_,
    start_of_running, fun hr => ⟨stop_of_not_running hr, fun t ht => ?_⟩, ?_⟩
  · exact silent_since_stop hsound hcalm htells hmoves hu hl
  · have hstarts := starts_of_stopped hr
    rw [ht] at hstarts
    cases hstarts
  · obtain ⟨-, -, -, hstopped⟩ := goes_stop hlife.sound
    exact hstopped

/-- A responder of which one start finds its port in use, and one close fails. -/
def restarted : Site where
  responder := {}
  system := { sockets :=
    [.ok {}, .ok { bind := [{ outcome := .failure (.coded 98 "Address already in use") }] },
      .ok { close := [{ outcome := .failure (.coded 5 "Input/output error") }] }] }

/-- A client that asks for the root and hangs up, and one that is not there any more. -/
def visitors : List (Reply (Caller Script)) :=
  [{ outcome := .value ⟨{ recv := [{ outcome := .value [71, 69, 84, 32, 47, 13, 10, 13, 10] }] },
      ⟨"127.0.0.1", 50001, []⟩⟩ },
    { outcome := .failure (.coded 103 "Software caused connection abort") }]

/-- Starts, runs and stops, some of which fail or come twice. -/
def restarts : List Move :=
  [.start, .start, .run visitors, .stop, .stop, .start, .cycle [], .start, .run []]

theorem callers_visitors : Callers visitors := by
  intro r hr
  rcases List.mem_cons.1 hr with rfl | hr
  · refine ⟨by decide, fun caller h => ?_⟩
    obtain rfl := Outcome.value.inj h
    constructor <;> decide
  · obtain rfl := List.mem_singleton.1 hr
    exact ⟨by decide, fun caller h => nomatch h⟩

theorem calm_restarts : ∀ m ∈ restarts, m.Calm := by
  have hnone : Callers [] := fun r hr => nomatch hr
  simp [restarts, Move.Calm, callers_visitors, hnone]

theorem lifecycle_restarted :
    (∃ es, restarted.system.Noted (lives restarted restarts).system es ∧
      Accounted restarted.system.nextNumber es (lives restarted restarts)) ∧
    (lives restarted restarts).responder.running = true := by
  have hscripts : ∀ script, .ok script ∈ restarted.system.sockets → script.Listens := by
    intro script h
    simp only [restarted, List.mem_cons, Except.ok.injEq, List.not_mem_nil, or_false] at h
    rcases h with rfl | rfl | rfl
    · exact ⟨by constructor <;> decide, fun r hr => nomatch hr⟩
    · exact ⟨by constructor <;> decide, fun r hr => nomatch hr⟩
    · exact ⟨by constructor <;> decide, fun r hr => nomatch hr⟩
  have hprefixes : ∀ k < 9, (lives restarted (restarts.take k)).responder.running = false →
      (lives restarted (restarts.take k)).TellsPort := by
    decide +kernel
  have htells : ∀ before m rest, restarts = before ++ m :: rest → m.Starts →
      (lives restarted before).responder.running = false →
      (lives restarted before).TellsPort := by
    intro before m rest hsplit _
    have hlength : before.length < 9 := by
      have hall : restarts.length = 9 := rfl
      rw [hsplit, List.length_append, List.length_cons] at hall
      omega
    have htake : restarts.take before.length = before := by
      rw [hsplit, List.take_left]
    exact htake ▸ hprefixes before.length hlength
  exact ⟨(lifecycle ⟨rfl, rfl, rfl⟩ hscripts calm_restarts htells).1, by decide +kernel⟩

end Site

end HttpProbe
