import HttpProbe.Proofs.ClosedOnce

/-!
# What callers see of failed calls

An operation on a socket ends with the first of its calls that fails, and what the system said is
translated for the caller. This file says which error stands for which failure, for every call that
an operation can come to, those among them that are made for a word to the log:

* `Translates f e`: callers are to see `e` when a call fails with `f`;
* `Declines`: the errors that stand for no call at all;
* `Shows t c f e`: what they see when the call was `c`. A reception on a socket that was closed
  meanwhile fails as one on a closed socket, and **a timeout is set without a guard**;
* `Ends told s r`: a run from `s` came to `r`, and either no call failed in it or the last one did,
  with `Tells.bind` for one operation after the other and `tells_call` for one call;
* **`failures_shown`**: so every operation and every failure. A timeout that cannot be set is the
  one failure that callers see as it is (`setTimeout_untranslated`).
-/

namespace HttpProbe

/-! ## 1. What is made of a failure -/

/-- The text of an error: that of its cause, or what a message says of a cause that has none. -/
inductive Cause.Describes (c : Cause) : String → Prop where
  | own {text : String} (h : c.text? = some text) (hne : text ≠ "") : Describes c text
  | message (h : c.text? = none ∨ c.text? = some "") : Describes c c.message

theorem Cause.describes_completed (c : Cause) :
    ∃ text, c.Describes text ∧
      c.completed = .numbered (some (c.errno?.getD Errno.inputOutput)) (some text) := by
  unfold completed
  cases htext : c.text? with
  | none => exact ⟨_, .message (.inl htext), rfl⟩
  | some text =>
    by_cases hne : text = ""
    · subst hne
      exact ⟨_, .message (.inr htext), rfl⟩
    · refine ⟨text, .own htext hne, ?_⟩
      split
      · rename_i h
        cases h
      · rename_i h
        exact absurd (Option.some.inj h) hne
      · rename_i h
        rw [Option.some.inj h]

/-- The error that callers are to see when a call fails. A look-up of names keeps its number and
text. Everything that says that time is over is one error. Any other failure keeps its number, and
counts as one of input or output if it has none. -/
inductive Translates : SystemFailure → NetError → Prop where
  | lookUp (code : Option Int) (text : Option String) :
    Translates (.lookup code text) (.reported .resolve (.numbered code text))
  | timeout {f : SystemFailure} (h : f.isTimeout = true) :
    Translates f (.reported .socket (.numbered (some Errno.timedOut) (some "Operation timed out")))
  | failure {c : Cause} {text : String} (h : (SystemFailure.call c).isTimeout = false)
      (htext : c.Describes text) :
    Translates (.call c)
      (.reported .socket (.numbered (some (c.errno?.getD Errno.inputOutput)) (some text)))

theorem translates_ofSystem (f : SystemFailure) : Translates f (.ofSystem f) := by
  cases hlate : f.isTimeout with
  | true =>
    rw [NetError.ofSystem_of_isTimeout hlate]
    exact .timeout hlate
  | false =>
    cases f with
    | lookup code text => exact .lookUp code text
    | timeout => cases hlate
    | call c =>
      obtain ⟨text, htext, hcompleted⟩ := c.describes_completed
      have hcall : NetError.ofSystem (.call c) = .reported .socket c.completed := by
        simp only [NetError.ofSystem, NetError.ofSystemAs, hlate, Bool.false_eq_true, if_false]
        rfl
      rw [hcall, hcompleted]
      exact .failure hlate htext

/-! ## 2. What callers see -/

/-- The call sets a timeout. -/
def Call.setsTimeout : Call → Bool
  | .on _ (.setTimeout _) => true
  | _ => false

/-- The call receives. -/
def Call.receives : Call → Bool
  | .on _ (.recv _) => true
  | _ => false

/-- What callers see on a session when the call `c` failed with `f`. -/
inductive Shows (t : Session) (c : Call) : SystemFailure → Failure → Prop where
  | translated {f : SystemFailure} {e : NetError} (htimeout : c.setsTimeout = false)
      (hopen : c.receives = true → t.socket.closed = false) (h : Translates f e) :
    Shows t c f (.net e)
  | closedMeanwhile {f : SystemFailure} (hrecv : c.receives = true)
      (hclosed : t.socket.closed = true) :
    Shows t c f (.net (.closed "receive"))
  | untranslated {f : SystemFailure} (htimeout : c.setsTimeout = true) :
    Shows t c f (.system f)

/-- What callers see when no call failed: the socket is closed, no such number of octets can be
read, the system cannot be asked for what is wanted, what it said is of no use, or something cannot
be written. -/
inductive Declines (t : Session) : Failure → Prop where
  | closed {operation : String} (h : t.socket.closed = true) :
    Declines t (.net (.closed operation))
  | negativeSize {size : Int} (h : size < 0) : Declines t (.negativeSize size)
  | oversized {size : Nat} (h : t.system.takesSize size = false) :
    Declines t (.oversized t.system.sizeRefusal)
  | badHost {host why : String} (h : t.system.badHost? host = some why) : Declines t (.badHost why)
  | badPort {why : Whole.Refusal} : Declines t (.badPort why)
  | noAddress : Declines t .noAddress
  | unwritable {why : Unwritable} : Declines t (.unwritable why)

/-- How a run tells that it was declined, and that one of its calls failed. -/
structure Telling (ε : Type) where
  /-- The run was declined with this error, and left this session. -/
  declines : Session → ε → Prop
  /-- The call failed, the run with this error, and this session is left. -/
  shows : Session → Call → SystemFailure → ε → Prop

/-- Operations tell as their callers see it. -/
def Telling.shown : Telling Failure := ⟨Declines, Shows⟩

/-- Calls of a kind tell their failures as they are, and nothing else. -/
def Telling.plain (kind : CallKind) : Telling SystemFailure :=
  ⟨fun _ _ => False, fun _ c f g => kind c ∧ g = f⟩

/-! ## 3. How a run ends -/

/-- At most one thing happened: another thread closed a socket. -/
inductive Event.Elsewhere : List Event → Prop where
  | nothing : Elsewhere []
  | closed (n : Nat) (answer : Answer) : Elsewhere [.called (.on n .close) answer]

/-- No call failed. During each of them another thread may have closed the socket, and if the system
failed to do so, then that is the other thread's error. -/
inductive Event.Undeterred : List Event → Prop where
  | nil : Undeterred []
  | call {c : Call} {answer : Answer} {rest es : List Event} (h : ∀ f, answer ≠ .failed f)
      (hrest : Elsewhere rest) (hes : Undeterred es) :
    Undeterred (.called c answer :: (rest ++ es))

/-- How a run from `s` ends. No call failed in it, or the last one did. -/
inductive Ends {ε α : Type} (told : Telling ε) (s : Session) :
    EStateM.Result ε Session α → Prop where
  | done {a : α} {t : Session} {es : List Event} (hnoted : s.system.Noted t.system es)
      (hes : Event.Undeterred es) : Ends told s (.ok a t)
  | declined {e : ε} {t : Session} {es : List Event} (hnoted : s.system.Noted t.system es)
      (hes : Event.Undeterred es) (h : told.declines t e) : Ends told s (.error e t)
  | failed {e : ε} {t : Session} {es rest : List Event} {c : Call} {f : SystemFailure}
      (hnoted : s.system.Noted t.system (es ++ .called c (.failed f) :: rest))
      (hes : Event.Undeterred es) (hrest : Event.Elsewhere rest) (h : told.shows t c f e) :
    Ends told s (.error e t)

/-- Every run of `x` ends so. -/
structure Tells {ε α : Type} (told : Telling ε) (x : EStateM ε Session α) : Prop where
  ends : ∀ s : Session, Ends told s (x s)

theorem Event.undeterred_call {c : Call} {answer : Answer} {rest : List Event}
    (h : ∀ f, answer ≠ .failed f) (hrest : Elsewhere rest) : Undeterred (.called c answer :: rest) :=
  List.append_nil rest ▸ .call h hrest .nil

theorem Event.undeterred_done (c : Call) {rest : List Event} (hrest : Elsewhere rest) :
    Undeterred (.called c .done :: rest) :=
  undeterred_call (fun _ => Answer.noConfusion) hrest

theorem Event.undeterred_append {es fs : List Event} (h : Undeterred es) (h' : Undeterred fs) :
    Undeterred (es ++ fs) := by
  induction h with
  | nil => exact h'
  | @call c answer rest es hanswer hrest _ ih =>
    rw [List.cons_append, List.append_assoc]
    exact .call hanswer hrest ih

section Runs

variable {ε ε' α β : Type} {told : Telling ε} {s t : Session}

theorem Ends.silent {a : α} (h : s.system.Noted t.system []) : Ends told s (.ok a t) :=
  .done h .nil

/-- The first call failed. -/
theorem Ends.first {e : ε} {c : Call} {f : SystemFailure} {rest : List Event}
    (hnoted : s.system.Noted t.system (.called c (.failed f) :: rest))
    (hrest : Event.Elsewhere rest) (h : told.shows t c f e) :
    Ends told s (.error e t : EStateM.Result ε Session α) := by
  have hfirst : s.system.Noted t.system ([] ++ .called c (.failed f) :: rest) := hnoted
  exact .failed hfirst .nil hrest h

/-- A run that fails gives nothing, so it does not matter what it would have given. -/
theorem Ends.error {e : ε} (h : Ends told s (.error e t : EStateM.Result ε Session α)) :
    Ends told s (.error e t : EStateM.Result ε Session β) := by
  cases h with
  | declined hnoted hes h => exact .declined hnoted hes h
  | failed hnoted hes hrest h => exact .failed hnoted hes hrest h

/-- What went well before a run makes no difference to how it ends. -/
theorem Ends.after {es : List Event} {r : EStateM.Result ε Session α}
    (hnoted : s.system.Noted t.system es) (hes : Event.Undeterred es) (h : Ends told t r) :
    Ends told s r := by
  cases h with
  | done hnoted' hes' => exact .done (hnoted.trans hnoted') (Event.undeterred_append hes hes')
  | declined hnoted' hes' h =>
    exact .declined (hnoted.trans hnoted') (Event.undeterred_append hes hes') h
  | failed hnoted' hes' hrest h =>
    refine .failed ?_ (Event.undeterred_append hes hes') hrest h
    rw [List.append_assoc]
    exact hnoted.trans hnoted'

theorem Ends.bind {x : EStateM ε Session α} {k : α → EStateM ε Session β}
    (hx : Ends told s (x s)) (hk : ∀ a t, Ends told t (k a t)) : Ends told s ((x >>= k) s) := by
  cases hr : x s with
  | error e t =>
    rw [hr] at hx
    rw [bind_of_error hr]
    exact hx.error
  | ok a t =>
    rw [hr] at hx
    rw [bind_of_ok hr]
    cases hx with
    | done hnoted hes => exact .after hnoted hes (hk a t)

/-- **One operation after the other.** -/
theorem Tells.bind {x : EStateM ε Session α} {k : α → EStateM ε Session β} (hx : Tells told x)
    (hk : ∀ a, Tells told (k a)) : Tells told (x >>= k) :=
  ⟨fun s => (hx.ends s).bind fun a t => (hk a).ends t⟩

theorem tells_pure (a : α) : Tells told (pure a : EStateM ε Session α) :=
  ⟨fun _ => .silent (.refl _)⟩

theorem tells_get : Tells told (get : EStateM ε Session Session) :=
  ⟨fun _ => .silent (.refl _)⟩

theorem tells_say (source : Log.Source) (message : String) :
    Tells .shown (say .debug source message) :=
  ⟨fun _ => .silent (.refl _)⟩

theorem tells_declined {e : ε} (h : ∀ t, told.declines t e) :
    Tells told (throw e : EStateM ε Session α) :=
  ⟨fun s => .declined (.refl _) .nil (h s)⟩

theorem tells_requireOpen (operation : String) : Tells .shown (requireOpen operation) := by
  refine ⟨fun s => ?_⟩
  by_cases h : s.socket.closed = true
  · rw [requireOpen_of_closed h]
    exact .declined (.refl _) .nil (.closed h)
  · rw [requireOpen_of_open (eq_false_of_ne_true h)]
    exact .silent (.refl _)

/-- Failures are told otherwise from here on. -/
theorem Ends.adaptExcept {told' : Telling ε'} {x : EStateM ε Session α} {show' : ε → ε'}
    (hx : Ends told s (x s)) (hdeclines : ∀ t e, told.declines t e → told'.declines t (show' e))
    (hshows : ∀ t c f e, told.shows t c f e → told'.shows t c f (show' e)) :
    Ends told' s (x.adaptExcept show' s) := by
  unfold EStateM.adaptExcept
  cases hr : x s with
  | ok a t =>
    rw [hr] at hx
    cases hx with
    | done hnoted hes => exact .done hnoted hes
  | error e t =>
    rw [hr] at hx
    cases hx with
    | declined hnoted hes h => exact .declined hnoted hes (hdeclines t e h)
    | failed hnoted hes hrest h => exact .failed hnoted hes hrest (hshows t _ _ e h)

/-- The calls that are made behind a guard. -/
def Call.isGuarded : CallKind := fun c => c.setsTimeout = false ∧ c.receives = false

theorem Tells.guarded {x : CallM α} (hx : Tells (.plain Call.isGuarded) x) :
    Tells .shown (guarded x) := by
  refine ⟨fun s => (hx.ends s).adaptExcept (fun _ _ h => h.elim) ?_⟩
  rintro t c f e ⟨⟨htimeout, hrecv⟩, rfl⟩
  exact .translated htimeout (fun h => absurd (hrecv.symm.trans h) Bool.false_ne_true)
    (translates_ofSystem e)

theorem Tells.bare {x : CallM α} (hx : Tells (.plain fun c => c.setsTimeout = true) x) :
    Tells .shown (bare x) := by
  refine ⟨fun s => (hx.ends s).adaptExcept (fun _ _ h => h.elim) ?_⟩
  rintro t c f e ⟨htimeout, rfl⟩
  exact .untranslated htimeout

end Runs

/-! ## 4. One call -/

section Calls

variable {α : Type} {operation : Operation} {take : Script → Reply α × Script}
  {usual : Descriptor → Except SystemFailure α} {data : α → Answer}

/-- A call on the descriptor is noted, and the closing by another thread if there was one. -/
theorem noted_afterCall (s : Session) (answer : Answer) :
    ∃ rest, Event.Elsewhere rest ∧
      s.system.Noted (s.afterCall operation answer (s.socket.descriptor.reply take usual)).system
        (.called (.on s.socket.descriptor.number operation) answer :: rest) := by
  obtain ⟨-, -, ⟨hnoted, -⟩ | ⟨-, closing, -, hnoted, -⟩⟩ :=
    Socket.afterCall_cases take operation usual answer s
  · exact ⟨_, .nothing, hnoted⟩
  · exact ⟨_, .closed _ closing, hnoted⟩

/-- So is a look-up. -/
theorem noted_afterOutside (s : Session) (r : Interference × Script) {system : System} {e : Event}
    (h : s.system.Noted system [e]) :
    ∃ rest, Event.Elsewhere rest ∧ s.system.Noted (s.afterOutside r system).system (e :: rest) := by
  obtain ⟨-, -, ⟨hnoted, -⟩ | ⟨-, closing, -, hnoted, -⟩⟩ :=
    Socket.disturbed_cases { s with socket.descriptor.script := r.2, system } r.1
  · exact ⟨_, .nothing, h.trans hnoted⟩
  · exact ⟨_, .closed _ closing, h.trans hnoted⟩

/-- **One call on the descriptor**, during which another thread may close the socket. -/
theorem ends_call {kind : CallKind} (s : Session)
    (hkind : kind (.on s.socket.descriptor.number operation))
    (hdata : ∀ a f, data a ≠ .failed f) :
    Ends (.plain kind) s (Session.call operation take usual data s) := by
  cases hr : Session.call operation take usual data s with
  | ok a t =>
    obtain ⟨-, rfl⟩ := Session.call_eq_ok_iff.1 hr
    obtain ⟨rest, hrest, hnoted⟩ := noted_afterCall s (data a)
    exact .done hnoted (Event.undeterred_call (hdata a) hrest)
  | error f t =>
    obtain ⟨-, rfl⟩ := Session.call_eq_error_iff.1 hr
    obtain ⟨rest, hrest, hnoted⟩ := noted_afterCall s (.failed f)
    exact .first hnoted hrest ⟨hkind, rfl⟩

/-- A call that delivers nothing. -/
theorem tells_call {kind : CallKind} (hkind : ∀ n, kind (.on n operation)) :
    Tells (.plain kind) (Session.call operation take usual fun _ => .done) :=
  ⟨fun s => ends_call s (hkind _) fun _ _ => Answer.noConfusion⟩

theorem tells_lookUp (host : String) (service : Option String) (family kind protocol : Int) :
    Tells (.plain Call.isGuarded)
      (Session.outside Script.takeLookUp (System.lookUp host service family kind protocol)) := by
  refine ⟨fun s => ?_⟩
  have hleft (answer : Answer) := noted_afterOutside s s.socket.descriptor.script.takeLookUp
    (System.Noted.note { s.system with lookUps := (System.nextOutcome s.system.lookUps).2 }
      (.called (.getaddrinfo host service family kind protocol) answer))
  unfold Session.outside
  rw [System.lookUp_eq]
  cases s.system.found host service with
  | ok addresses =>
    obtain ⟨rest, hrest, hnoted⟩ := hleft .done
    exact .done hnoted (Event.undeterred_done _ hrest)
  | error f =>
    obtain ⟨rest, hrest, hnoted⟩ := hleft (.failed f)
    exact .first hnoted hrest ⟨⟨rfl, rfl⟩, rfl⟩

theorem tells_describe (address : Address) :
    Tells (.plain Call.isGuarded)
      (Session.outside Script.takeDescribe (System.describe address)) := by
  refine ⟨fun s => ?_⟩
  have hleft (answer : Answer) := noted_afterOutside s s.socket.descriptor.script.takeDescribe
    (System.Noted.note
      { s.system with descriptions := (System.nextOutcome s.system.descriptions).2 }
      (.called (.getnameinfo address) answer))
  unfold Session.outside
  rw [System.describe_eq]
  cases s.system.named address with
  | ok names =>
    obtain ⟨rest, hrest, hnoted⟩ := hleft .done
    exact .done hnoted (Event.undeterred_done _ hrest)
  | error f =>
    obtain ⟨rest, hrest, hnoted⟩ := hleft (.failed f)
    exact .first hnoted hrest ⟨⟨rfl, rfl⟩, rfl⟩

end Calls

/-! ## 5. Operations -/

namespace Socket

theorem tells_addressOf (e : End) : Tells (.plain Call.isGuarded) (addressOf e) := by
  cases e with
  | here => exact tells_call fun _ => ⟨rfl, rfl⟩
  | there => exact tells_call fun _ => ⟨rfl, rfl⟩

theorem tells_nameOf (e : End) : Tells .shown (nameOf e) := by
  refine (tells_requireOpen _).bind fun _ =>
    ((tells_addressOf e).bind tells_describe).guarded.bind fun names => ?_
  rcases names with ⟨host, service⟩
  dsimp only
  cases Whole.read service with
  | ok port => exact tells_pure (host, port)
  | error why => exact tells_declined fun _ => .badPort

theorem tells_hostOf (e : End) : Tells .shown (hostOf e) :=
  (tells_nameOf e).bind fun _ => tells_pure _

theorem tells_portOf (e : End) : Tells .shown (portOf e) :=
  (tells_nameOf e).bind fun _ => tells_pure _

/-- What is said of an end asks for its names twice. -/
theorem tells_endpoint (e : End) : Tells .shown (endpoint e) :=
  (tells_hostOf e).bind fun _ => (tells_portOf e).bind fun _ => tells_pure _

theorem declines_of_unaskable {s : Session} {host : String} {service : Service} {f : Failure}
    (h : unaskable? s.system host service = some f) : Declines s f := by
  unfold unaskable? at h
  split at h
  · obtain ⟨why, hwhy, rfl⟩ := Option.map_eq_some_iff.1 h
    exact .badHost hwhy
  · obtain rfl := Option.some.inj h
    exact .unwritable

theorem tells_resolve (host : String) (service : Service) :
    Tells .shown (resolve host service) := by
  refine ⟨fun s => ?_⟩
  cases hasks : unaskable? s.system host service with
  | some f =>
    rw [resolve_of_unaskable hasks]
    exact .declined (.refl _) .nil (declines_of_unaskable hasks)
  | none =>
    rw [resolve_of_askable hasks]
    refine ((tells_lookUp ..).guarded.bind fun found => ?_).ends s
    cases found with
    | nil => exact tells_declined fun _ => .noAddress
    | cons address rest => exact tells_pure address

/-- An operation of a single call that has no result. -/
theorem tells_act {name : String} {operation : Operation} {take : Script → Reply Unit × Script}
    (hkind : ∀ n, Call.isGuarded (.on n operation)) :
    Tells .shown (do requireOpen name; guarded (Session.act operation take) : SocketM Unit) :=
  (tells_requireOpen name).bind fun _ => (tells_call hkind).guarded

theorem tells_applyTimeout (seconds : Option Binary64) :
    Tells .shown (bare (applyTimeout seconds)) :=
  Tells.bare (tells_call fun _ => rfl)

theorem tells_setTimeout (seconds : Option Binary64) : Tells .shown (setTimeout seconds) :=
  (tells_requireOpen _).bind fun _ => tells_applyTimeout seconds

theorem tells_descriptorNumber : Tells .shown descriptorNumber :=
  (tells_requireOpen _).bind fun _ => tells_get.bind fun _ => tells_pure _

theorem tells_attach (address : Address) : Tells (.plain Call.isGuarded) (attach address) :=
  (tells_call fun _ => ⟨rfl, rfl⟩).bind fun _ =>
    ⟨fun _ => .silent (.refl _)⟩

theorem tells_connect (host : String) (service : Service) (timeout : Option Binary64) :
    Tells .shown (connect host service timeout) := by
  refine (tells_requireOpen _).bind fun _ => (tells_resolve host service).bind fun address => ?_
  have hgreet : Tells .shown (do
      guarded (attach address)
      say .debug .socket s!"connected to {← endpoint .there}" : SocketM Unit) :=
    (tells_attach address).guarded.bind fun _ => (tells_endpoint .there).bind fun _ => tells_say ..
  cases timeout with
  | none => exact hgreet
  | some seconds => exact (tells_applyTimeout _).bind fun _ => hgreet

theorem tells_occupy (address : Address) : Tells (.plain Call.isGuarded) (occupy address) :=
  (tells_call fun _ => ⟨rfl, rfl⟩).bind fun _ =>
    ⟨fun _ => .silent (.refl _)⟩

theorem tells_bind (host : String) (service : Service) : Tells .shown (bind host service) :=
  (tells_requireOpen _).bind fun _ => (tells_resolve host service).bind fun address =>
    (tells_occupy address).guarded.bind fun _ => (tells_endpoint .here).bind fun _ => tells_say ..

/-- A connection that was taken is told to wait for as long as it likes, without a guard too. -/
theorem tells_accept : Tells .shown accept := by
  refine ⟨fun s => ?_⟩
  unfold accept
  by_cases hclosed : s.socket.closed = true
  · rw [if_pos hclosed]
    exact .declined (.refl _) .nil (.closed hclosed)
  rw [if_neg hclosed]
  by_cases hnone : s.socket.descriptor.script.accept.isEmpty = true
  · rw [if_pos hnone]
    exact .silent (.refl _)
  rw [if_neg hnone]
  have htake : Ends .shown s (guarded takeCaller s) :=
    (Tells.guarded (tells_call fun _ => ⟨rfl, rfl⟩)).ends s
  cases hr : takeCaller s with
  | error f t =>
    rw [guarded_of_error hr] at htake
    exact htake.error
  | ok caller t =>
    rw [guarded_of_ok hr] at htake
    cases htake with
    | done hnoted hes =>
      refine .after hnoted hes ?_
      dsimp only
      unfold unhurry
      dsimp only
      cases (Descriptor.reply (adopted caller t) Script.takeSetTimeout fun _ => .ok ()).result with
      | ok u => exact .done (System.Noted.note ..) (Event.undeterred_done _ .nothing)
      | error f => exact .first (System.Noted.note ..) .nothing (.untranslated rfl)

theorem tells_receive (size : Nat) : Tells .shown (receive size) := by
  refine ⟨fun s => ?_⟩
  have hcall : Ends (.plain fun c => c.receives = true ∧ c.setsTimeout = false) s
      (Session.call (.recv size) (Script.takeRecv size) (fun _ => .ok []) .delivered s) :=
    ends_call s ⟨rfl, rfl⟩ fun _ _ => Answer.noConfusion
  unfold receive
  cases hr : Session.call (.recv size) (Script.takeRecv size) (fun _ => .ok []) .delivered s with
  | ok data t =>
    rw [hr] at hcall
    cases hcall with
    | done hnoted hes =>
      cases data with
      | nil => exact .done hnoted hes
      | cons b rest => exact .done hnoted hes
  | error f t =>
    rw [hr] at hcall
    cases hcall with
    | declined _ _ h => exact h.elim
    | failed hnoted hes hrest h =>
      obtain ⟨⟨hrecv, htimeout⟩, rfl⟩ := h
      refine .failed hnoted hes hrest ?_
      by_cases hclosed : t.socket.closed = true
      · rw [if_pos hclosed]
        exact .closedMeanwhile hrecv hclosed
      · rw [if_neg hclosed]
        exact .translated htimeout (fun _ => eq_false_of_ne_true hclosed) (translates_ofSystem f)

theorem tells_read (size : Int) : Tells .shown (read size) := by
  refine ⟨fun s => ?_⟩
  rw [read_eq]
  split
  · rename_i hclosed
    exact .declined (.refl _) .nil (.closed hclosed)
  split
  · rename_i hsize
    exact .declined (.refl _) .nil (.negativeSize hsize)
  split
  · exact .silent (.refl _)
  split
  · split
    · exact (tells_receive _).ends s
    · rename_i hsize
      exact .declined (.refl _) .nil (.oversized (eq_false_of_ne_true hsize))
  · exact .silent (.refl _)

theorem tells_readRaw : Tells .shown readRaw := by
  refine ⟨fun s => ?_⟩
  fun_induction readRaw s with
  | case1 s line rest hcut => exact .silent (.refl _)
  | case2 s hcut hended => exact .silent (.refl _)
  | case3 s hcut hended e t hreceive =>
    have hends := (tells_receive readSize).ends s
    rw [hreceive] at hends
    exact hends.error
  | case4 s hcut hended data t hreceive ih =>
    have hends := (tells_receive readSize).ends s
    rw [hreceive] at hends
    cases hends with
    | done hnoted hes =>
      exact .after (t := { t with socket.buffer := t.socket.buffer ++ data }) hnoted hes ih

theorem tells_readLine : Tells .shown readLine :=
  (tells_requireOpen _).bind fun _ => tells_readRaw.bind fun _ =>
    (tells_say ..).bind fun _ => tells_pure _

theorem tells_written (payload : Payload) : Tells .shown (written payload) := by
  unfold written
  cases payload.toBytes with
  | ok data => exact tells_pure data
  | error run => exact tells_declined fun _ => .unwritable

theorem tells_write (payload : Payload) : Tells .shown (write payload) :=
  (tells_requireOpen _).bind fun _ => (tells_written payload).bind fun _ =>
    (Tells.guarded (tells_call fun _ => ⟨rfl, rfl⟩)).bind fun _ =>
      (tells_say ..).bind fun _ => tells_pure _

theorem tells_writeLine (payload : Payload) : Tells .shown (writeLine payload) :=
  (tells_written payload).bind fun _ => tells_write _

theorem tells_send (data : Bytes) : Tells .shown (send data) :=
  (tells_requireOpen _).bind fun _ => .guarded (tells_call fun _ => ⟨rfl, rfl⟩)

theorem tells_close : Tells .shown Session.close := by
  refine ⟨fun s => ?_⟩
  by_cases hclosed : s.socket.closed = true
  · rw [Session.close_of_closed hclosed]
    exact .silent (.refl _)
  · rcases Session.close_cases (eq_false_of_ne_true hclosed) rfl with
      ⟨t, ht, hnoted⟩ | ⟨f, t, ht, hnoted⟩
    · rw [ht]
      exact .done hnoted (Event.undeterred_done _ .nothing)
    · rw [ht]
      exact .first hnoted .nothing (.translated rfl (fun h => nomatch h) (translates_ofSystem f))

/-- Whether the socket has a peer is told in any case: a failed call says that it has none. -/
theorem isConnected_eq_ok (s : Session) : ∃ b t, isConnected s = .ok b t := by
  unfold isConnected
  split
  · exact ⟨false, s, rfl⟩
  · cases addressOf .there s with
    | ok a t => exact ⟨true, t, rfl⟩
    | error f t => exact ⟨false, t, rfl⟩

theorem tells_perform {a : Action} (ha : a ≠ .isConnected) : Tells .shown a.perform := by
  cases a with
  | enter => exact tells_pure _
  | leave => exact tells_close.bind fun _ => tells_pure _
  | close => exact tells_close.bind fun _ => tells_pure _
  | read size => exact (tells_read size).bind fun _ => tells_pure _
  | receive size => exact (tells_read size).bind fun _ => tells_pure _
  | readLine => exact tells_readLine.bind fun _ => tells_pure _
  | write payload => exact (tells_write payload).bind fun _ => tells_pure _
  | writeLine payload => exact (tells_writeLine payload).bind fun _ => tells_pure _
  | flush => exact (tells_requireOpen _).bind fun _ => tells_pure _
  | descriptorNumber => exact tells_descriptorNumber.bind fun _ => tells_pure _
  | send data => exact (tells_send data).bind fun _ => tells_pure _
  | connect host service timeout =>
    exact (tells_connect host service timeout).bind fun _ => tells_pure _
  | bind host service => exact (tells_bind host service).bind fun _ => tells_pure _
  | listen backlog => exact (tells_act fun _ => ⟨rfl, rfl⟩).bind fun _ => tells_pure _
  | accept => exact tells_accept.bind fun _ => tells_pure _
  | shutdown how => exact (tells_act fun _ => ⟨rfl, rfl⟩).bind fun _ => tells_pure _
  | setTimeout seconds => exact (tells_setTimeout seconds).bind fun _ => tells_pure _
  | setOption level option value => exact (tells_act fun _ => ⟨rfl, rfl⟩).bind fun _ => tells_pure _
  | hostOf e => exact (tells_hostOf e).bind fun _ => tells_pure _
  | portOf e => exact (tells_portOf e).bind fun _ => tells_pure _
  | isConnected => exact absurd rfl ha
  | display => exact tells_get.bind fun _ => tells_pure _

/-- A socket that cannot be made. -/
theorem create_eq_error {family kind protocol : Int} {s t : System} {e : Failure}
    (h : create family kind protocol s = .error e t) :
    ∃ f e', e = .net e' ∧ Translates f e' ∧
      s.Noted t [.called (.socket family kind protocol) (.failed f)] := by
  unfold create System.create at h
  dsimp only at h
  cases hnext : s.sockets.head?.getD (.ok {}) with
  | ok script =>
    rw [hnext] at h
    cases h
  | error f =>
    rw [hnext] at h
    obtain ⟨rfl, rfl⟩ := EStateM.Result.error.inj h
    exact ⟨f, _, rfl, translates_ofSystem f, System.Noted.note ..⟩

/-! ## 6. All operations -/

/-- A failure that is seen as it is comes from a call that sets a timeout. -/
theorem untranslated_of_ends {α : Type} {s t : Session} {f : SystemFailure}
    (h : Ends .shown s (.error (.system f) t : EStateM.Result Failure Session α)) :
    ∃ es n seconds rest, Event.Undeterred es ∧ Event.Elsewhere rest ∧
      s.system.Noted t.system
        (es ++ .called (.on n (.setTimeout seconds)) (.failed f) :: rest) := by
  cases h with
  | declined _ _ h => cases h
  | @failed _ _ es rest c _ hnoted hes hrest h =>
    cases h with
    | untranslated htimeout =>
      cases c with
      | on n operation =>
        cases operation with
        | setTimeout seconds => exact ⟨es, n, seconds, rest, hes, hrest, hnoted⟩
        | _ => cases htimeout
      | _ => cases htimeout

/-- **What callers see of failed calls.** A socket that cannot be made fails with the translated
failure. Whether there is a peer is told without fail. Every other operation, on any session, ends
with the first of its calls that fails, and what its caller sees is what `Shows` says: an error of
the network, unless the call sets a timeout. Only then a failure of the system is seen as it is. -/
theorem failures_shown (family kind protocol : Int) (system : System) (s : Session) {a : Action}
    (ha : a ≠ .isConnected) :
    (∀ e t, create family kind protocol system = .error e t →
      ∃ f e', e = .net e' ∧ Translates f e' ∧
        system.Noted t [.called (.socket family kind protocol) (.failed f)]) ∧
    (∃ b t, isConnected s = .ok b t) ∧
    Ends .shown s (a.perform s) ∧
    ∀ f t, a.perform s = .error (.system f) t →
      ∃ es n seconds rest, Event.Undeterred es ∧ Event.Elsewhere rest ∧
        s.system.Noted t.system
          (es ++ .called (.on n (.setTimeout seconds)) (.failed f) :: rest) := by
  have hends := (tells_perform ha).ends s
  refine ⟨fun e t h => create_eq_error h, isConnected_eq_ok s, hends, fun f t h => ?_⟩
  rw [h] at hends
  exact untranslated_of_ends hends

/-- A system that makes no socket, for want of descriptors. -/
def exhausted : System where
  sockets := [.error (.coded 24 "Too many open files")]

/-- A socket whose peer does not answer in time. -/
def slow : Session where
  socket := { descriptor := { number := 3, script :=
    { recv := [{ outcome := .failure .timeout }] } } }
  system := {}

theorem failures_shown_slow :
    (∃ e t, create 2 1 0 exhausted = .error e t ∧
      ∃ f e', e = .net e' ∧ Translates f e' ∧
        exhausted.Noted t [.called (.socket 2 1 0) (.failed f)]) ∧
    Action.readLine ≠ .isConnected ∧ Ends .shown slow (Action.readLine.perform slow) := by
  have hother : Action.readLine ≠ .isConnected := Action.noConfusion
  obtain ⟨hcreate, -, hends, -⟩ := failures_shown 2 1 0 exhausted slow hother
  exact ⟨⟨_, _, rfl, hcreate _ _ rfl⟩, hother, hends⟩

/-- A socket for which the system sets no timeout. -/
def untimed : Session where
  socket := { descriptor := { number := 3, script :=
    { setTimeout := [{ outcome := .failure (.coded 22 "Invalid argument") }] } } }
  system := {}

/-- One second. -/
def oneSecond : Binary64 := .ofDecimal false 1 0

/-- **A timeout that cannot be set is not translated**: what the caller sees is no error of the
network. -/
theorem setTimeout_untranslated :
    ∃ f e t, Action.perform (.setTimeout (some oneSecond)) untimed = .error e t ∧
      untimed.system.Noted t.system
        [.called (.on 3 (.setTimeout (some oneSecond))) (.failed f)] ∧
      ∀ e', e ≠ .net e' :=
  ⟨_, _, _, rfl, rfl, fun _ h => nomatch h⟩

end Socket

end HttpProbe
