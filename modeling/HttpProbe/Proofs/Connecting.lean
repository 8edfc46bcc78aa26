import HttpProbe.Proofs.CallSequences

/-!
# The calls of connecting

Connecting looks the host up, sets the timeout if there is one, connects to the first address that
was found, and then asks twice for the peer's address and its names, once for the host and once for
the port. Each of these calls may fail, and none is made after one that failed:

* `System.found`, `System.Finds`: what a look-up finds;
* `connectCalls`: the calls of connecting, in order;
* `makes_nameOf`, `makes_endpoint`, `makes_attach`, `makes_resolve`: the parts;
* `makes_connect`: the whole.
-/

namespace HttpProbe

/-! ## 1. Look-ups -/

namespace System

/-- What the next look-up of addresses finds. -/
def found (s : System) (host : String) (service : Option String) :
    Except SystemFailure (List Address) :=
  match (nextOutcome s.lookUps).1 with
  | .usual => usualAddresses host service
  | .value addresses => .ok addresses
  | .failure f => .error f

theorem lookUp_eq (s : System) (host : String) (service : Option String)
    (family kind protocol : Int) :
    lookUp host service family kind protocol s =
      match s.found host service with
      | .ok addresses => .ok addresses ({ s with lookUps := (nextOutcome s.lookUps).2 }.note
          (.called (.getaddrinfo host service family kind protocol) .done))
      | .error f => .error f ({ s with lookUps := (nextOutcome s.lookUps).2 }.note
          (.called (.getaddrinfo host service family kind protocol) (.failed f))) := by
  unfold lookUp found
  rcases nextOutcome s.lookUps with ⟨o, rest⟩
  cases o with
  | usual =>
    dsimp only
    cases usualAddresses host service <;> rfl
  | value addresses => rfl
  | failure f => rfl

/-- The names that the next look-up of names gives to an address. -/
def named (s : System) (a : Address) : Except SystemFailure (String × String) :=
  match (nextOutcome s.descriptions).1 with
  | .usual => .ok (a.host, toString a.port)
  | .value names => .ok names
  | .failure f => .error f

theorem describe_eq (s : System) (a : Address) :
    describe a s =
      match s.named a with
      | .ok names => .ok names ({ s with descriptions := (nextOutcome s.descriptions).2 }.note
          (.called (.getnameinfo a) .done))
      | .error f => .error f ({ s with descriptions := (nextOutcome s.descriptions).2 }.note
          (.called (.getnameinfo a) (.failed f))) := by
  unfold describe named
  rcases nextOutcome s.descriptions with ⟨o, rest⟩
  cases o <;> rfl

theorem mem_of_mem_nextOutcome {α : Type} {q : List (Outcome α)} {o : Outcome α}
    (h : o ∈ (nextOutcome q).2) : o ∈ q := by
  cases q with
  | nil => exact h
  | cons o' rest => exact List.mem_cons_of_mem _ h

theorem mem_of_nextOutcome_eq {α : Type} {q : List (Outcome α)} {a : α}
    (h : (nextOutcome q).1 = .value a) : .value a ∈ q := by
  cases q with
  | nil => cases h
  | cons o rest => exact h ▸ List.mem_cons_self

/-- Names that the system gives have a service that can be read, if the address has such a port. -/
theorem numeric_of_named {s : System} (hs : s.NamesServices) {a : Address} (ha : a.Numbered)
    {names : String × String} (h : s.named a = .ok names) : Numeric names.2 := by
  unfold named at h
  cases ho : (nextOutcome s.descriptions).1 with
  | usual =>
    rw [ho] at h
    cases h
    exact ha
  | value names' =>
    rw [ho] at h
    cases h
    exact hs names (mem_of_nextOutcome_eq ho)
  | failure f =>
    rw [ho] at h
    cases h

/-- A look-up that does not fail finds an address, and the first one has a port that can be read. -/
def Finds (s : System) (host : String) (service : Option String) : Prop :=
  ∀ addresses, s.found host service = .ok addresses → ∃ a rest, addresses = a :: rest ∧ a.Numbered

end System

/-- The call asks for the names of an address. -/
def describes : CallKind := fun c => ∃ a, c = .getnameinfo a

section Outside

variable {s : Session}

theorem makes_lookUp (hs : s.Usable) (host : String) (service : Option String)
    (family kind protocol : Int) :
    Makes id [(· = .getaddrinfo host service family kind protocol)]
      (fun addresses => s.system.found host service = .ok addresses) s
      (Session.outside Script.takeLookUp (System.lookUp host service family kind protocol) s) := by
  rw [Session.outside_quiet (Script.gentle_takeLookUp.closing _ hs.quiet), System.lookUp_eq]
  cases hfound : s.system.found host service with
  | ok addresses =>
    exact .done (.cons (.intro rfl) .nil) (System.Noted.note ..)
      (Session.aside_apart Script.gentle_takeLookUp fun _ => id) rfl
  | error f =>
    exact .cut (.here rfl) (System.Noted.note ..)
      (Session.aside_apart Script.gentle_takeLookUp fun _ => id)

theorem makes_describe (hs : s.Obliging) {a : Address} (ha : a.Numbered) :
    Makes id [describes] (fun names => Numeric names.2) s
      (Session.outside Script.takeDescribe (System.describe a) s) := by
  rw [Session.outside_quiet (Script.gentle_takeDescribe.closing _ hs.usable.quiet),
    System.describe_eq]
  cases hnamed : s.system.named a with
  | ok names =>
    exact .done (.cons (.intro ⟨a, rfl⟩) .nil) (System.Noted.note ..)
      (Session.aside_apart Script.gentle_takeDescribe fun _ => System.mem_of_mem_nextOutcome)
      (System.numeric_of_named hs.names ha hnamed)
  | error f =>
    exact .cut (.here ⟨a, rfl⟩) (System.Noted.note ..)
      (Session.aside_apart Script.gentle_takeDescribe fun _ => System.mem_of_mem_nextOutcome)

end Outside

/-! ## 2. The ends of a connection -/

namespace Socket

/-- The system may name a port by what cannot be read. -/
theorem nameOf_of_unreadable {e : End} {s t : Session} {host service : String}
    {why : Whole.Refusal} (hopen : s.socket.closed = false)
    (hnames : guarded (do Session.outside Script.takeDescribe (System.describe (← addressOf e))) s
      = .ok (host, service) t)
    (hread : Whole.read service = .error why) : nameOf e s = .error (.badPort why) t := by
  unfold nameOf
  rw [bind_of_ok (requireOpen_of_open hopen _), bind_of_ok hnames]
  dsimp only
  rw [hread]
  rfl

section Ends

variable {s : Session} {n : Nat} (hs : s.Obliging) (hn : s.socket.descriptor.number = n)

include hs hn

theorem makes_addressOf : Makes id [(· = .on n .getpeername)] Address.Numbered s
    (addressOf .there s) := by
  refine makes_call hs.usable Script.gentle_takeGetpeername (by rw [hn]) fun a ha => ?_
  rcases (Descriptor.reply_ok ha).2.2 with hvalue | ⟨_, husual⟩
  · obtain ⟨r, hr, hout⟩ := Reply.mem_of_next_value hvalue
    exact hs.script.peers r hr a hout
  · cases hpeer : s.socket.descriptor.peer with
    | none =>
      rw [hpeer] at husual
      cases husual
    | some b =>
      rw [hpeer] at husual
      cases husual
      exact hs.peer a hpeer

theorem makes_nameOf : Makes Failure.translated [(· = .on n .getpeername), describes]
    (fun _ => True) s (nameOf .there s) := by
  unfold nameOf
  rw [bind_of_ok (requireOpen_of_open hs.usable.isOpen _)]
  refine Makes.map (Makes.guarded (Makes.bind (makes_addressOf hs hn)
    fun a t ha haside => makes_describe (haside.obliging hs) ha)) fun names t hnames _ => ?_
  obtain ⟨host, service⟩ := names
  obtain ⟨port, hport⟩ : Numeric service := hnames
  dsimp only
  rw [hport]
  exact .pure trivial

theorem makes_hostOf : Makes Failure.translated [(· = .on n .getpeername), describes]
    (fun _ => True) s (hostOf .there s) :=
  Makes.map (makes_nameOf hs hn) fun _ _ _ _ => .pure trivial

theorem makes_portOf : Makes Failure.translated [(· = .on n .getpeername), describes]
    (fun _ => True) s (portOf .there s) :=
  Makes.map (makes_nameOf hs hn) fun _ _ _ _ => .pure trivial

theorem makes_endpoint : Makes Failure.translated
    [(· = .on n .getpeername), describes, (· = .on n .getpeername), describes]
    (fun _ => True) s (endpoint .there s) := by
  refine Makes.bind (makes_hostOf hs hn) fun host t _ haside => ?_
  exact Makes.map (makes_portOf (haside.obliging hs) (haside.keeps.number.trans hn))
    fun _ _ _ _ => .pure trivial

theorem makes_attach {a : Address} (ha : a.Numbered) {kind : CallKind}
    (hkind : kind (.on n (.connect a))) :
    Makes id [kind] (fun _ => True) s (attach a s) := by
  refine Makes.map (makes_call hs.usable Script.gentle_takeConnect (hn ▸ hkind) fun _ _ => trivial)
    fun _ t _ _ => ?_
  refine .done .nil (.refl _) ⟨⟨rfl, rfl, rfl, id⟩, rfl, rfl, rfl, fun ht => ?_⟩ trivial
  refine ⟨⟨ht.usable.isOpen, ht.usable.alive, ht.usable.quiet⟩, ht.script, fun b hb => ?_, ht.names⟩
  cases hb
  exact ha

end Ends

/-! ## 3. Connecting -/

/-- The call connects to the first address that the look-up finds. -/
def connectsToFirst (n : Nat) (found : Except SystemFailure (List Address)) : CallKind :=
  fun c => ∃ a rest, found = .ok (a :: rest) ∧ c = .on n (.connect a)

/-- The calls of connecting on the descriptor of number `n`, when the look-up of `lookUp` finds
`found`. -/
def connectCalls (n : Nat) (lookUp : Call) (found : Except SystemFailure (List Address))
    (timeout : Option Binary64) : List CallKind :=
  (· = lookUp) ::
    ((if timeout.isSome then [(· = .on n (.setTimeout timeout))] else []) ++
      [connectsToFirst n found, (· = .on n .getpeername), describes, (· = .on n .getpeername),
        describes])

/-- The call that looks addresses up for a socket. -/
def lookUpCall (s : Socket) (host : String) (service : Service) : Call :=
  .getaddrinfo host service.text? s.family s.kind s.protocol

section Connecting

variable {s : Session} {n : Nat} (hs : s.Obliging) (hn : s.socket.descriptor.number = n)

theorem resolve_of_unaskable {host : String} {service : Service} {f : Failure}
    (h : unaskable? s.system host service = some f) : resolve host service s = .error f s := by
  unfold resolve
  rw [bind_of_ok (show (get : SocketM Session) s = .ok s s from rfl), h]
  rfl

theorem resolve_of_askable {host : String} {service : Service}
    (h : unaskable? s.system host service = none) :
    resolve host service s =
      (guarded (Session.outside Script.takeLookUp
        (System.lookUp host service.text? s.socket.family s.socket.kind s.socket.protocol))
          >>= firstOf) s := by
  unfold resolve
  rw [bind_of_ok (show (get : SocketM Session) s = .ok s s from rfl), h]

/-- What cannot be looked up is not connected to. -/
theorem connect_of_unaskable {host : String} {service : Service} {f : Failure}
    (timeout : Option Binary64) (hopen : s.socket.closed = false)
    (h : unaskable? s.system host service = some f) :
    connect host service timeout s = .error f s := by
  unfold connect
  rw [bind_of_ok (requireOpen_of_open hopen _)]
  exact bind_of_error (resolve_of_unaskable h)

theorem makes_resolve {host : String} {service : Service} (hs : s.Usable)
    (hasks : unaskable? s.system host service = none)
    (hfinds : s.system.Finds host service.text?) :
    Makes Failure.translated [(· = lookUpCall s.socket host service)]
      (fun a => (∃ rest, s.system.found host service.text? = .ok (a :: rest)) ∧ a.Numbered) s
      (resolve host service s) := by
  rw [resolve_of_askable hasks]
  refine Makes.map (Makes.guarded (makes_lookUp hs ..)) fun addresses t hfound _ => ?_
  obtain ⟨a, rest, rfl, ha⟩ := hfinds addresses hfound
  exact .pure ⟨⟨rest, hfound⟩, ha⟩

include hs hn

theorem makes_applyTimeout (seconds : Option Binary64) :
    Makes Failure.translated [(· = .on n (.setTimeout seconds))] (fun _ => True) s
      (bare (applyTimeout seconds) s) := by
  have hcall : Makes id [(· = .on n (.setTimeout seconds))] (fun _ => True) s
      (applyTimeout seconds s) :=
    makes_call hs.usable Script.gentle_takeSetTimeout (by rw [hn]) fun _ _ => trivial
  unfold bare
  cases hr : applyTimeout seconds s with
  | ok _ t =>
    rw [hr] at hcall
    rw [EStateM.adaptExcept, hr]
    cases hcall with
    | done hes hnoted haside hpost => exact .done hes hnoted haside hpost
  | error f t =>
    have hclosing := Script.gentle_takeSetTimeout.closing _ hs.usable.quiet
    obtain ⟨hresult, -⟩ := Session.call_error hclosing hr
    rcases Session.reply_error hs.usable.alive hresult with hout | ⟨_, hu⟩
    · obtain ⟨r, hr, hfails⟩ := Reply.mem_of_next_failure hout
      exact absurd hfails (hs.script.timeouts r hr f)
    · cases hu

theorem makes_greet {a : Address} (ha : a.Numbered) {kind : CallKind}
    (hkind : kind (.on n (.connect a))) :
    Makes Failure.translated
      [kind, (· = .on n .getpeername), describes, (· = .on n .getpeername), describes]
      (fun _ => True) s
      ((do guarded (attach a); HttpProbe.say .debug .socket s!"connected to {← endpoint .there}"
        : SocketM Unit) s) := by
  refine Makes.bind (Makes.guarded (makes_attach hs hn ha hkind)) fun _ t _ haside => ?_
  exact Makes.map (makes_endpoint (haside.obliging hs) (haside.keeps.number.trans hn))
    fun _ _ _ _ => .done .nil (.refl _) (.say ..) trivial

/-- **Connecting** makes its calls in order, up to the first one that fails. -/
theorem makes_connect {host : String} {service : Service} (timeout : Option Binary64)
    (hasks : unaskable? s.system host service = none)
    (hfinds : s.system.Finds host service.text?) :
    Makes Failure.translated
      (connectCalls n (lookUpCall s.socket host service) (s.system.found host service.text?)
        timeout)
      (fun _ => True) s (connect host service timeout s) := by
  unfold connect
  rw [bind_of_ok (requireOpen_of_open hs.usable.isOpen _)]
  refine Makes.bind (makes_resolve hs.usable hasks hfinds) fun a t ha haside => ?_
  obtain ⟨⟨rest, hfirst⟩, hnumbered⟩ := ha
  have hkind : connectsToFirst n (s.system.found host service.text?) (.on n (.connect a)) :=
    ⟨a, rest, hfirst, rfl⟩
  have ht := haside.obliging hs
  have htn := haside.keeps.number.trans hn
  cases timeout with
  | none => exact makes_greet ht htn hnumbered hkind
  | some seconds =>
    refine Makes.bind (makes_applyTimeout ht htn (some seconds)) fun _ u _ haside' => ?_
    exact makes_greet (haside'.obliging ht) (haside'.keeps.number.trans htn) hnumbered hkind

/-- **Writing** is one call. -/
theorem makes_write (data : Bytes) :
    Makes Failure.translated [(· = .on n (.sendAll data))] (fun _ => True) s
      (write (.octets data) s) := by
  rw [write_octets hs.usable.isOpen]
  refine Makes.map (Makes.guarded (makes_call hs.usable Script.gentle_takeSendAll (by rw [hn])
    fun _ _ => trivial)) fun _ t _ _ => ?_
  exact .done .nil (.refl _) (.say ..) trivial

end Connecting

end Socket

end HttpProbe
