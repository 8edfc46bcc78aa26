import HttpProbe.Proofs.Confinement
import HttpProbe.Responder.Lifecycle

/-!
# Starting

A start makes a listener, sets it up and asks for its port. Any call of it may fail, and other
threads may act during any of them. This file says what a start leaves, however it ends:

* `Event.made`: the numbers of the sockets that were made;
* `Starts`, `starts_of_stopped`: the ways in which a start ends;
* `Site.TellsPort`: a listener that was set up tells its port;
* **`failed_start`**: a start that fails leaves the responder as it was and no socket open, unless
  the listener was set up and does not tell its port. That listener is kept, and it is left open
  (`failed_start_leak`).
-/

namespace HttpProbe

/-! ## 1. The sockets that were made -/

namespace Event

/-- How many numbers the event gives away. A connection that is taken gets one too. -/
def birth : Event → Nat
  | .called (.socket ..) .done => 1
  | .called (.on _ .accept) .done => 1
  | _ => 0

/-- The number of the socket that the event makes, if it makes one. -/
def making (n : Nat) : Event → List Nat
  | .called (.socket ..) .done => [n]
  | _ => []

/-- How many numbers were given away. -/
def births : List Event → Nat
  | [] => 0
  | e :: es => e.birth + births es

/-- The numbers of the sockets that were made, where `n` is the next number. -/
def made (n : Nat) : List Event → List Nat
  | [] => []
  | e :: es => e.making n ++ made (n + e.birth) es

theorem births_append (es fs : List Event) : births (es ++ fs) = births es + births fs := by
  induction es with
  | nil => exact (Nat.zero_add _).symm
  | cons e es ih => rw [List.cons_append, births, births, ih, Nat.add_assoc]

theorem made_append (n : Nat) (es fs : List Event) :
    made n (es ++ fs) = made n es ++ made (n + births es) fs := by
  induction es generalizing n with
  | nil => rfl
  | cons e es ih =>
    rw [List.cons_append, made, made, ih, births, List.append_assoc, Nat.add_assoc]

theorem births_of_concerns {n : Nat} {es : List Event} (h : ∀ e ∈ es, e.Concerns n) :
    births es = 0 ∧ ∀ m, made m es = [] := by
  induction es with
  | nil => exact ⟨rfl, fun _ => rfl⟩
  | cons e es ih =>
    obtain ⟨hbirths, hmade⟩ := ih fun e he => h e (List.mem_cons_of_mem _ he)
    have hhead : e.birth = 0 ∧ ∀ m, e.making m = [] := by
      cases h e List.mem_cons_self with
      | lookUp => exact ⟨rfl, fun _ => rfl⟩
      | describe => exact ⟨rfl, fun _ => rfl⟩
      | threadEnded => exact ⟨rfl, fun _ => rfl⟩
      | @operation operation answer hother =>
        cases operation <;> first | exact ⟨rfl, fun _ => rfl⟩ | exact absurd rfl hother
    refine ⟨by rw [births, hhead.1, hbirths], fun m => ?_⟩
    rw [made, hhead.2, hmade, List.nil_append]

/-- A listener is the one socket that is made when nothing else is done than with it. -/
theorem made_listener {n : Nat} {es : List Event} (h : ∀ e ∈ es, e.Concerns n) (m : Nat) :
    made m (.called Check.socketCall .done :: es) = [m] :=
  congrArg (List.cons m) ((births_of_concerns h).2 (m + 1))

end Event

/-! ## 2. The ways in which a start ends -/

namespace Site

open Check

/-- The session in which a listener was made. -/
abbrev fresh (s : Site) (script : Script) : Session := opened s.system script

/-- A listener that was set up tells its port. -/
def TellsPort (s : Site) : Prop :=
  ∀ script t, nextSocket s.system = .ok script →
    setUp s.responder.plan.host s.responder.port (s.fresh script) = .ok () t →
    ∃ port u, Socket.portOf .here t = .ok port u

/-- Whether the listener of a start tells its port, if it is set up. -/
def tells (s : Site) : Bool :=
  match nextSocket s.system with
  | .error _ => true
  | .ok script =>
    match setUp s.responder.plan.host s.responder.port (s.fresh script) with
    | .error _ _ => true
    | .ok () t =>
      match Socket.portOf .here t with
      | .ok _ _ => true
      | .error _ _ => false

theorem tells_eq_true_iff {s : Site} : s.tells = true ↔ s.TellsPort := by
  unfold tells TellsPort
  cases hnext : nextSocket s.system with
  | error f => exact ⟨fun _ script t h => (nomatch h), fun _ => rfl⟩
  | ok script =>
    dsimp only
    cases hu : setUp s.responder.plan.host s.responder.port (s.fresh script) with
    | error e u =>
      refine ⟨fun _ script' t h ht => ?_, fun _ => rfl⟩
      obtain rfl := Except.ok.inj h
      exact nomatch hu.symm.trans ht
    | ok _ u =>
      dsimp only
      constructor
      · intro htells script' t h ht
        obtain rfl := Except.ok.inj h
        obtain ⟨-, rfl⟩ := EStateM.Result.ok.inj (hu.symm.trans ht)
        cases hp : Socket.portOf .here u with
        | ok port v => exact ⟨port, v, rfl⟩
        | error e v =>
          rw [hp] at htells
          cases htells
      · intro htells
        obtain ⟨port, v, hp⟩ := htells script u rfl hu
        rw [hp]

instance (s : Site) : Decidable s.TellsPort := decidable_of_iff _ tells_eq_true_iff

/-- The site when a listener was started that told its port. -/
def launched (s : Site) (t : Session) (port : Int) : Site :=
  Site.say ⟨{ s.responder with
      listener := some t.socket, port, running := true, started := s.responder.started + 1
      unfinished := s.responder.unfinished ++ [s.responder.started] }, t.system⟩ .info
    s!"status server listening on {s.responder.plan.host}:{port}"

/-- The ways in which a start of a stopped responder ends: there is no socket; the listener could
not be set up and was closed again; it did not tell its port; or it was started. -/
inductive Starts (s : Site) : EStateM.Result Responder.Refusal Site Unit → Prop where
  | noSocket {f : SystemFailure} (h : nextSocket s.system = .error f) :
    Starts s (.error (.failed (Failure.translated f)) { s with system := denied s.system f })
  | abandoned {script : Script} {u : Session} {e f : Failure}
      (h : nextSocket s.system = .ok script)
      (hu : setUp s.responder.plan.host s.responder.port (s.fresh script) = .error e u) :
    Starts s (.error (.failed f) { s with system := u.closeElsewhere.system })
  | unnamed {script : Script} {u t : Session} {e : Failure} (h : nextSocket s.system = .ok script)
      (hu : setUp s.responder.plan.host s.responder.port (s.fresh script) = .ok () u)
      (ht : Socket.portOf .here u = .error e t) :
    Starts s (.error (.failed e)
      { s with responder.listener := some t.socket, system := t.system })
  | started {script : Script} {u t : Session} {port : Int} (h : nextSocket s.system = .ok script)
      (hu : setUp s.responder.plan.host s.responder.port (s.fresh script) = .ok () u)
      (ht : Socket.portOf .here u = .ok port t) :
    Starts s (.ok () (s.launched t port))

theorem abandon_eq (f : Failure) (t : Session) :
    (abandon f t).2 = t.closeElsewhere.system := by
  unfold abandon Session.closeElsewhere
  cases Session.close t <;> rfl

theorem starts_of_stopped {s : Site} (h : s.responder.running = false) : Starts s (start s) := by
  unfold start
  rw [if_neg (ne_true_of_eq_false h)]
  cases hnext : nextSocket s.system with
  | error f =>
    rw [createDefault_of_error hnext]
    exact .noSocket hnext
  | ok script =>
    rw [createDefault_of_ok hnext]
    dsimp only
    cases hu : setUp s.responder.plan.host s.responder.port (s.fresh script) with
    | error e u =>
      show Starts s (.error (.failed (abandon e u).1) { s with system := (abandon e u).2 })
      rw [abandon_eq]
      exact .abandoned hnext hu
    | ok _ u =>
      dsimp only
      cases ht : Socket.portOf .here u with
      | error e t => exact .unnamed hnext hu ht
      | ok port t => exact .started hnext hu ht

/-! ## 3. What a start leaves -/

/-- A listener is set up by calls that neither take a connection nor close it, and it is not told to
wait for as long as it likes. -/
theorem stepwise_setUp {may : Permit} (host : String) (port : Int)
    (hmay : ∀ s operation, operation ≠ .accept → operation ≠ .close →
      operation ≠ .setTimeout none → may s operation) : Stepwise may (setUp host port) :=
  (Socket.stepwise_act (fun s _ => hmay s _ (by simp) (by simp) (by simp)) (.setOption ..)).bind
    fun _ => (Socket.stepwise_bind (fun s a => hmay s (.bind a) (by simp) (by simp) (by simp))
      fun s _ => hmay s _ (by simp) (by simp) (by simp)).bind
    fun _ => (Socket.stepwise_act (fun s _ => hmay s _ (by simp) (by simp) (by simp))
      (.listen _)).bind
    fun _ => Socket.stepwise_setTimeout fun s _ => hmay s _ (by simp) (by simp) (by simp)

theorem confined_setUp (host : String) (port : Int) : Confined (setUp host port) :=
  (stepwise_setUp host port fun _ _ haccept hclose _ => ⟨haccept, hclose⟩).confined

section Start

variable {s : Site} {script : Script} {t : Session}

/-- What was noted since the listener was made. -/
theorem events_of_handled (h : (s.fresh script).Handled t) :
    ∃ es, s.system.Noted t.system (.called socketCall .done :: es) ∧
      (∀ e ∈ es, e.Concerns s.system.nextNumber) ∧
      Event.closings s.system.nextNumber es = t.socket.closed.toNat := by
  obtain ⟨es, hnoted, hconcerns, hclosings⟩ := h.noted
  have hmade : s.system.Noted (s.fresh script).system [.called socketCall .done] :=
    System.Noted.note ..
  exact ⟨es, hmade.trans hnoted, hconcerns, hclosings⟩

/-- **A start that fails** leaves the responder as it was, and it leaves no socket open. Only where
a listener was set up that does not tell its port, this listener is kept as it is. -/
theorem failed_start {s t : Site} {why : Responder.Refusal}
    (hstopped : s.responder.running = false) (hfailed : start s = .error why t) :
    ∃ es, s.system.Noted t.system es ∧
      (s.TellsPort → t.responder = s.responder ∧
        ∀ n ∈ Event.made s.system.nextNumber es, Event.closings n es = 1) ∧
      (¬ s.TellsPort → ∃ listener,
        t.responder = { s.responder with listener := some listener } ∧
        Event.made s.system.nextNumber es = [listener.descriptor.number] ∧
        Event.closings listener.descriptor.number es = listener.closed.toNat) := by
  have hstarts := starts_of_stopped hstopped
  rw [hfailed] at hstarts
  cases hstarts with
  | @noSocket f hnext =>
    refine ⟨_, System.Noted.note .., fun _ => ⟨rfl, fun _ h => nomatch h⟩, fun hsilent => ?_⟩
    exact absurd (fun script u h => nomatch hnext.symm.trans h) hsilent
  | @abandoned script u e f hnext hu =>
    have hleft := ((confined_setUp ..).of_error hu).handled
    obtain ⟨es, hnoted, hconcerns, hclosings⟩ :=
      events_of_handled (hleft.trans (Session.handled_closeElsewhere u))
    rw [Session.closed_closeElsewhere] at hclosings
    refine ⟨_, hnoted, fun _ => ⟨rfl, fun n hn => ?_⟩, fun hsilent => ?_⟩
    · rw [Event.made_listener hconcerns] at hn
      rw [List.mem_singleton.1 hn]
      exact hclosings
    · refine absurd (fun script' v h hv => ?_) hsilent
      obtain rfl := Except.ok.inj (hnext.symm.trans h)
      exact nomatch hu.symm.trans hv
  | @unnamed script u v e hnext hu hv =>
    have hset := (confined_setUp ..).of_ok hu
    have hasked := hset.trans ((Socket.confined_portOf .here).of_error hv)
    obtain ⟨es, hnoted, hconcerns, hclosings⟩ := events_of_handled hasked.handled
    have hnumber : v.socket.descriptor.number = s.system.nextNumber := hasked.handled.number
    refine ⟨_, hnoted, fun htells => ?_, fun _ => ⟨v.socket, rfl, ?_, ?_⟩⟩
    · obtain ⟨port, w, hw⟩ := htells script u hnext hu
      exact nomatch hv.symm.trans hw
    · rw [Event.made_listener hconcerns, hnumber]
    · rw [hnumber]
      exact hclosings

end Start

/-- A stopped responder whose port is in use. -/
def occupied : Site where
  responder := {}
  system := { sockets :=
    [.ok { bind := [{ outcome := .failure (.coded 98 "Address already in use") }] }] }

theorem failed_start_occupied :
    ∃ why t es, start occupied = .error why t ∧ occupied.system.Noted t.system es ∧
      occupied.TellsPort ∧ t.responder = occupied.responder ∧
      ∀ n ∈ Event.made occupied.system.nextNumber es, Event.closings n es = 1 := by
  obtain ⟨why, t, hfailed⟩ : ∃ why t, start occupied = .error why t := ⟨_, _, rfl⟩
  have htells : occupied.TellsPort := by decide +kernel
  obtain ⟨es, hnoted, hclosed, -⟩ := failed_start (s := occupied) rfl hfailed
  exact ⟨why, t, es, hfailed, hnoted, htells, hclosed htells⟩

/-- A stopped responder whose listener does not tell its port when it is asked for the
third time. -/
def mute : Site where
  responder := {}
  system := { sockets := [.ok { getsockname :=
    [{}, {}, { outcome := .failure (.coded 5 "Input/output error") }] }] }

/-- **A start that fails may leave its listener open**, and the responder keeps it. -/
theorem failed_start_leak :
    ∃ why t es, mute.responder.running = false ∧ start mute = .error why t ∧
      mute.system.Noted t.system es ∧ Event.made mute.system.nextNumber es = [3] ∧
      Event.closings 3 es = 0 ∧ mute.responder.listener.isSome = false ∧
      t.responder.listener.isSome = true := by
  exact ⟨_, _, _, rfl, rfl, rfl, rfl, rfl, rfl, rfl⟩

end Site

end HttpProbe
