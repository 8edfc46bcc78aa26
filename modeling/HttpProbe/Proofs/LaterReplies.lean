import HttpProbe.Proofs.LineReceptions
import HttpProbe.Proofs.SessionSteps

/-!
# What a peer sends later

Two runs are compared here: the peer of one sends more than the peer of the other, after all else.
What does not look so far comes to the same in both:

* `Session.followedBy`, `Session.sequel`: a session whose peer sends more, and what comes of its run;
* `Heedless x`: `x` takes nothing of what the peer sends. This is said once of calls and look-ups
  (`heedless_call`, `heedless_outside`), and of one run after the other (`Heedless.bind`);
* `heedless_connect`, `heedless_write`: the operations that do not receive;
* `Reply.EndsLine`, `Settled`: a line ends in what was received, or in what is still to come;
* **`readLine_followedBy`**: a read of such a line comes to the same and leaves the rest for later.
-/

namespace HttpProbe

/-! ## 1. What is sent later -/

section Later

variable (later : List (Reply Bytes))

/-- What the peer sends later stands at the end of the queue. -/
def Script.followedBy (c : Script) : Script := { c with recv := c.recv ++ later }

def Descriptor.followedBy (d : Descriptor) : Descriptor :=
  { d with script := d.script.followedBy later }

namespace Session

def followedBy (s : Session) : Session :=
  { s with socket.descriptor := s.socket.descriptor.followedBy later }

/-- What comes of a run, when the peer sends more than the run takes. -/
def sequel {ε α : Type} : EStateM.Result ε Session α → EStateM.Result ε Session α
  | .ok a s => .ok a (s.followedBy later)
  | .error e s => .error e (s.followedBy later)

end Session

end Later

/-! ## 2. What takes nothing of it -/

/-- A run of `x` takes nothing of what the peer sends. -/
structure Heedless {ε α : Type} (x : EStateM ε Session α) : Prop where
  keeps : ∀ s : Session,
    (after (x s)).socket.descriptor.script.recv = s.socket.descriptor.script.recv
  same : ∀ later s, x (s.followedBy later) = Session.sequel later (x s)

section Heedless

open Session

variable {ε ε' α β : Type} {x : EStateM ε Session α} {later : List (Reply Bytes)}

theorem heedless_pure (a : α) : Heedless (pure a : EStateM ε Session α) :=
  ⟨fun _ => rfl, fun _ _ => rfl⟩

theorem heedless_throw (e : ε) : Heedless (throw e : EStateM ε Session α) :=
  ⟨fun _ => rfl, fun _ _ => rfl⟩

theorem heedless_say (level : Log.Level) (source : Log.Source) (message : String) :
    Heedless (say level source message) :=
  ⟨fun _ => rfl, fun _ _ => rfl⟩

/-- What follows such a run is followed by the same. -/
theorem Heedless.bind_sequel (hx : Heedless x) {k : α → EStateM ε Session β} {s : Session}
    (hk : ∀ a t, t.socket.descriptor.script.recv = s.socket.descriptor.script.recv →
      k a (t.followedBy later) = sequel later (k a t)) :
    (x >>= k) (s.followedBy later) = sequel later ((x >>= k) s) := by
  have hsame := hx.same later s
  have hkeeps := hx.keeps s
  cases hr : x s with
  | ok a t =>
    rw [hr] at hsame hkeeps
    rw [bind_of_ok hsame, bind_of_ok hr]
    exact hk a t hkeeps
  | error e t =>
    rw [hr] at hsame
    rw [bind_of_error hsame, bind_of_error hr]
    rfl

theorem Heedless.bind (hx : Heedless x) {k : α → EStateM ε Session β} (hk : ∀ a, Heedless (k a)) :
    Heedless (x >>= k) where
  keeps s := by
    have hkeeps := hx.keeps s
    cases hr : x s with
    | ok a t =>
      rw [hr] at hkeeps
      rw [bind_of_ok hr]
      exact ((hk a).keeps t).trans hkeeps
    | error e t =>
      rw [hr] at hkeeps
      rw [bind_of_error hr]
      exact hkeeps
  same later s := hx.bind_sequel fun a t _ => (hk a).same later t

theorem Heedless.adaptExcept (hx : Heedless x) (f : ε → ε') : Heedless (x.adaptExcept f) where
  keeps s := by
    have hkeeps := hx.keeps s
    unfold EStateM.adaptExcept
    cases hr : x s <;> (rw [hr] at hkeeps; exact hkeeps)
  same later s := by
    have hsame := hx.same later s
    unfold EStateM.adaptExcept
    rw [hsame]
    cases x s <;> rfl

theorem heedless_requireOpen (operation : String) : Heedless (requireOpen operation) := by
  constructor
  · intro s
    unfold requireOpen
    split <;> rfl
  · intro later s
    have hlater : (s.followedBy later).socket.closed = s.socket.closed := rfl
    cases hc : s.socket.closed with
    | true => rw [requireOpen_of_closed hc, requireOpen_of_closed (hlater.trans hc)]; rfl
    | false => rw [requireOpen_of_open hc, requireOpen_of_open (hlater.trans hc)]; rfl

/-! ## 3. Closing and calls -/

theorem heedless_close : Heedless Session.close := by
  constructor
  · exact fun s => recv_closeElsewhere s
  · intro later s
    cases hc : s.socket.closed with
    | true =>
      rw [close_of_closed hc]
      exact close_of_closed hc
    | false =>
      have hlater : (s.followedBy later).socket.closed = false := hc
      unfold Session.close
      rw [if_neg (ne_true_of_eq_false hc), if_neg (ne_true_of_eq_false hlater)]
      unfold release
      dsimp only
      have hreply : (s.followedBy later).socket.descriptor.script.takeClose.1
          = s.socket.descriptor.script.takeClose.1 := rfl
      rw [hreply]
      cases s.socket.descriptor.script.takeClose.1.outcome <;> rfl

theorem disturbed_followedBy (s : Session) (m : Interference) :
    (s.followedBy later).disturbed m = (s.disturbed m).followedBy later := by
  unfold disturbed
  split
  · have hsame := heedless_close.same later (s.heard m)
    unfold closeElsewhere
    show after (Session.close ((s.heard m).followedBy later)) = _
    rw [hsame]
    cases Session.close (s.heard m) <;> rfl
  · rfl

theorem recv_disturbed (s : Session) (m : Interference) :
    (s.disturbed m).socket.descriptor.script.recv = s.socket.descriptor.script.recv := by
  unfold disturbed
  split
  · exact recv_closeElsewhere _
  · rfl

/-- What is sent later does not change a reply. -/
theorem reply_followedBy {d : Descriptor} {take : Script → Reply α × Script}
    {usual : Descriptor → Except SystemFailure α}
    (htake : take (d.script.followedBy later)
      = ((take d.script).1, (take d.script).2.followedBy later))
    (husual : usual (d.followedBy later) = usual d) :
    ((d.followedBy later).reply take usual).result = (d.reply take usual).result ∧
      ((d.followedBy later).reply take usual).toInterference
        = (d.reply take usual).toInterference ∧
      ((d.followedBy later).reply take usual).descriptor
        = (d.reply take usual).descriptor.followedBy later := by
  have hscript : (d.followedBy later).script = d.script.followedBy later := rfl
  have hlater : (d.followedBy later).dead = d.dead := rfl
  cases hdead : d.dead with
  | true =>
    rw [Descriptor.reply_of_dead hdead, Descriptor.reply_of_dead (hlater.trans hdead)]
    exact ⟨rfl, rfl, rfl⟩
  | false =>
    unfold Descriptor.reply
    rw [hlater, hdead, hscript, htake, husual]
    exact ⟨rfl, rfl, rfl⟩

theorem call_followedBy {operation : Operation} {take : Script → Reply α × Script}
    {usual : Descriptor → Except SystemFailure α} {data : α → Answer} {s : Session}
    (htake : take (s.socket.descriptor.script.followedBy later)
      = ((take s.socket.descriptor.script).1,
        (take s.socket.descriptor.script).2.followedBy later))
    (husual : usual (s.socket.descriptor.followedBy later) = usual s.socket.descriptor) :
    call operation take usual data (s.followedBy later)
      = sequel later (call operation take usual data s) := by
  obtain ⟨hresult, hmeanwhile, hdescriptor⟩ := reply_followedBy htake husual
  have hafter (answer : Answer) :
      (s.followedBy later).afterCall operation answer
          ((s.socket.descriptor.followedBy later).reply take usual)
        = (s.afterCall operation answer
            (s.socket.descriptor.reply take usual)).followedBy later := by
    unfold afterCall
    rw [hmeanwhile, ← disturbed_followedBy]
    congr 1
    unfold replied
    rw [hdescriptor]
    rfl
  unfold call
  dsimp only
  rw [show (s.followedBy later).socket.descriptor = s.socket.descriptor.followedBy later from rfl,
    hresult]
  cases (s.socket.descriptor.reply take usual).result with
  | ok a => exact congrArg _ (hafter (data a))
  | error f => exact congrArg _ (hafter (.failed f))

theorem heedless_call {operation : Operation} {take : Script → Reply α × Script}
    {usual : Descriptor → Except SystemFailure α} {data : α → Answer}
    (htake : Script.RepliesTo operation take) (hne : ∀ size, operation ≠ .recv size)
    (husual : ∀ later d, usual (d.followedBy later) = usual d) :
    Heedless (call operation take usual data) := by
  have hsame (later : List (Reply Bytes)) (c : Script) :
      take (c.followedBy later) = ((take c).1, (take c).2.followedBy later) ∧
        (take c).2.recv = c.recv := by
    cases htake with
    | recv size => exact absurd rfl (hne size)
    | _ => exact ⟨rfl, rfl⟩
  constructor
  · intro s
    have hrecv : (s.socket.descriptor.reply take usual).descriptor.script.recv
        = s.socket.descriptor.script.recv := by
      cases hdead : s.socket.descriptor.dead with
      | true => rw [Descriptor.reply_of_dead hdead]
      | false => rw [Descriptor.script_reply hdead, (hsame [] _).2]
    unfold call
    dsimp only
    split <;> exact (recv_afterCall s).trans hrecv
  · exact fun later s => call_followedBy (hsame later _).1 (husual later _)

theorem heedless_outside {take : Script → Interference × Script}
    (htake : ∀ later c, take (c.followedBy later) = ((take c).1, (take c).2.followedBy later))
    (hkeeps : ∀ c, (take c).2.recv = c.recv) (x : EStateM SystemFailure System α) :
    Heedless (outside take x) := by
  have hafter (later : List (Reply Bytes)) (s : Session) (system : System) :
      (s.followedBy later).afterOutside (take (s.followedBy later).socket.descriptor.script) system
        = (s.afterOutside (take s.socket.descriptor.script) system).followedBy later := by
    have hscript : (s.followedBy later).socket.descriptor.script
        = s.socket.descriptor.script.followedBy later := rfl
    unfold afterOutside
    rw [← disturbed_followedBy, hscript, htake]
    rfl
  constructor
  · intro s
    unfold outside
    split <;> exact (recv_disturbed ..).trans (hkeeps _)
  · intro later s
    unfold outside
    have hsystem : (s.followedBy later).system = s.system := rfl
    rw [hsystem]
    cases x s.system with
    | ok a system => exact congrArg _ (hafter later s system)
    | error f system => exact congrArg _ (hafter later s system)

end Heedless

/-! ## 4. Connecting and writing -/

namespace Socket

theorem heedless_addressOf (e : End) : Heedless (addressOf e) := by
  cases e with
  | here => exact heedless_call .getsockname (fun _ h => nomatch h) fun _ _ => rfl
  | there => exact heedless_call .getpeername (fun _ h => nomatch h) fun _ _ => rfl

theorem heedless_nameOf (e : End) : Heedless (nameOf e) := by
  refine (heedless_requireOpen _).bind fun _ => Heedless.bind (.adaptExcept ?_ _) fun names => ?_
  · exact (heedless_addressOf e).bind fun address =>
      heedless_outside (fun _ _ => rfl) (fun _ => rfl) _
  · cases names with
    | mk host service =>
      dsimp only
      cases Whole.read service with
      | ok port => exact heedless_pure (host, port)
      | error why => exact heedless_throw _

theorem heedless_endpoint (e : End) : Heedless (endpoint e) :=
  ((heedless_nameOf e).bind fun _ => heedless_pure _).bind fun _ =>
    ((heedless_nameOf e).bind fun _ => heedless_pure _).bind fun _ => heedless_pure _

theorem heedless_lookUp (host : String) (service : Service) (family kind protocol : Int) :
    Heedless (do
      firstOf (← guarded (Session.outside Script.takeLookUp
        (System.lookUp host service.text? family kind protocol))) : SocketM Address) := by
  refine Heedless.bind (.adaptExcept (heedless_outside (fun _ _ => rfl) (fun _ => rfl) _) _)
    fun found => ?_
  cases found with
  | nil => exact heedless_throw _
  | cons address rest => exact heedless_pure address

theorem heedless_resolve (host : String) (service : Service) : Heedless (resolve host service) := by
  constructor
  · intro s
    cases hasks : unaskable? s.system host service with
    | some f =>
      rw [resolve_of_unaskable hasks]
      rfl
    | none =>
      rw [resolve_of_askable hasks]
      exact (heedless_lookUp ..).keeps s
  · intro later s
    cases hasks : unaskable? s.system host service with
    | some f =>
      rw [resolve_of_unaskable hasks]
      exact resolve_of_unaskable (s := s.followedBy later) hasks
    | none =>
      rw [resolve_of_askable hasks]
      refine (resolve_of_askable (s := s.followedBy later) hasks).trans ?_
      exact (heedless_lookUp ..).same later s

theorem heedless_attach (address : Address) : Heedless (attach address) :=
  (heedless_call (.connect address) (fun _ h => nomatch h) fun _ _ => rfl).bind fun _ =>
    ⟨fun _ => rfl, fun _ _ => rfl⟩

theorem heedless_connect (host : String) (service : Service) (timeout : Option Binary64) :
    Heedless (connect host service timeout) := by
  refine (heedless_requireOpen _).bind fun _ =>
    (heedless_resolve host service).bind fun address => ?_
  have hgreet : Heedless (do
      guarded (attach address)
      say .debug .socket s!"connected to {← endpoint .there}" : SocketM Unit) :=
    ((heedless_attach address).adaptExcept _).bind fun _ =>
      (heedless_endpoint .there).bind fun _ => heedless_say ..
  cases timeout with
  | none => exact hgreet
  | some seconds =>
    have hset : Heedless (bare (applyTimeout (some seconds))) :=
      (heedless_call (.setTimeout _) (fun _ h => nomatch h) fun _ _ => rfl).adaptExcept _
    exact hset.bind fun _ => hgreet

theorem heedless_write (payload : Payload) : Heedless (write payload) := by
  refine (heedless_requireOpen _).bind fun _ => Heedless.bind ?_ fun data => ?_
  · unfold written
    cases payload.toBytes with
    | ok data => exact heedless_pure data
    | error run => exact heedless_throw _
  · have hsend : Heedless (Session.act (.sendAll data) Script.takeSendAll) :=
      heedless_call (.sendAll data) (fun _ h => nomatch h) fun _ _ => rfl
    exact (hsend.adaptExcept _).bind fun _ => (heedless_say ..).bind fun _ => heedless_pure _

end Socket

/-! ## 5. Where a line ends -/

/-- The reply ends a line: a line feed comes, or nothing comes, for the stream ends or the reception
fails. -/
def Reply.EndsLine (r : Reply Bytes) : Prop :=
  Script.octets r = [] ∨ Bytes.lineFeed ∈ Script.octets r

namespace Socket

open Session

/-- The next line ends in what was received, or in what the peer sends. -/
def Settled (s : Session) : Prop :=
  Bytes.lineFeed ∈ s.socket.buffer ∨ s.socket.ended = true ∨
    ∃ r ∈ s.socket.descriptor.script.recv, r.EndsLine

variable {s t : Session} {later : List (Reply Bytes)}

theorem recv_ne_nil (h : ∃ r ∈ s.socket.descriptor.script.recv, r.EndsLine) :
    s.socket.descriptor.script.recv ≠ [] := by
  obtain ⟨r, hr, -⟩ := h
  exact List.ne_nil_of_mem hr

theorem takeRecv_followedBy {c : Script} (h : c.recv ≠ []) (size : Nat) :
    (c.followedBy later).takeRecv size
      = ((c.takeRecv size).1, (c.takeRecv size).2.followedBy later) := by
  unfold Script.takeRecv Script.followedBy
  cases hrecv : c.recv with
  | nil => exact absurd hrecv h
  | cons r rest =>
    dsimp only [List.cons_append, Reply.next]
    cases r.outcome with
    | value data =>
      dsimp only
      split <;> rfl
    | usual => rfl
    | failure f => rfl

theorem receive_followedBy (h : s.socket.descriptor.script.recv ≠ []) (size : Nat)
    (later : List (Reply Bytes)) :
    receive size (s.followedBy later) = sequel later (receive size s) := by
  unfold receive
  rw [call_followedBy (takeRecv_followedBy h size) rfl]
  cases Session.call (.recv size) (Script.takeRecv size) (fun _ => .ok []) .delivered s with
  | ok data t =>
    dsimp only [sequel]
    split <;> rfl
  | error f t => rfl

/-- What is taken of the queue ends the line, or what is left does. -/
theorem endsLine_takeRecv {c : Script} (h : ∃ r ∈ c.recv, r.EndsLine) (size : Nat) :
    (c.takeRecv size).1.EndsLine ∨ ∃ r ∈ (c.takeRecv size).2.recv, r.EndsLine := by
  obtain ⟨r, hr, hends⟩ := h
  unfold Script.takeRecv
  cases hrecv : c.recv with
  | nil =>
    rw [hrecv] at hr
    cases hr
  | cons first rest =>
    rw [hrecv] at hr
    dsimp only [Reply.next]
    cases ho : first.outcome with
    | usual => exact .inl (.inl (by rw [Script.octets, ho]))
    | failure f => exact .inl (.inl (by rw [Script.octets, ho]))
    | value data =>
      dsimp only
      rcases List.mem_cons.1 hr with rfl | hr
      · have hends : data = [] ∨ Bytes.lineFeed ∈ data := by
          rwa [Reply.EndsLine, Script.octets, ho] at hends
        by_cases hfit : data.length ≤ size
        · rw [if_pos hfit, List.take_of_length_le hfit]
          exact .inl hends
        -- The reply is too long for one reception, so it is not empty.
        · rw [if_neg hfit]
          have hline : Bytes.lineFeed ∈ data := by
            refine hends.resolve_left fun hnil => hfit ?_
            rw [hnil]
            exact Nat.zero_le _
          rw [← List.take_append_drop size data] at hline
          rcases List.mem_append.1 hline with hline | hline
          · exact .inl (.inr hline)
          · exact .inr ⟨_, List.mem_cons_self, .inr hline⟩
      · refine .inr ⟨r, ?_, hends⟩
        split
        · exact hr
        · exact List.mem_cons_of_mem _ hr

/-- A reception takes the end of the line, or leaves it to come. -/
theorem settled_stored {data : Bytes}
    (hsettled : ∃ r ∈ s.socket.descriptor.script.recv, r.EndsLine)
    (h : receive readSize s = .ok data t) : Settled (stored t data) := by
  unfold receive at h
  split at h
  · rename_i out u hcall
    obtain ⟨rfl, rfl⟩ := EStateM.Result.ok.inj h
    obtain ⟨hresult, rfl⟩ := call_eq_ok_iff.1 hcall
    obtain ⟨-, hscript, hout⟩ := Descriptor.reply_ok hresult
    by_cases hempty : out.isEmpty = true
    · rw [if_pos hempty]
      exact .inr (.inl rfl)
    rw [if_neg hempty]
    rcases hout with hout | ⟨-, hout⟩
    · have houtcome : Script.octets (s.socket.descriptor.script.takeRecv readSize).1 = out := by
        rw [Script.octets, hout]
      rcases endsLine_takeRecv hsettled readSize with (hnil | hline) | hlater
      · rw [houtcome] at hnil
        exact absurd (List.isEmpty_iff.2 hnil) hempty
      · rw [houtcome] at hline
        exact .inl (List.mem_append_right _ hline)
      · refine .inr (.inr ?_)
        show ∃ r ∈ (s.afterCall ..).socket.descriptor.script.recv, r.EndsLine
        rwa [recv_afterCall, hscript]
    · obtain rfl := Except.ok.inj hout
      exact absurd rfl hempty
  · cases h

/-! A read of a line makes one step after the other. -/

theorem readRaw_of_cut {line rest : Bytes}
    (h : Bytes.cut? Bytes.lineFeed s.socket.buffer = some (line, rest)) :
    readRaw s = .ok line { s with socket.buffer := rest } := by
  rw [readRaw, h]

theorem readRaw_of_ended (hcut : Bytes.cut? Bytes.lineFeed s.socket.buffer = none)
    (hended : s.socket.ended = true) :
    readRaw s = .ok s.socket.buffer { s with socket.buffer := [] } := by
  rw [readRaw, hcut]
  exact dif_pos hended

section Receptions

variable (hcut : Bytes.cut? Bytes.lineFeed s.socket.buffer = none)
  (hended : ¬ s.socket.ended = true)

include hcut hended

theorem readRaw_of_failed {e : Failure} (h : receive readSize s = .error e t) :
    readRaw s = .error e t := by
  rw [readRaw, hcut]
  dsimp only
  rw [dif_neg hended]
  split
  · rename_i h'
    exact h'.symm.trans h
  · rename_i h'
    cases h'.symm.trans h

theorem readRaw_of_received {data : Bytes} (h : receive readSize s = .ok data t) :
    readRaw s = readRaw (stored t data) := by
  rw [readRaw, hcut]
  dsimp only
  rw [dif_neg hended]
  split
  · rename_i h'
    cases h'.symm.trans h
  · rename_i h'
    obtain ⟨rfl, rfl⟩ := EStateM.Result.ok.inj (h'.symm.trans h)
    rfl

end Receptions

/-- **A line that ends** is read as if the peer sent nothing after it. Induction on the receptions:
each of them takes the end of the line or leaves it to come. -/
theorem readRaw_followedBy (h : Settled s) (later : List (Reply Bytes)) :
    readRaw (s.followedBy later) = sequel later (readRaw s) := by
  fun_induction readRaw s with
  | case1 s line rest hcut => exact readRaw_of_cut (s := s.followedBy later) hcut
  | case2 s hcut hended => exact readRaw_of_ended (s := s.followedBy later) hcut hended
  | case3 s hcut hended e t hreceive =>
    have hcoming := (h.resolve_left (Bytes.cut?_eq_none_iff.1 hcut)).resolve_left hended
    have hsame := receive_followedBy (recv_ne_nil hcoming) readSize later
    rw [hreceive] at hsame
    exact readRaw_of_failed (s := s.followedBy later) hcut hended hsame
  | case4 s hcut hended data t hreceive ih =>
    have hcoming := (h.resolve_left (Bytes.cut?_eq_none_iff.1 hcut)).resolve_left hended
    have hsame := receive_followedBy (recv_ne_nil hcoming) readSize later
    rw [hreceive] at hsame
    rw [readRaw_of_received (s := s.followedBy later) hcut hended hsame]
    exact ih (settled_stored hcoming hreceive)

theorem readLine_followedBy (h : Settled s) (later : List (Reply Bytes)) :
    readLine (s.followedBy later) = sequel later (readLine s) := by
  cases hc : s.socket.closed with
  | true =>
    rw [readLine_of_closed hc]
    exact readLine_of_closed (s := s.followedBy later) hc
  | false =>
    have hsame := readRaw_followedBy h later
    cases hr : readRaw s with
    | ok raw t =>
      rw [hr] at hsame
      rw [readLine_of_ok hc hr]
      exact readLine_of_ok (s := s.followedBy later) hc hsame
    | error e t =>
      rw [hr] at hsame
      rw [readLine_of_error hc hr]
      exact readLine_of_error (s := s.followedBy later) hc hsame

end Socket

end HttpProbe
