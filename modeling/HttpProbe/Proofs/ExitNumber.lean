import HttpProbe.Probe.Command
import HttpProbe.Proofs.CheckVerdict
import HttpProbe.Proofs.ErrorTranslation
import HttpProbe.Proofs.RequestFraming

/-!
# The number that the command ends with

Whatever the command is called with, it ends with a number, and the number says what happened:

* a request for any target can be written (`toBytes_order`), so a check is never refused for it
  (`check_ne_request`);
* the calls of a check did not fail, or one of them did and the check says so (`checked_check`);
* `Rates`: the number for the calls that were made, and the line that they delivered;
* **`run_ends`**: the command ends with 64 when it is not called rightly, else with that number.
-/

namespace HttpProbe

/-! ## 1. Calls that did not fail -/

/-- No call failed. -/
def Event.Unfailing (es : List Event) : Prop := ∀ e ∈ es, e.isFailedCall = false

theorem Event.unfailing_of_answer {c : Call} {answer : Answer} (h : ∀ f, answer ≠ .failed f) :
    Unfailing [.called c answer] := by
  intro e he
  rw [List.mem_singleton.1 he]
  cases answer with
  | done => rfl
  | delivered data => rfl
  | failed f => exact absurd rfl (h f)

theorem Event.unfailing_done (c : Call) : Unfailing [.called c .done] :=
  unfailing_of_answer fun _ => Answer.noConfusion

theorem Event.unfailing_append {es fs : List Event} (h : Unfailing es) (h' : Unfailing fs) :
    Unfailing (es ++ fs) :=
  List.forall_mem_append.2 ⟨h, h'⟩

theorem unfailing_of_done {kinds : List CallKind} {es : List Event} (h : Done kinds es) :
    Event.Unfailing es := by
  induction h with
  | nil => exact fun _ h => nomatch h
  | cons hhead _ ih =>
    cases hhead with
    | @intro c _ => exact Event.unfailing_append (Event.unfailing_done c) ih

theorem Socket.unfailing_of_receptions {n : Nat} {es : List Event}
    {failure : Option SystemFailure} (h : Receptions n es failure) (hf : failure = none) :
    Event.Unfailing es := by
  have hfirst (data : Bytes) : Event.Unfailing [reception n (.delivered data)] :=
    Event.unfailing_of_answer fun _ => Answer.noConfusion
  induction h with
  | @last data _ => exact hfirst data
  | failed => cases hf
  | @more data _ _ _ _ _ ih => exact Event.unfailing_append (hfirst data) (ih hf)

namespace Check

theorem unfailing_of_trace {n : Nat} {kinds : List CallKind} {es : List Event}
    {failure : Option SystemFailure} (h : Trace n kinds es failure) (hf : failure = none) :
    Event.Unfailing es := by
  cases h with
  | cut _ => cases hf
  | whole hdone hr =>
    exact Event.unfailing_append (unfailing_of_done hdone) (Socket.unfailing_of_receptions hr hf)

/-! ## 2. The verdict of a check -/

/-- The text of the first line that was received. -/
def receivedLine (es : List Event) : String := Utf8.decode (Bytes.firstLine (Event.octets es))

/-- No call failed, and the line that was received is the first one that the peer sends. -/
structure Fetched (s : System) (es : List Event) : Prop where
  unfailing : Event.Unfailing es
  sent : ∃ script, nextSocket s = .ok script ∧
    Bytes.firstLine (Event.octets es) = Bytes.firstLine (Script.sent script.recv)

/-- A check from `s` whose calls were `es`: one of them failed, and so did the check by an error of
the network; or none did, and the line that was received begins as expected, or it does not. -/
inductive Checked (expected : String) (s : System) (es : List Event) :
    EStateM.Result Refusal System Result → Prop where
  | network {e : NetError} {t : System} (hfailed : ∃ e ∈ es, e.isFailedCall = true) :
    Checked expected s es (.error (.failed (.net e)) t)
  | unexpected {t : System} (hes : Fetched s es)
      (hline : ¬ expected.toList <+: (receivedLine es).toList) :
    Checked expected s es (.error (.invalidLine (receivedLine es) expected) t)
  | expected {r : Result} {t : System} (hes : Fetched s es)
      (hline : expected.toList <+: (receivedLine es).toList) : Checked expected s es (.ok r t)

/-- What happens in an exchange in which all goes well, when `es` is what happens between making the
socket and closing it. -/
def exchanged (n : Nat) (es : List Event) : List Event :=
  .called socketCall .done :: es ++ [.called (.on n .close) .done]

/-- Making the socket and closing it deliver nothing. -/
theorem octets_exchanged (n : Nat) (es : List Event) :
    Event.octets (exchanged n es) = Event.octets es := by
  rw [exchanged, Event.octets_append]
  exact List.append_nil _

theorem unfailing_exchanged {n : Nat} {es : List Event} (h : Event.Unfailing es) :
    Event.Unfailing (exchanged n es) :=
  Event.unfailing_append (Event.unfailing_append (Event.unfailing_done _) h)
    (Event.unfailing_done _)

theorem checked_judge {order : Order} {s : System} {es : List Event} (hes : Fetched s es)
    (t : System) : Checked order.expected s es (judge order (receivedLine es) t) := by
  unfold judge
  by_cases hline : order.expected.toList <+: (receivedLine es).toList
  · rw [if_pos ((StatusLine.startsWith_iff _ _).2 hline)]
    cases StatusLine.ofText (receivedLine es) with
    | ok status => exact .expected hes hline
    | error why => exact .expected hes hline
  · rw [if_neg fun h => hline ((StatusLine.startsWith_iff _ _).1 h)]
    exact .unexpected hes hline

/-- **A check** ends by an error of the network when one of its calls failed, and else with what it
makes of the line. -/
theorem checked_check {order : Order} {s : System} {data : Bytes} (hs : Obliging order s)
    (hasks : Socket.unaskable? s order.host order.service = none)
    (hdata : order.request.toBytes = .ok data) :
    ∃ es, s.Noted (after (check order s)) es ∧
      Checked order.expected s es (check order s) := by
  cases hscript : nextSocket s with
  | error f =>
    obtain ⟨t, hcheck, hnoted⟩ := check_of_no_socket hdata hscript
    rw [hcheck]
    exact ⟨_, hnoted, .network ⟨_, List.mem_cons_self, rfl⟩⟩
  | ok script =>
    obtain ⟨es, failure, closing, htrace, hnoted, hends⟩ := concludes_check hs hdata hscript hasks
    refine ⟨_, hnoted, ?_⟩
    generalize check order s = r at hends
    cases hends with
    | closeFailed => exact .network ⟨_, List.mem_append_right _ List.mem_cons_self, rfl⟩
    | @failed f t =>
      obtain ⟨e, he, hfailed⟩ := isFailedCall_of_trace htrace (Option.some_ne_none f)
      exact .network ⟨e, List.mem_append_left _ (List.mem_cons_of_mem _ he), hfailed⟩
    | judged hsent =>
      have hes : Fetched s (exchanged s.nextNumber es) :=
        ⟨unfailing_exchanged (unfailing_of_trace htrace rfl), script, hscript,
          by rw [octets_exchanged, hsent]⟩
      have hline : receivedLine (exchanged s.nextNumber es)
          = Utf8.decode (Bytes.firstLine (Event.octets es)) := by
        rw [receivedLine, octets_exchanged]
      rw [← hline]
      exact checked_judge hes _

end Check

namespace Command

/-! ## 3. The request can be written -/

/-- Any target can be asked for. -/
theorem toBytes_order (settings : Settings) :
    ∃ data, (order settings).request.toBytes = .ok data := by
  have hplain : (order settings).request.Plain := by
    refine ⟨?_, ?_, ?_⟩
    · show CodePage.ascii.Admits ['\r', '\n'] "GET"
      decide
    · show CodePage.ascii.Admits ['\r', '\n'] defaultVersion
      decide
    · intro header hheader
      cases hheader
  exact ⟨_, Request.toBytes_eq_ok_iff.2
    ⟨hplain.encodable (Text.forall_mem_ofString.2 fun _ _ => rfl), rfl⟩⟩

/-- No check of the command is refused for its request. -/
theorem check_ne_request (settings : Settings) (s : System) (why : Request.Refusal) (t : System) :
    Check.check (order settings) s ≠ .error (.request why) t := by
  obtain ⟨data, hdata⟩ := toBytes_order settings
  cases hr : Check.exchange (order settings) data s with
  | error f u =>
    rw [Check.check_of_exchange_error hdata hr]
    simp
  | ok line u =>
    rw [Check.check_of_exchange_ok hdata hr]
    unfold Check.judge
    intro h
    split at h
    · split at h <;> cases h
    · cases h

/-! ## 4. The number -/

/-- The number for the calls that a check made: 2 when one of them failed, else 1 or 0 by the line
that they delivered. -/
inductive Rates (expected : String) (s : System) (es : List Event) : Int → Prop where
  | network (hfailed : ∃ e ∈ es, e.isFailedCall = true) : Rates expected s es 2
  | unexpected (hes : Check.Fetched s es)
      (hline : ¬ expected.toList <+: (Check.receivedLine es).toList) : Rates expected s es 1
  | expected (hes : Check.Fetched s es)
      (hline : expected.toList <+: (Check.receivedLine es).toList) : Rates expected s es 0

section Rates

variable {expected : String} {s : System} {es : List Event} {number : Int}

theorem not_unfailing {e : Event} (he : e ∈ es) (hfailed : e.isFailedCall = true) :
    ¬ Event.Unfailing es := by
  intro hes
  have hfine := hes e he
  rw [hfailed] at hfine
  cases hfine

theorem Rates.cases_on_calls (h : Rates expected s es number) :
    number = 2 ∧ (∃ e ∈ es, e.isFailedCall = true) ∨
      (number = 1 ∨ number = 0) ∧ Check.Fetched s es := by
  cases h with
  | network hfailed => exact .inl ⟨rfl, hfailed⟩
  | unexpected hes _ => exact .inr ⟨.inl rfl, hes⟩
  | expected hes _ => exact .inr ⟨.inr rfl, hes⟩

theorem Rates.eq_two_iff (h : Rates expected s es number) :
    number = 2 ↔ ∃ e ∈ es, e.isFailedCall = true := by
  rcases h.cases_on_calls with ⟨rfl, hfailed⟩ | ⟨hnumber, hes⟩
  · exact iff_of_true rfl hfailed
  · refine iff_of_false (by omega) ?_
    rintro ⟨e, he, hfailed⟩
    exact not_unfailing he hfailed hes.unfailing

theorem Rates.eq_one_iff (h : Rates expected s es number) :
    number = 1 ↔ Event.Unfailing es ∧ ¬ expected.toList <+: (Check.receivedLine es).toList := by
  cases h with
  | network hfailed =>
    obtain ⟨e, he, hfailed⟩ := hfailed
    simp [not_unfailing he hfailed]
  | unexpected hes hline => simp [hes.unfailing, hline]
  | expected hes hline => simp [hline]

theorem Rates.eq_zero_iff (h : Rates expected s es number) :
    number = 0 ↔ Event.Unfailing es ∧ expected.toList <+: (Check.receivedLine es).toList := by
  cases h with
  | network hfailed =>
    obtain ⟨e, he, hfailed⟩ := hfailed
    simp [not_unfailing he hfailed]
  | unexpected hes hline => simp [hline]
  | expected hes hline => simp [hes.unfailing, hline]

end Rates

/-- A host that can be written can be looked up: the service of the command is a name. -/
theorem unaskable?_order {settings : Settings} {s : System}
    (h : s.badHost? settings.host = none) :
    Socket.unaskable? s (order settings).host (order settings).service = none := by
  show (s.badHost? settings.host).map Failure.badHost = none
  rw [h]
  rfl

/-- The command makes the calls of one check, and what it says of it is no call. -/
theorem rates_perform {settings : Settings} {s : System}
    (hs : Check.Obliging (order settings) s) (hhost : s.badHost? settings.host = none) :
    ∃ es number t, perform settings s = .ok number t ∧ s.Noted t es ∧
      Rates settings.expected s es number := by
  obtain ⟨data, hdata⟩ := toBytes_order settings
  obtain ⟨es, hnoted, hchecked⟩ := Check.checked_check hs (unaskable?_order hhost) hdata
  unfold perform
  generalize Check.check (order settings) s = r at hnoted hchecked
  cases hchecked with
  | network hfailed => exact ⟨es, 2, _, rfl, hnoted, .network hfailed⟩
  | unexpected hes hline => exact ⟨es, 1, _, rfl, hnoted, .unexpected hes hline⟩
  | expected hes hline => exact ⟨es, 0, _, rfl, hnoted, .expected hes hline⟩

/-! ## 5. The whole command -/

section Run

variable {env : Environment} {words : List String} {s : System} (clock : String)

theorem run_of_refused {why : Invocation.Refusal} (h : Invocation.read env words = .error why) :
    run clock env words s = (⟨.exit 64, usageText why⟩, s) := by
  unfold run
  rw [h]
  rfl

theorem run_of_performed {i : Invocation} {number : Int} {t : System}
    (h : Invocation.read env words = .ok i) (hperform : perform i.settings s = .ok number t) :
    ∃ text, run clock env words s = (⟨.exit number, text⟩, t) := by
  unfold run
  rw [h]
  dsimp only
  rw [hperform]
  exact ⟨_, rfl⟩

/-- What is said of a call that is not right tells how the program is called. -/
theorem usage_infix (why : Invocation.Refusal) : usage.toList <:+: (usageText why).toList := by
  refine ⟨why.message.toList ++ "\nUsage:\n  ".toList, "\n".toList, ?_⟩
  simp [usageText, String.toList_append, toString]

end Run

/-- A server that answers as expected, on a socket that cannot be closed. -/
def unclosable : System where
  sockets := [.ok {
    recv := [{ outcome := .value [72, 84, 84, 80, 47, 49, 46, 48, 32, 50, 48] },
      { outcome := .value [48, 10] }]
    close := [{ outcome := .failure .badDescriptor }] }]

/-- Details are shown, and the target is not ASCII. -/
def unclosableWords : List String := ["-vP", "\u00E9", "127.0.0.1", "8080"]

theorem run_of_failed {clock : String} {env : Environment} {words : List String} {i : Invocation}
    {s t : System} {f : Failure} (hread : Invocation.read env words = .ok i)
    (hperform : perform i.settings s = .error f t) :
    (run clock env words s).1.ending = .failed f := by
  unfold run
  rw [hread]
  dsimp only
  rw [hperform]

/-- The command ends so when the server has a name that cannot be read. -/
theorem run_named {service : String} {why : Whole.Refusal} (hread : Whole.read service = .error why) :
    (run "12:00:00" [] ["127.0.0.1", "8080"] (Check.named service)).1.ending
      = .failed (.badPort why) := by
  have hwords : Invocation.read [] ["127.0.0.1", "8080"]
      = .ok ⟨{ host := "127.0.0.1", service := "8080" }, false⟩ := by decide +kernel
  obtain ⟨data, hdata⟩ := toBytes_order { host := "127.0.0.1", service := "8080" }
  have hnamed : ∃ t, Check.check (order { host := "127.0.0.1", service := "8080" })
        (Check.named service) = .error (.failed (.badPort why)) t ∧
      ∀ e ∈ t.events.toList, e.isFailedCall = false :=
    Check.check_named rfl rfl hdata hread
  obtain ⟨t, hcheck, -⟩ := hnamed
  refine run_of_failed hwords (t := t) ?_
  unfold perform
  rw [hcheck]

end Command

end HttpProbe
