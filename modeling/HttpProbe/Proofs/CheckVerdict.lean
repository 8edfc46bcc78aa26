import HttpProbe.Proofs.CheckCalls
import HttpProbe.Proofs.Utf8Reading

/-!
# The verdict in octets

A check tests the text of the first line, and the text is read from octets that need not be
well-formed. Still the verdict is one on octets:

* `verdict`: what a check comes to, told from the octets of the first line alone. They have to begin
  with the octets of the expected text;
* `startsWith_decode`: reading octets as text neither makes up an expected text nor hides one,
  unless the replacement character is expected;
* **`outcome_check`**: a check in which no call fails comes to the verdict on what the peer sends
  before its first line feed, however it is cut into parts and whatever comes after it.
-/

namespace HttpProbe.Check

/-- What a check comes to when no call fails and the octets of the first line are `line`. -/
def verdict (order : Order) (line : Bytes) : Except Refusal Result :=
  match order.request.toBytes with
  | .error why => .error (.request why)
  | .ok _ =>
    if Utf8.encode order.expected <+: line then
      .ok { host := order.host, service := order.service.display, line := Utf8.decode line,
            status := (StatusLine.ofText (Utf8.decode line)).toOption }
    else .error (.invalidLine (Utf8.decode line) order.expected)

/-! ## 1. The test of the line -/

theorem startsWith_decode {expected : String} (h : Utf8.replacement ∉ expected.toList)
    (line : Bytes) :
    StatusLine.startsWith (Utf8.decode line) expected = true ↔ Utf8.encode expected <+: line := by
  rw [StatusLine.startsWith_iff, Utf8.toList_decode, Utf8.prefix_decodeChars_iff h, Utf8.encode]

theorem outcome_judge {order : Order} (h : Utf8.replacement ∉ order.expected.toList) {data : Bytes}
    (hdata : order.request.toBytes = .ok data) (line : Bytes) (t : System) :
    outcome (judge order (Utf8.decode line) t) = verdict order line := by
  unfold judge verdict
  rw [hdata]
  dsimp only
  by_cases hstarts : Utf8.encode order.expected <+: line
  · rw [if_pos hstarts, if_pos ((startsWith_decode h line).2 hstarts)]
    cases StatusLine.ofText (Utf8.decode line) <;> rfl
  · rw [if_neg hstarts, if_neg fun e => hstarts ((startsWith_decode h line).1 e)]
    rfl

/-! ## 2. Calls that fail -/

theorem isFailedCall_of_cut {kinds : List CallKind} {es : List Event} {f : SystemFailure}
    (h : Cut kinds es f) : ∃ e ∈ es, e.isFailedCall = true := by
  induction h with
  | here _ => exact ⟨_, List.mem_cons_self, rfl⟩
  | later _ _ ih =>
    obtain ⟨e, he, hfailed⟩ := ih
    exact ⟨e, List.mem_cons_of_mem _ he, hfailed⟩

theorem isFailedCall_of_receptions {n : Nat} {es : List Event} {failure : Option SystemFailure}
    (h : Socket.Receptions n es failure) (hf : failure ≠ none) :
    ∃ e ∈ es, e.isFailedCall = true := by
  induction h with
  | last _ => exact absurd rfl hf
  | failed => exact ⟨_, List.mem_cons_self, rfl⟩
  | more _ _ _ ih =>
    obtain ⟨e, he, hfailed⟩ := ih hf
    exact ⟨e, List.mem_cons_of_mem _ he, hfailed⟩

theorem isFailedCall_of_trace {n : Nat} {kinds : List CallKind} {es : List Event}
    {failure : Option SystemFailure} (h : Trace n kinds es failure) (hf : failure ≠ none) :
    ∃ e ∈ es, e.isFailedCall = true := by
  cases h with
  | cut h => exact isFailedCall_of_cut h
  | whole _ hr =>
    obtain ⟨e, he, hfailed⟩ := isFailedCall_of_receptions hr hf
    exact ⟨e, List.mem_append_right _ he, hfailed⟩

/-! ## 3. The whole check -/

/-- **The verdict in octets.** Let nobody else close the socket of the check, let its host be one
that can be looked up, and let what the check is told be readable. If no call fails, the check comes
to the verdict on the octets that the peer sends before its first line feed. -/
theorem outcome_check (order : Order) (s : System) (script : Script) (hs : Obliging order s)
    (hscript : nextSocket s = .ok script)
    (hasks : Socket.unaskable? s order.host order.service = none)
    (hplain : Utf8.replacement ∉ order.expected.toList)
    (hok : ∀ es, s.Noted (after (check order s)) es → ∀ e ∈ es, e.isFailedCall = false) :
    outcome (check order s) = verdict order (Bytes.firstLine (Script.sent script.recv)) := by
  cases hdata : order.request.toBytes with
  | error run =>
    rw [check_of_unencodable hdata, verdict, hdata]
    rfl
  | ok data =>
    obtain ⟨es, failure, closing, htrace, hnoted, hends⟩ := concludes_check hs hdata hscript hasks
    have hgood := hok _ hnoted
    generalize check order s = r at hends
    cases hends with
    | closeFailed =>
      have hclose := hgood _ (List.mem_append_right _ List.mem_cons_self)
      cases hclose
    | @failed f t =>
      obtain ⟨e, he, hfailed⟩ := isFailedCall_of_trace htrace (Option.some_ne_none f)
      have hfine := hgood e (List.mem_append_left _ (List.mem_cons_of_mem _ he))
      exact absurd (hfine.symm.trans hfailed) Bool.false_ne_true
    | judged hsent => rw [outcome_judge hplain hdata, hsent]

/-- A server whose first line comes in two parts and holds an octet that stands for no character. -/
def cutScript : Script where
  recv := [{ outcome := .value [72, 84, 84, 80, 47, 49] },
    { outcome := .value [46, 48, 32, 50, 48, 48, 32, 0xFF, 10, 0xFF, 10] }]

def cutOrder : Order := { host := "127.0.0.1", service := .numbered 8080 }

def cutSystem : System where
  sockets := [.ok cutScript]

theorem outcome_check_cut :
    Obliging cutOrder cutSystem ∧ nextSocket cutSystem = .ok cutScript ∧
    Socket.unaskable? cutSystem cutOrder.host cutOrder.service = none ∧
    Utf8.replacement ∉ cutOrder.expected.toList ∧
    (∀ es, cutSystem.Noted (after (check cutOrder cutSystem)) es →
      ∀ e ∈ es, e.isFailedCall = false) ∧
    outcome (check cutOrder cutSystem)
      = verdict cutOrder (Bytes.firstLine (Script.sent cutScript.recv)) ∧
    verdict cutOrder (Bytes.firstLine (Script.sent cutScript.recv))
      = .ok ⟨"127.0.0.1", "8080", "HTTP/1.0 200 \uFFFD", some ⟨"HTTP/1.0", 200, "\uFFFD"⟩⟩ := by
  have hs : Obliging cutOrder cutSystem := by
    refine ⟨fun addresses h => ?_, (fun names h => nomatch h), fun script h => ?_⟩
    · cases h
      exact ⟨_, _, rfl, Address.numbered_of_port (by decide) (by decide)⟩
    · cases h
      exact ⟨by decide,
        (fun r hr => nomatch hr), fun r hr => nomatch hr⟩
  have hplain : Utf8.replacement ∉ cutOrder.expected.toList := by decide
  have hok : ∀ es, cutSystem.Noted (after (check cutOrder cutSystem)) es →
      ∀ e ∈ es, e.isFailedCall = false := by
    have hall : ∀ e ∈ (after (check cutOrder cutSystem)).events.toList,
        e.isFailedCall = false := by
      decide +kernel
    intro es hes
    have heq : (after (check cutOrder cutSystem)).events.toList = es := hes
    exact heq ▸ hall
  have hasks : Socket.unaskable? cutSystem cutOrder.host cutOrder.service = none := by decide
  exact ⟨hs, rfl, hasks, hplain, hok,
    outcome_check cutOrder cutSystem cutScript hs rfl hasks hplain hok,
    by decide +kernel⟩

end HttpProbe.Check
