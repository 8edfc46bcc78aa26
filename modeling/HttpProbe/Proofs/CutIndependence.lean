import HttpProbe.Proofs.RequestReceptions
import HttpProbe.Proofs.VisitDiscipline

/-!
# The request line however the request is cut

A responder notes all that it took of a request, and the line that it asked with. How much it takes
depends on how the octets come in parts. The line does not:

* `Session.Blames`: a run that fails notes a call that failed (`Blames.bind`), and so does naming
  the peer (`blames_endpoint`);
* `Peer.stops_ofParts`: of parts and the end of the stream a request takes all octets, or as many of
  the first ones as are enough;
* `Head.line_of_taken`: these have the same first line;
* `Site.Hears`: a visit to which parts come and then the end of the stream, and in which no call
  fails; `Hears.takes`: what it notes;
* **`line_independent_of_cut`**: so two visits that hear the same octets note the same line.
-/

namespace HttpProbe

/-! ## 1. Failures show -/

/-- What happened since `s` was noted, and a failed call with it if the run failed. -/
inductive Session.Blames {ε α : Type} (s : Session) : EStateM.Result ε Session α → Prop where
  | ok {a : α} {t : Session} {es : List Event} (hes : s.system.Noted t.system es) :
    Blames s (.ok a t)
  | error {f : ε} {t : Session} {es : List Event} {e : Event} (hes : s.system.Noted t.system es)
      (he : e ∈ es) (hfailed : e.isFailedCall = true) : Blames s (.error f t)

namespace Session.Blames

variable {ε α β : Type} {s : Session}

theorem bind {x : EStateM ε Session α} {k : α → EStateM ε Session β} (hx : Blames s (x s))
    (hk : ∀ a t, x s = .ok a t → Blames t (k a t)) : Blames s ((x >>= k) s) := by
  cases hr : x s with
  | error f t =>
    rw [hr] at hx
    rw [bind_of_error hr]
    cases hx with
    | error hes he hfailed => exact .error hes he hfailed
  | ok a t =>
    rw [hr] at hx
    rw [bind_of_ok hr]
    cases hx with
    | ok hes =>
      have hnext := hk a t hr
      generalize k a t = r at hnext
      cases hnext with
      | ok hes' => exact .ok (hes.trans hes')
      | error hes' he hfailed =>
        exact .error (hes.trans hes') (List.mem_append_right _ he) hfailed

theorem pure (a : α) : Blames s (.ok a s : EStateM.Result ε Session α) := .ok (.refl _)

theorem guarded {x : CallM α} (hx : Blames s (x s)) : Blames s (guarded x s) := by
  cases hr : x s with
  | ok a t =>
    rw [hr] at hx
    rw [guarded_of_ok hr]
    cases hx with
    | ok hes => exact .ok hes
  | error f t =>
    rw [hr] at hx
    rw [guarded_of_error hr]
    cases hx with
    | error hes he hfailed => exact .error hes he hfailed

end Session.Blames

namespace Socket

open Session

section Naming

variable {s : Session} (hn : Nameable s)

include hn

theorem blames_addressOf : Blames s (addressOf .there s) := by
  have hclosing := Reply.closing_next hn.asked
  cases hr : addressOf .there s with
  | ok a t =>
    obtain ⟨-, rfl⟩ := Session.call_ok hclosing hr
    exact .ok (Session.called_settled _ (·.takeGetpeername)).noted
  | error f t =>
    obtain ⟨-, rfl⟩ := Session.call_error hclosing hr
    exact .error (Session.called_settled _ (·.takeGetpeername)).noted List.mem_cons_self rfl

theorem blames_describe (a : Address) :
    Blames s (outside Script.takeDescribe (System.describe a) s) := by
  rw [outside_quiet (Interference.closing_next hn.described), System.describe_eq]
  cases s.system.named a with
  | ok names => exact .ok (System.Noted.note ..)
  | error f => exact .error (System.Noted.note ..) List.mem_cons_self rfl

theorem blames_nameOf (hopen : s.socket.closed = false) (hs : s.Legible) :
    Blames s (nameOf .there s) := by
  unfold nameOf
  rw [bind_of_ok (requireOpen_of_open hopen _)]
  refine Blames.bind (.guarded (.bind (blames_addressOf hn) fun a t ha =>
    blames_describe (addressOf_eq_ok hn ha).2 a)) ?_
  intro names t hnames
  obtain ⟨port, hport⟩ := numeric_of_described hs (ok_of_guarded hnames)
  dsimp only
  rw [hport]
  exact .pure _

/-- Naming the peer fails only when a call fails. -/
theorem blames_endpoint (hopen : s.socket.closed = false) (hs : s.Legible) :
    Blames s (endpoint .there s) := by
  refine Blames.bind (.bind (blames_nameOf hn hopen hs) fun _ _ _ => .pure _) fun host t hhost => ?_
  obtain ⟨names, u, hnames, hrest⟩ := exists_of_bind_ok hhost
  obtain ⟨-, rfl⟩ := EStateM.Result.ok.inj hrest
  obtain ⟨haside, ht⟩ := nameOf_eq_ok hn hnames
  have hleft : u.Legible := by
    have hsteps : Stepwise Permit.asking (nameOf .there) := stepwise_nameOf fun _ _ => .inl rfl
    exact (hsteps.of_ok hnames).legible hs
  have hport := blames_nameOf ht (haside.keeps.closed.trans hopen) hleft
  exact .bind (.bind hport fun _ _ _ => .pure _) fun _ _ _ => .pure _

end Naming

end Socket

/-! ## 2. Parts and the end of the stream -/

namespace Peer

open Head

variable {parts : List Part} {k m : Nat} {outcome : Except Failure Bytes}

theorem received_ofParts (parts : List Part) (k : Nat) :
    (ofParts parts).received k = (parts.take k).flatMap Part.octets := by
  induction k with
  | zero => rfl
  | succ k ih =>
    rw [received, ih, List.take_add_one, List.flatMap_append, ofParts]
    cases parts[k]? with
    | none => rfl
    | some p => rw [Option.toList_some, List.flatMap_singleton]; rfl

theorem le_length_of_delivers (h : (ofParts parts).Delivers k) : k ≤ parts.length := by
  cases k with
  | zero => exact Nat.zero_le _
  | succ j =>
    obtain ⟨p, hp⟩ := h j (Nat.lt_succ_self j)
    refine Nat.lt_of_not_le fun hle => ?_
    rw [ofParts, List.getElem?_eq_none hle] at hp
    cases hp

/-- **Of these parts** a request takes as many as are enough, or all. -/
theorem stops_ofParts (hk : (ofParts parts).Needs k) (hstops : (ofParts parts).Stops k m outcome) :
    m ≤ parts.length + 1 ∧ ∃ taken, outcome = .ok taken ∧
      taken <+: parts.flatMap Part.octets ∧
      (Enough taken ∨ taken = parts.flatMap Part.octets) := by
  have hle := le_length_of_delivers hk.delivers
  have hprefix : (ofParts parts).received k <+: parts.flatMap Part.octets := by
    refine ⟨(parts.drop k).flatMap Part.octets, ?_⟩
    rw [received_ofParts, ← List.flatMap_append, List.take_append_drop]
  cases hstops with
  | enough h => exact ⟨Nat.le_succ_of_le hle, _, rfl, hprefix, .inl h⟩
  | ended _ h =>
    refine ⟨Nat.succ_le_succ hle, _, rfl, hprefix, .inr ?_⟩
    have hall : parts.length ≤ k := by
      refine Nat.le_of_not_lt fun hlt => ?_
      rw [ofParts, List.getElem?_eq_getElem hlt] at h
      cases h
    rw [received_ofParts, List.take_of_length_le hall]
  | failed _ h =>
    rw [ofParts] at h
    cases hpart : parts[k]? with
    | none => rw [hpart] at h; cases h
    | some p => rw [hpart] at h; cases h

end Peer

/-! ## 3. The line -/

namespace Head

/-- What comes after a line feed does not change the line. -/
theorem line_append {data : Bytes} (h : Bytes.lineFeed ∈ data) (rest : Bytes) :
    line (data ++ rest) = line data := by
  obtain ⟨first, after, rfl, hfirst⟩ := List.eq_append_cons_of_mem h
  rw [line, line, if_pos h, if_pos (List.mem_append_left _ h), List.append_assoc, List.cons_append,
    Bytes.firstLine_append_lineFeed hfirst, Bytes.firstLine_append_lineFeed hfirst]

/-- The octets are fewer than would be enough without a blank line, or a line feed stands among the
first that would be. -/
def LineWithin (whole : Bytes) : Prop :=
  whole.length < maxLength ∨ Bytes.lineFeed ∈ whole.take maxLength

/-- Octets that are enough hold the first line feed. -/
theorem lineFeed_mem_of_enough {taken whole : Bytes} (hwhole : LineWithin whole)
    (htaken : taken <+: whole) (h : Enough taken) : Bytes.lineFeed ∈ taken := by
  rcases h with h | h | hlong
  · exact h.subset (by decide)
  · exact h.subset (by decide)
  · rcases hwhole with hshort | hmem
    · exact absurd (Nat.le_trans hlong htaken.length_le) (Nat.not_le_of_lt hshort)
    · obtain ⟨rest, rfl⟩ := htaken
      rw [List.take_append_of_le_length hlong] at hmem
      exact List.mem_of_mem_take hmem

/-- **Whatever was taken**, its first line is that of all octets. -/
theorem line_of_taken {taken whole : Bytes} (hwhole : LineWithin whole) (htaken : taken <+: whole)
    (h : Enough taken ∨ taken = whole) : line taken = line whole := by
  rcases h with henough | rfl
  · have hmem := lineFeed_mem_of_enough hwhole htaken henough
    obtain ⟨rest, rfl⟩ := htaken
    exact (line_append hmem rest).symm
  · rfl

end Head

/-! ## 4. Two visits -/

namespace Site

open Socket Responder

/-- To the visit of the connection these parts come and then the end of the stream, and no call of
the visit fails. -/
structure Hears (s : Site) (c : Socket) (parts : List Part) : Prop where
  legible : (⟨c, s.system⟩ : Session).Legible
  nameable : Nameable ⟨c, s.system⟩
  awaits : Awaits ⟨c, s.system⟩ (Peer.ofParts parts) (parts.length + 1)
  unfailing : ∀ es, s.system.Noted (s.handle c).system es → ∀ e ∈ es, e.isFailedCall = false

/-- The visit of the connection notes these octets and this line. -/
structure Notes (s : Site) (c : Socket) (taken : Bytes) (line : String) : Prop where
  received : (s.handle c).responder.received.toList = s.responder.received.toList ++ [taken]
  requests : (s.handle c).responder.requests.toList = s.responder.requests.toList ++ [line]

section Visit

variable {s : Site} {c : Socket} {parts : List Part}

/-- No call fails, so the peer gets a name. -/
theorem Hears.named (h : s.Hears c parts) :
    ∃ client t, endpoint .there ⟨c, s.system⟩ = .ok client t := by
  have hblames := blames_endpoint h.nameable h.awaits.fresh.isOpen h.legible
  cases hname : endpoint .there ⟨c, s.system⟩ with
  | ok client t => exact ⟨client, t, rfl⟩
  | error f t =>
    rw [hname] at hblames
    cases hblames with
    | @error _ _ es e hes he hfailed =>
      have hserve : serve s.responder.plan ⟨c, s.system⟩ = ⟨"client", none, .error f, t⟩ := by
        unfold serve
        rw [hname]
      obtain ⟨fs, hfs, -⟩ := noted_conclude (serve s.responder.plan ⟨c, s.system⟩)
      have hnoted : s.system.Noted (serve s.responder.plan ⟨c, s.system⟩).session.system es := by
        rw [hserve]
        exact hes
      have hfine := h.unfailing _ (noted_handle (hnoted.trans hfs)) e
        (List.mem_append_left _ (List.mem_append_left _ he))
      exact absurd (hfine.symm.trans hfailed) Bool.false_ne_true

/-- What the visit notes: octets that are enough, or all, and their first line. -/
theorem Hears.takes (h : s.Hears c parts) (hwhole : Head.LineWithin (parts.flatMap Part.octets)) :
    ∃ taken, taken <+: parts.flatMap Part.octets ∧
      s.Notes c taken (CodePage.decodeLatin1 (Head.line (parts.flatMap Part.octets))) := by
  obtain ⟨client, u, hname⟩ := h.named
  have haside : (⟨c, s.system⟩ : Session).Aside (greeted client u) :=
    (endpoint_eq_ok h.nameable hname).trans (Session.Aside.say ..)
  obtain ⟨k, m, outcome, hk, hstops⟩ := Peer.exists_stops (Peer.needs_zero (Peer.ofParts parts))
  obtain ⟨hm, taken, rfl, hprefix, htaken⟩ := Peer.stops_ofParts hk hstops
  obtain ⟨houtcome, -⟩ := readRequest_of_stops hk hstops ((h.awaits.mono hm).of_aside haside)
  have hrequest : request? ⟨c, s.system⟩ = some taken := by
    cases hread : readRequest (greeted client u) with
    | ok data t =>
      rw [hread] at houtcome
      obtain rfl : data = taken := Except.ok.inj houtcome
      exact request?_eq_some_iff.2 ⟨client, t, u, hname, hread⟩
    | error f t =>
      rw [hread] at houtcome
      cases houtcome
  obtain ⟨hreceived, hrequests⟩ := records_handle c s
  rw [hrequest] at hreceived hrequests
  refine ⟨taken, hprefix, hreceived, ?_⟩
  rw [hrequests, Option.toList_some, List.map_singleton, Head.firstLine_eq_line,
    Head.line_of_taken hwhole hprefix htaken]

end Visit

theorem hears_caller (parts : List Part)
    (h : ∀ e ∈ ((⟨{}, {}⟩ : Site).handle (caller parts)).system.events.toList,
      e.isFailedCall = false) : (⟨{}, {}⟩ : Site).Hears (caller parts) parts where
  legible := by
    refine ⟨(fun _ h => nomatch h), fun a ha => ?_, fun _ h => nomatch h⟩
    obtain rfl := Option.some.inj ha
    exact Address.numbered_of_port (by decide) (by decide)
  nameable := ⟨(fun _ h => nomatch h), fun _ h => nomatch h⟩
  awaits := awaits_caller _ _ _
  unfailing es hes := by
    have hall : ((⟨{}, {}⟩ : Site).handle (caller parts)).system.events.toList = es := hes
    exact hall ▸ h

/-- Two line feeds, and an octet that comes after them. -/
def late : List Part := [⟨[65, 13, 10, 10], by decide, by decide⟩, ⟨[66], by decide, by decide⟩]

/-- The same octets at once. -/
def early : List Part := [⟨[65, 13, 10, 10, 66], by decide, by decide⟩]

theorem hears_late : (⟨{}, {}⟩ : Site).Hears (caller late) late :=
  hears_caller late (by decide +kernel)

theorem hears_early : (⟨{}, {}⟩ : Site).Hears (caller early) early :=
  hears_caller early (by decide +kernel)

/-- **The line does not depend on the cut.** Let the same octets come in some parts to one visit and
in other parts to another one, each followed by the end of the stream, and let no call fail. If they
are few, or their first line feed comes early, both visits note the first line of all octets. The
octets that they note begin the same, and may end at different places. -/
theorem line_independent_of_cut :
    (∀ (whole : Bytes) (s s' : Site) (c c' : Socket) (parts parts' : List Part),
      Head.LineWithin whole →
      parts.flatMap Part.octets = whole → parts'.flatMap Part.octets = whole →
      s.Hears c parts → s'.Hears c' parts' →
      ∃ taken taken', taken <+: whole ∧ taken' <+: whole ∧
        s.Notes c taken (CodePage.decodeLatin1 (Head.line whole)) ∧
        s'.Notes c' taken' (CodePage.decodeLatin1 (Head.line whole))) ∧
      ∃ (s : Site) (c c' : Socket) (parts parts' : List Part),
        parts.flatMap Part.octets = parts'.flatMap Part.octets ∧
        s.Hears c parts ∧ s.Hears c' parts' ∧
        (s.handle c).responder.received ≠ (s.handle c').responder.received := by
  constructor
  · intro whole s s' c c' parts parts' hwhole hparts hparts' h h'
    subst hparts
    obtain ⟨taken, hprefix, hnotes⟩ := h.takes hwhole
    rw [← hparts'] at hwhole
    obtain ⟨taken', hprefix', hnotes'⟩ := h'.takes hwhole
    rw [hparts'] at hprefix' hnotes'
    exact ⟨taken, taken', hprefix, hprefix', hnotes, hnotes'⟩
  · exact ⟨⟨{}, {}⟩, caller late, caller early, late, early, rfl, hears_late, hears_early,
      by decide +kernel⟩

theorem line_independent_of_cut_late :
    Head.LineWithin (late.flatMap Part.octets) ∧
      early.flatMap Part.octets = late.flatMap Part.octets ∧
      (⟨{}, {}⟩ : Site).Hears (caller late) late ∧ (⟨{}, {}⟩ : Site).Hears (caller early) early ∧
      ∃ taken taken', (⟨{}, {}⟩ : Site).Notes (caller late) taken "A" ∧
        (⟨{}, {}⟩ : Site).Notes (caller early) taken' "A" := by
  have hwhole : Head.LineWithin (late.flatMap Part.octets) := .inl (by decide)
  obtain ⟨taken, taken', -, -, hlate, hearly⟩ := line_independent_of_cut.1 _ ⟨{}, {}⟩ ⟨{}, {}⟩ _ _
    late early hwhole rfl rfl hears_late hears_early
  exact ⟨hwhole, rfl, hears_late, hears_early, taken, taken', hlate, hearly⟩

end Site

end HttpProbe
