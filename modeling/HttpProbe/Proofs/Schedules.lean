import HttpProbe.Proofs.VisitSteps

/-!
# Visits in any order

Whoever takes turns in a house, and in whatever order, each request is noted at most once, by its
own visit and at the turn at which this visit notes it:

* `House.stage`: how far a visit has come. One that is still to come is at its beginning;
* `House.notes`: who notes requests in a run of turns, in order;
* `House.sessions`: in which sessions a visit makes its steps;
* `expects_takes`: so what it notes is settled by these;
* `House.Records h t order es`: from `h` to `t` the record grew by the requests of the visits
  `order`, and `es` happened meanwhile. The visits that began are those of the connections handed
  over;
* **`records_takes`**: so it is over every run of turns.
-/

namespace HttpProbe.House

open Responder (Stage Guest)

/-! ## 1. Visits in a house -/

/-- How far visit `n` has come. -/
def stage (h : House) (n : Nat) : Stage := h.guests[n]?.elim .arrived Guest.stage

/-- What visit `n` has noted. -/
def noted? (h : House) (n : Nat) : Option Bytes := (h.stage n).noted?

/-- The numbers of the connections of the visits. -/
def numbers (h : House) : List Nat := h.guests.map (·.connection.descriptor.number)

/-- Who notes a request in a turn. -/
def noting? (h : House) : Turn → Option Nat
  | .visit n => (h.stage n).notes?.map fun _ => n
  | _ => none

/-- Who notes requests in these turns, in this order. -/
def notes (h : House) : List Turn → List Nat
  | [] => []
  | turn :: rest => (h.noting? turn).toList ++ (h.take turn).notes rest

/-- The session in which visit `n` makes a step in a turn, if it makes one. -/
def stepped? (h : House) (n : Nat) : Turn → Option Session
  | .visit m => if m = n then h.guests[n]?.map h.session else none
  | _ => none

/-- The sessions in which visit `n` makes its steps in these turns. -/
def sessions (h : House) (n : Nat) : List Turn → List Session
  | [] => []
  | turn :: rest => (h.stepped? n turn).toList ++ (h.take turn).sessions n rest

/-- The request of visit `n` in these turns, if its look-ups and its receptions return. -/
def request? (h : House) (n : Nat) (turns : List Turn) : Option Bytes :=
  Responder.requestOver (h.sessions n turns)

variable {h t u : House}

/-! ## 2. One turn -/

theorem visit_of_guest {n : Nat} {g : Guest} (hg : h.guests[n]? = some g) :
    h.visit n = { h with site := h.site.noting g.stage.notes? }.withGuest n
      (g.stage.step h.site.responder.plan (h.session g)) := by
  unfold visit
  rw [hg]

theorem visit_of_nobody {n : Nat} (hg : h.guests[n]? = none) : h.visit n = h := by
  unfold visit
  rw [hg]

theorem stage_of_guest {n : Nat} {g : Guest} (hg : h.guests[n]? = some g) : h.stage n = g.stage := by
  unfold stage
  rw [hg]
  rfl

/-- A visit that begins is at its beginning, as it was before. -/
theorem stage_append (site : Site) (connection : Socket) (n : Nat) :
    stage ⟨site, h.guests ++ [⟨connection, .arrived⟩]⟩ n = h.stage n := by
  unfold stage
  dsimp only
  rw [List.getElem?_append]
  split
  · rfl
  · rename_i hn
    rw [List.getElem?_eq_none (Nat.le_of_not_lt hn)]
    cases n - h.guests.length <;> rfl

theorem stage_visit_self {n : Nat} {g : Guest} (hg : h.guests[n]? = some g) :
    (h.visit n).stage n = (g.stage.step h.site.responder.plan (h.session g)).1 := by
  obtain ⟨hlt, -⟩ := List.getElem?_eq_some_iff.1 hg
  rw [visit_of_guest hg]
  exact stage_of_guest (h := withGuest ..) (List.getElem?_set_self hlt)

theorem stage_visit_of_ne {m n : Nat} (hne : m ≠ n) : (h.visit m).stage n = h.stage n := by
  cases hm : h.guests[m]? with
  | none => rw [visit_of_nobody hm]
  | some g =>
    rw [visit_of_guest hm]
    exact congrArg (fun g : Option Guest => g.elim .arrived Guest.stage) (List.getElem?_set_ne hne)

/-- **A turn** is a step of the visit whose turn it is, and no step of any other. -/
theorem stage_take (h : House) (turn : Turn) (n : Nat) :
    (h.take turn).stage n = match h.stepped? n turn with
      | some s => ((h.stage n).step h.site.responder.plan s).1
      | none => h.stage n := by
  cases turn with
  | visit m =>
    by_cases hsame : m = n
    · subst hsame
      have hstepped : h.stepped? m (.visit m) = h.guests[m]?.map h.session := if_pos rfl
      rw [hstepped]
      cases hm : h.guests[m]? with
      | none => exact congrArg (stage · m) (visit_of_nobody hm)
      | some g =>
        rw [stage_of_guest hm]
        exact stage_visit_self hm
    · have hstepped : h.stepped? n (.visit m) = none := if_neg hsame
      rw [hstepped]
      exact stage_visit_of_ne hsame
  | accept loop =>
    show (h.accept loop).stage n = h.stage n
    unfold accept
    split
    · split
      · rfl
      · rfl
      · exact stage_append ..
    · rfl
  | _ => rfl

/-- What a visit is to note is settled by the sessions of its steps. -/
theorem expects_take (h : House) (turn : Turn) (n : Nat) (more : List Session) :
    ((h.take turn).stage n).expects more
      = (h.stage n).expects ((h.stepped? n turn).toList ++ more) := by
  rw [stage_take]
  cases h.stepped? n turn with
  | none => rfl
  | some s => exact Stage.expects_step s more

theorem expects_takes (h : House) (turns : List Turn) (n : Nat) (more : List Session) :
    ((h.takes turns).stage n).expects more
      = (h.stage n).expects (h.sessions n turns ++ more) := by
  induction turns generalizing h with
  | nil => rfl
  | cons turn rest ih =>
    show (((h.take turn).takes rest).stage n).expects more = _
    rw [ih, expects_take, sessions, List.append_assoc]

/-! ## 3. The record -/

/-- From `h` to `t` these visits noted their requests, in this order, and this happened. What was
noted is in the record, each request with its first line. Whoever has noted nothing in between had
noted something before or has not yet. -/
structure Records (h t : House) (order : List Nat) (es : List Event) : Prop where
  noted : h.site.system.Noted t.site.system es
  begun : t.numbers = h.numbers ++ es.filterMap Event.unhurried?
  received : t.site.responder.received.toList
    = h.site.responder.received.toList ++ order.filterMap t.noted?
  requests : t.site.responder.requests.toList
    = h.site.responder.requests.toList ++ (order.filterMap t.noted?).map Head.firstLine
  kept : ∀ n data, h.noted? n = some data → t.noted? n = some data
  once : order.Nodup
  mem_order : ∀ n, n ∈ order ↔ h.noted? n = none ∧ (t.noted? n).isSome

namespace Records

variable {order order' : List Nat} {es fs : List Event}

theorem trans (h₁ : Records h t order es) (h₂ : Records t u order' fs) :
    Records h u (order ++ order') (es ++ fs) := by
  have hsame : order.filterMap u.noted? = order.filterMap t.noted? := by
    refine List.filterMap_congr fun n hn => ?_
    obtain ⟨data, hdata⟩ := Option.isSome_iff_exists.1 ((h₁.mem_order n).1 hn).2
    rw [hdata, h₂.kept n data hdata]
  refine ⟨h₁.noted.trans h₂.noted, ?_, ?_, ?_, fun n data hdata => h₂.kept n data (h₁.kept n data hdata),
    ?_, fun n => ?_⟩
  · rw [h₂.begun, h₁.begun, List.filterMap_append, List.append_assoc]
  · rw [h₂.received, h₁.received, List.filterMap_append, hsame, List.append_assoc]
  · rw [h₂.requests, h₁.requests, List.filterMap_append, hsame, List.map_append, List.append_assoc]
  · refine List.nodup_append.2 ⟨h₁.once, h₂.once, fun n hn m hm => ?_⟩
    rintro rfl
    have hsome := ((h₁.mem_order n).1 hn).2
    rw [((h₂.mem_order n).1 hm).1] at hsome
    cases hsome
  · rw [List.mem_append, h₁.mem_order, h₂.mem_order]
    -- what `t` has noted decides in which of the two runs it was noted
    cases ht : t.noted? n with
    | none =>
      have hnone : h.noted? n = none := by
        cases hh : h.noted? n with
        | none => rfl
        | some data => exact nomatch ht.symm.trans (h₁.kept n data hh)
      simp [hnone]
    | some data => simp [h₂.kept n data ht]

/-- Nothing was noted. -/
theorem of_same (hnoted : h.site.system.Noted t.site.system es)
    (hbegun : t.numbers = h.numbers ++ es.filterMap Event.unhurried?)
    (hreceived : t.site.responder.received = h.site.responder.received)
    (hrequests : t.site.responder.requests = h.site.responder.requests)
    (hstage : ∀ n, t.stage n = h.stage n) : Records h t [] es := by
  have hsame (n : Nat) : t.noted? n = h.noted? n := congrArg Stage.noted? (hstage n)
  refine ⟨hnoted, hbegun, ?_, ?_, fun n data hdata => (hsame n).trans hdata, List.nodup_nil,
    fun n => ?_⟩
  · rw [hreceived]
    exact (List.append_nil _).symm
  · rw [hrequests]
    exact (List.append_nil _).symm
  · rw [hsame]
    cases h.noted? n <;> simp

theorem refl (h : House) : Records h h [] [] :=
  of_same (.refl _) (List.append_nil _).symm rfl rfl fun _ => rfl

end Records

theorem records_of_idles {s : Site} (hidles : Site.Idles h.site s) :
    ∃ es, Records h { h with site := s } [] es := by
  obtain ⟨es, hes, hnone⟩ := hidles
  refine ⟨es, .of_same hes.noted ?_ hes.received hes.requests fun _ => rfl⟩
  rw [hnone]
  exact (List.append_nil _).symm

/-- A round of an accept loop lets the visit begin for which it hands a connection over. -/
theorem records_accept (h : House) (loop : Nat) : ∃ es, Records h (h.accept loop) [] es := by
  unfold accept
  split
  · obtain ⟨es, hes, hhanded⟩ := Site.passes_acceptOnce h.site
    cases hround : h.site.acceptOnce with
    | ends pause s =>
      rw [hround] at hes hhanded
      exact records_of_idles (Site.Idles.trans ⟨es, hes, hhanded⟩ (Site.idles_settle loop pause s))
    | again s =>
      rw [hround] at hes hhanded
      exact records_of_idles ⟨es, hes, hhanded⟩
    | taken connection s =>
      rw [hround] at hes hhanded
      refine ⟨es, .of_same hes.noted ?_ hes.received hes.requests (stage_append s connection)⟩
      rw [hhanded]
      exact List.map_append
  · exact ⟨[], .refl h⟩

/-- A guest who keeps its connection. -/
theorem numbers_withGuest {n : Nat} {g : Guest} {r : Stage × Session} (hg : h.guests[n]? = some g)
    (hnumber : r.2.socket.descriptor.number = g.connection.descriptor.number) :
    (h.withGuest n r).numbers = h.numbers := by
  obtain ⟨hlt, rfl⟩ := List.getElem?_eq_some_iff.1 hg
  have hlt' : n < h.numbers.length := Nat.lt_of_lt_of_eq hlt (List.length_map _).symm
  have hsame : h.numbers[n] = r.2.socket.descriptor.number := (List.getElem_map ..).trans hnumber.symm
  show (h.guests.set n _).map _ = _
  rw [List.map_set]
  show h.numbers.set n r.2.socket.descriptor.number = h.numbers
  rw [← hsame, List.set_getElem_self]

theorem received_noting (data : Option Bytes) (s : Site) :
    (s.noting data).responder.received.toList = s.responder.received.toList ++ data.toList ∧
      (s.noting data).responder.requests.toList
        = s.responder.requests.toList ++ data.toList.map Head.firstLine := by
  cases data with
  | none => exact ⟨(List.append_nil _).symm, (List.append_nil _).symm⟩
  | some data => exact ⟨Array.toList_push, Array.toList_push⟩

/-- A step of a visit notes the request that it is to note, if it is to note one. -/
theorem records_visit (h : House) (n : Nat) :
    ∃ es, Records h (h.visit n) (h.noting? (.visit n)).toList es := by
  cases hn : h.guests[n]? with
  | none =>
    have hnone : h.noting? (.visit n) = none := by
      show (h.stage n).notes?.map _ = none
      unfold stage
      rw [hn]
      rfl
    rw [visit_of_nobody hn, hnone]
    exact ⟨[], .refl h⟩
  | some g =>
    have hself : (h.visit n).noted? n = g.stage.noted?.or g.stage.notes? := by
      unfold noted?
      rw [stage_visit_self hn]
      exact Stage.noted?_step _
    have hothers {m : Nat} (hm : n ≠ m) : (h.visit n).noted? m = h.noted? m :=
      congrArg Stage.noted? (stage_visit_of_ne hm)
    have hbefore : h.noted? n = g.stage.noted? := congrArg Stage.noted? (stage_of_guest hn)
    have hnoting : h.noting? (.visit n) = g.stage.notes?.map fun _ => n := by
      show (h.stage n).notes?.map _ = _
      rw [stage_of_guest hn]
    -- the entries are those of the visits that note something, which is this one if anyone
    have hentries : (h.noting? (.visit n)).toList.filterMap (h.visit n).noted?
        = g.stage.notes?.toList := by
      rw [hnoting]
      cases hnotes : g.stage.notes? with
      | none => rfl
      | some data =>
        rw [Stage.noted?_of_notes? hnotes, hnotes] at hself
        exact (List.filterMap_cons_some hself).trans rfl
    obtain ⟨hnumber, es, hes, hnone⟩ :=
      Stage.hurried_step h.site.responder.plan g.stage (h.session g)
    obtain ⟨hreceived, hrequests⟩ := received_noting g.stage.notes? h.site
    refine ⟨es, ?_, ?_, ?_, ?_, fun m data hdata => ?_, ?_, fun m => ?_⟩
    · rw [visit_of_guest hn]
      exact hes
    · rw [visit_of_guest hn, hnone, List.append_nil]
      exact numbers_withGuest hn hnumber
    · rw [hentries, visit_of_guest hn]
      exact hreceived
    · rw [hentries, visit_of_guest hn]
      exact hrequests
    · by_cases hm : n = m
      · subst hm
        rw [hself, ← hbefore, hdata]
        rfl
      · rw [hothers hm, hdata]
    · rw [hnoting]
      cases g.stage.notes? with
      | none => exact List.nodup_nil
      | some _ => exact List.pairwise_singleton _ n
    · by_cases hm : n = m
      · subst hm
        rw [hnoting, hself, hbefore]
        cases hnotes : g.stage.notes? with
        | none => cases g.stage.noted? <;> simp
        | some data => simp [Stage.noted?_of_notes? hnotes]
      · rw [hothers hm, hnoting]
        cases g.stage.notes? <;> cases h.noted? m <;> simp [Ne.symm hm]

theorem records_take (h : House) (turn : Turn) :
    ∃ es, Records h (h.take turn) (h.noting? turn).toList es := by
  cases turn with
  | start => exact records_of_idles (Site.idles_start h.site)
  | stop => exact records_of_idles (Site.idles_stop h.site)
  | offer callers => exact records_of_idles (Site.idles_offer callers h.site)
  | accept loop => exact records_accept h loop
  | visit n => exact records_visit h n

/-- **The record** over a run of turns. -/
theorem records_takes (h : House) (turns : List Turn) :
    ∃ es, Records h (h.takes turns) (h.notes turns) es := by
  induction turns generalizing h with
  | nil => exact ⟨[], .refl h⟩
  | cons turn rest ih =>
    obtain ⟨es, hturn⟩ := records_take h turn
    obtain ⟨fs, hrest⟩ := ih (h.take turn)
    exact ⟨_, hturn.trans hrest⟩

end HttpProbe.House
