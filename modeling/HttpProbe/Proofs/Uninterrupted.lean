import HttpProbe.Proofs.Schedules

/-!
# Visits one after the other

Where each visit makes its steps as soon as it has begun, and nobody else takes a turn until it is
over, it is served as by `Site.handle`, and the accept loop is `Site.acceptAll`:

* `Alone n h t`: only visit `n` makes steps, and they lead from `h` to `t`;
* `alone_handle`: a visit that is left alone;
* `Serial h t`: some turns lead from `h` to `t` that leave every visit alone, so requests are noted
  in the order in which the connections were taken;
* **`serial_lives`**: every life of a responder is such a run of turns.
-/

namespace HttpProbe

open Responder (Stage Guest)

namespace House

variable {h t u : House} {n : Nat}

/-! ## 1. One visit -/

/-- Steps of visit `n` alone lead from `h` to `t`. -/
def Alone (n : Nat) (h t : House) : Prop := ∃ k, h.takes (List.replicate k (.visit n)) = t

namespace Alone

theorem refl (n : Nat) (h : House) : Alone n h h := ⟨0, rfl⟩

theorem head (h' : Alone n (h.visit n) t) : Alone n h t := by
  obtain ⟨k, hk⟩ := h'
  exact ⟨k + 1, hk⟩

theorem trans (h₁ : Alone n h t) (h₂ : Alone n t u) : Alone n h u := by
  obtain ⟨k, rfl⟩ := h₁
  obtain ⟨m, rfl⟩ := h₂
  refine ⟨k + m, ?_⟩
  unfold takes
  rw [List.replicate_add, List.foldl_append]

end Alone

/-- The guest comes from one stage to the next. -/
theorem visit_withGuest (hn : n < h.guests.length) (stage : Stage) (s : Session) :
    (h.withGuest n (stage, s)).visit n = { h with site := h.site.noting stage.notes? }.withGuest n
      (stage.step h.site.responder.plan s) := by
  have hguest : (h.withGuest n (stage, s)).guests[n]? = some ⟨s.socket, stage⟩ :=
    List.getElem?_set_self hn
  rw [visit_of_guest hguest]
  unfold withGuest
  rw [List.set_set]
  cases stage.notes? <;> rfl

section Steps

variable (hn : n < h.guests.length)

include hn

theorem alone_step {stage : Stage} {s : Session} {r : Stage × Session} (hnotes : stage.notes? = none)
    (hstep : stage.step h.site.responder.plan s = r) :
    Alone n (h.withGuest n (stage, s)) (h.withGuest n r) := by
  refine .head ?_
  rw [visit_withGuest hn, hnotes, hstep]
  exact .refl n _

/-- What comes of the reception of a request. -/
def collected (client : String) : EStateM.Result Failure Session Bytes → Stage × Session
  | .ok data t => (.asked client data, t)
  | .error f t => (.leaving client none (.error f), t)

theorem alone_collect (client : String) (s : Session) (bs : Bytes) :
    Alone n (h.withGuest n (.reading client bs, s))
      (h.withGuest n (collected client (Responder.collect s bs))) := by
  fun_induction Responder.collect s bs with
  | case1 s bs henough => exact alone_step hn rfl (if_pos henough)
  | case2 s bs hshort f t hread =>
    refine alone_step hn rfl ?_
    simp [Stage.step, hshort, hread, collected]
  | case3 s bs hshort t hread =>
    refine alone_step hn rfl ?_
    simp [Stage.step, hshort, hread, collected]
  | case4 s bs hshort t b rest hread ih =>
    refine (alone_step hn rfl ?_).trans ih
    simp [Stage.step, hshort, hread]

/-- What comes of naming the client. -/
def greeting : EStateM.Result Failure Session String → Stage × Session
  | .ok client t => (.reading client [], Responder.greeted client t)
  | .error f t => (.leaving "client" none (.error f), t)

theorem alone_endpoint (s : Session) :
    Alone n (h.withGuest n (.arrived, s)) (h.withGuest n (greeting (Socket.endpoint .there s))) := by
  cases hhost : Socket.hostOf .there s with
  | error f t =>
    have hname : Socket.endpoint .there s = .error f t := bind_of_error hhost
    rw [hname]
    exact alone_step hn rfl (by simp [Stage.step, hhost, greeting])
  | ok host t =>
    have hlocated : Alone n (h.withGuest n (.arrived, s)) (h.withGuest n (.located host, t)) :=
      alone_step hn rfl (by simp [Stage.step, hhost])
    refine hlocated.trans (alone_step hn rfl ?_)
    cases hport : Socket.portOf .there t with
    | error f u =>
      have hname : Socket.endpoint .there s = .error f u :=
        (bind_of_ok hhost).trans (bind_of_error hport)
      simp [Stage.step, hport, hname, greeting]
    | ok port u =>
      have hname : Socket.endpoint .there s = .ok s!"{host}:{port}" u :=
        (bind_of_ok hhost).trans ((bind_of_ok hport).trans rfl)
      simp [Stage.step, hport, hname, greeting]

/-- The house when visit `n` has nothing left to do but to close its connection. -/
def departing (n : Nat) (h : House) (v : Responder.Visit) : House :=
  { h with site := h.site.noting v.received }.withGuest n
    (.leaving v.client v.received v.outcome, v.session)

/-- A visit that is left alone is served as by `Responder.serve`. -/
theorem alone_serve (s : Session) :
    Alone n (h.withGuest n (.arrived, s))
      (departing n h (Responder.serve h.site.responder.plan s)) := by
  refine (alone_endpoint hn s).trans ?_
  cases hname : Socket.endpoint .there s with
  | error f t =>
    rw [Responder.serve_of_unnamed hname]
    exact .refl n _
  | ok client t =>
    refine (alone_collect hn client (Responder.greeted client t) []).trans ?_
    cases hread : Responder.readRequest (Responder.greeted client t) with
    | error f u =>
      have hcollect : Responder.collect (Responder.greeted client t) [] = .error f u := hread
      rw [Responder.serve_of_unread hname hread, hcollect]
      exact .refl n _
    | ok data u =>
      have hcollect : Responder.collect (Responder.greeted client t) [] = .ok data u := hread
      rw [Responder.serve_of_asked ⟨t, hname, hread⟩, hcollect]
      refine .head ?_
      rw [collected, visit_withGuest hn]
      have hreplied {r : Stage × Session}
          (hr : (Stage.noted client data).step h.site.responder.plan u = r) :
          Alone n ({ h with site := h.site.noting (some data) }.withGuest n (.noted client data, u))
            ({ h with site := h.site.noting (some data) }.withGuest n r) :=
        alone_step (h := { h with site := h.site.noting (some data) }) hn rfl hr
      cases hreply : Responder.reply h.site.responder.plan u with
      | error f w => exact hreplied (by simp [Stage.step, hreply, Responder.answered])
      | ok k w => exact hreplied (by simp [Stage.step, hreply, Responder.answered])

theorem alone_conclude (v : Responder.Visit) :
    Alone n (departing n h v) ⟨(h.site.noting v.received).concluded v.conclude,
      h.guests.set n ⟨v.conclude.2.socket, .gone v.received⟩⟩ := by
  refine .head ?_
  unfold departing
  rw [visit_withGuest (h := { h with site := h.site.noting v.received }) hn]
  unfold Stage.step withGuest Site.concluded
  dsimp only
  rcases v.conclude with ⟨failure, t⟩
  cases failure <;> exact .refl n _

end Steps

theorem noting_eq (data : Option Bytes) (s : Site) :
    s.noting data = { s with responder := { s.responder with
      requests := s.responder.requests ++ (data.map Head.firstLine).toArray
      received := s.responder.received ++ data.toArray } } := by
  cases data with
  | none => simp [Site.noting]
  | some data => simp [Site.noting, Site.record]

theorem handle_eq (c : Socket) (s : Site) :
    s.handle c = (s.noting (Responder.serve s.responder.plan ⟨c, s.system⟩).received).concluded
      (Responder.serve s.responder.plan ⟨c, s.system⟩).conclude := by
  rw [noting_eq]
  rfl

/-- **A visit that is left alone** is that of `Site.handle`. -/
theorem alone_handle {c : Socket} (hg : h.guests[n]? = some ⟨c, .arrived⟩) :
    ∃ g : Guest, g.stage.isGone = true ∧ Alone n h ⟨h.site.handle c, h.guests.set n g⟩ := by
  obtain ⟨hn, hself⟩ := List.getElem?_eq_some_iff.1 hg
  have hstart : h = h.withGuest n (.arrived, ⟨c, h.site.system⟩) := by
    show h = ⟨h.site, h.guests.set n ⟨c, .arrived⟩⟩
    rw [← hself, List.set_getElem_self]
  have hserved := alone_serve hn ⟨c, h.site.system⟩
  rw [← hstart] at hserved
  rw [handle_eq]
  exact ⟨_, rfl, hserved.trans (alone_conclude hn _)⟩

/-! ## 2. Lives -/

theorem takes_append (h : House) (before rest : List Turn) :
    h.takes (before ++ rest) = (h.takes before).takes rest := List.foldl_append

theorem notes_append (h : House) (before rest : List Turn) :
    h.notes (before ++ rest) = h.notes before ++ (h.takes before).notes rest := by
  induction before generalizing h with
  | nil => rfl
  | cons turn before ih =>
    show (h.noting? turn).toList ++ (h.take turn).notes (before ++ rest) = _
    rw [ih, ← List.append_assoc]
    rfl

/-- These turns lead from `h` to `t`. Every visit that began meanwhile is over, and those that noted
a request did so in the order in which they began. -/
structure Serial (h : House) (turns : List Turn) (t : House) : Prop where
  leads : h.takes turns = t
  gone : ∃ gs, t.guests = h.guests ++ gs ∧ ∀ g ∈ gs, g.stage.isGone = true
  sorted : (h.notes turns).Pairwise (· < ·)
  new : ∀ n ∈ h.notes turns, h.guests.length ≤ n ∧ n < t.guests.length

namespace Serial

variable {turns turns' : List Turn}

theorem refl (h : House) : Serial h [] h :=
  ⟨rfl, ⟨[], (List.append_nil _).symm, fun _ hg => nomatch hg⟩, .nil, fun _ hn => nomatch hn⟩

theorem trans (h₁ : Serial h turns t) (h₂ : Serial t turns' u) : Serial h (turns ++ turns') u := by
  obtain ⟨gs, hgs, hgone⟩ := h₁.gone
  obtain ⟨gs', hgs', hgone'⟩ := h₂.gone
  have hle : h.guests.length ≤ t.guests.length := by
    rw [hgs, List.length_append]
    exact Nat.le_add_right ..
  have hle' : t.guests.length ≤ u.guests.length := by
    rw [hgs', List.length_append]
    exact Nat.le_add_right ..
  refine ⟨by rw [takes_append, h₁.leads, h₂.leads], ⟨gs ++ gs', ?_, ?_⟩, ?_, fun n hn => ?_⟩
  · rw [hgs', hgs, List.append_assoc]
  · exact List.forall_mem_append.2 ⟨hgone, hgone'⟩
  · rw [notes_append, h₁.leads]
    exact List.pairwise_append.2 ⟨h₁.sorted, h₂.sorted, fun m hm n hn =>
      Nat.lt_of_lt_of_le (h₁.new m hm).2 (h₂.new n hn).1⟩
  · rw [notes_append, h₁.leads, List.mem_append] at hn
    rcases hn with hn | hn
    · exact ⟨(h₁.new n hn).1, Nat.lt_of_lt_of_le (h₁.new n hn).2 hle'⟩
    · exact ⟨Nat.le_trans hle (h₂.new n hn).1, (h₂.new n hn).2⟩

/-- A turn in which nobody goes on and no visit begins. -/
theorem single {turn : Turn} {s : Site} (hnobody : h.noting? turn = none)
    (hturn : h.take turn = ⟨s, h.guests⟩) : Serial h [turn] ⟨s, h.guests⟩ := by
  have hnotes : h.notes [turn] = [] := by
    show (h.noting? turn).toList ++ [] = []
    rw [hnobody]
    rfl
  refine ⟨hturn, ⟨[], (List.append_nil _).symm, fun _ hg => nomatch hg⟩, ?_, ?_⟩
  · rw [hnotes]
    exact .nil
  · rw [hnotes]
    exact fun _ hn => nomatch hn

end Serial

/-- A run of turns after which there is one more visit, which is over. -/
theorem serial_of_guest {turns : List Turn} {s : Site} {g : Guest} (hgone : g.stage.isGone = true)
    (hleads : h.takes turns = ⟨s, h.guests ++ [g]⟩) : Serial h turns ⟨s, h.guests ++ [g]⟩ := by
  obtain ⟨es, hrecords⟩ := records_takes h turns
  rw [hleads] at hrecords
  have hlast : ∀ n ∈ h.notes turns, n = h.guests.length := by
    intro n hn
    obtain ⟨hnone, hsome⟩ := (hrecords.mem_order n).1 hn
    rcases Nat.lt_trichotomy n h.guests.length with hlt | heq | hgt
    · have hsame : noted? ⟨s, h.guests ++ [g]⟩ n = h.noted? n := by
        unfold noted? stage
        rw [List.getElem?_append_left hlt]
      rw [hsame, hnone] at hsome
      cases hsome
    · exact heq
    · have harrived : noted? ⟨s, h.guests ++ [g]⟩ n = none := by
        unfold noted? stage
        rw [List.getElem?_eq_none (by rw [List.length_append]; exact hgt)]
        rfl
      rw [harrived] at hsome
      cases hsome
  refine ⟨hleads, ⟨[g], rfl, ?_⟩, ?_, fun n hn => ?_⟩
  · rintro g' hg'
    rwa [List.mem_singleton.1 hg']
  · exact hrecords.once.imp_of_mem fun hm hn hne => absurd ((hlast _ hm).trans (hlast _ hn).symm) hne
  · rw [hlast n hn]
    exact ⟨Nat.le_refl _, by simp⟩

section Rounds

variable {loop : Nat} {s t : Site} {guests : List Guest} (hloop : loop ∈ s.responder.unfinished)

include hloop

theorem take_of_ends {pause : Pause} (hround : s.acceptOnce = .ends pause t) :
    take ⟨s, guests⟩ (.accept loop) = ⟨Site.settle loop (pause, t), guests⟩ := by
  show accept loop ⟨s, guests⟩ = _
  unfold accept
  rw [if_pos hloop, hround]

theorem take_of_again (hround : s.acceptOnce = .again t) :
    take ⟨s, guests⟩ (.accept loop) = ⟨t, guests⟩ := by
  show accept loop ⟨s, guests⟩ = _
  unfold accept
  rw [if_pos hloop, hround]

/-- A round of the accept loop, and the visit of the connection that it takes. -/
theorem serial_of_taken {c : Socket} (hround : s.acceptOnce = .taken c t) :
    ∃ turns gs, Serial ⟨s, guests⟩ turns ⟨t.handle c, gs⟩ := by
  have haccept : take ⟨s, guests⟩ (.accept loop) = ⟨t, guests ++ [⟨c, .arrived⟩]⟩ := by
    show accept loop ⟨s, guests⟩ = _
    unfold accept
    rw [if_pos hloop, hround]
  obtain ⟨g, hgone, k, hk⟩ := alone_handle (h := ⟨t, guests ++ [⟨c, .arrived⟩]⟩) (n := guests.length)
    (c := c) (by simp)
  refine ⟨.accept loop :: List.replicate k (.visit guests.length), guests ++ [g],
    serial_of_guest hgone ?_⟩
  show (take ⟨s, guests⟩ (.accept loop)).takes _ = _
  rw [haccept, hk]
  simp

theorem serial_acceptAll :
    ∃ turns gs, Serial ⟨s, guests⟩ turns ⟨Site.settle loop s.acceptAll, gs⟩ := by
  fun_induction Site.acceptAll s generalizing guests with
  | case1 s pause t hround => exact ⟨_, _, .single rfl (take_of_ends hloop hround)⟩
  | case2 s t hround ih =>
    have hkept := Site.unfinished_acceptOnce hround
    have hturn : Serial ⟨s, guests⟩ [.accept loop] ⟨t, guests⟩ :=
      .single rfl (take_of_again hloop hround)
    obtain ⟨turns, gs, hrest⟩ := @ih guests (hkept ▸ hloop)
    exact ⟨_, _, hturn.trans hrest⟩
  | case3 s c t hround ih =>
    have hkept := Site.unfinished_acceptOnce hround
    obtain ⟨turns, gs, hvisit⟩ :
        ∃ turns gs, Serial ⟨s, guests⟩ turns ⟨t.handle c, gs⟩ := serial_of_taken hloop hround
    obtain ⟨turns', gs', hrest⟩ := @ih gs (hkept ▸ hloop)
    exact ⟨_, _, hvisit.trans hrest⟩

end Rounds

theorem serial_run (s : Site) (guests : List Guest) :
    ∃ turns gs, Serial ⟨s, guests⟩ turns ⟨s.run.2, gs⟩ := by
  unfold Site.run
  cases hloops : s.responder.unfinished with
  | nil => exact ⟨_, _, .refl _⟩
  | cons loop rest => exact serial_acceptAll (hloops ▸ List.mem_cons_self)

theorem serial_offered (callers : List (Reply (Caller Script))) (s : Site) (guests : List Guest) :
    ∃ turns gs, Serial ⟨s, guests⟩ turns ⟨(s.offer callers).run.2, gs⟩ := by
  obtain ⟨turns, gs, hrun⟩ := serial_run (s.offer callers) guests
  have hoffer : Serial ⟨s, guests⟩ [.offer callers] ⟨s.offer callers, guests⟩ := .single rfl rfl
  exact ⟨_, _, hoffer.trans hrun⟩

theorem serial_perform (m : Site.Move) (s : Site) (guests : List Guest) :
    ∃ turns gs, Serial ⟨s, guests⟩ turns ⟨m.perform s, gs⟩ := by
  have hstart : Serial ⟨s, guests⟩ [.start] ⟨after (Site.start s), guests⟩ := .single rfl rfl
  cases m with
  | start => exact ⟨_, _, hstart⟩
  | stop => exact ⟨[.stop], _, .single rfl rfl⟩
  | run callers => exact serial_offered callers s guests
  | cycle callers =>
    show ∃ turns gs, Serial _ turns ⟨after (Site.cycle callers s), gs⟩
    cases hs : Site.start s with
    | error why t =>
      have hcycle : Site.cycle callers s = .error why t := by
        unfold Site.cycle
        rw [hs]
      rw [hs] at hstart
      rw [hcycle]
      exact ⟨_, _, hstart⟩
    | ok _ t =>
      rw [hs] at hstart
      obtain ⟨turns, gs, hrun⟩ := serial_offered callers t guests
      have hstop : Serial ⟨(t.offer callers).run.2, gs⟩ [.stop]
          ⟨after (Site.stop (t.offer callers).run.2), gs⟩ := .single rfl rfl
      rw [Site.after_cycle hs]
      exact ⟨_, _, (hstart.trans hrun).trans hstop⟩

/-- **A life of a responder** is a run of turns in which every visit is left alone. -/
theorem serial_lives (moves : List Site.Move) (s : Site) (guests : List Guest) :
    ∃ turns gs, Serial ⟨s, guests⟩ turns ⟨Site.lives s moves, gs⟩ := by
  induction moves generalizing s guests with
  | nil => exact ⟨_, _, .refl _⟩
  | cons m moves ih =>
    obtain ⟨turns, gs, hmove⟩ := serial_perform m s guests
    obtain ⟨turns', gs', hrest⟩ := ih (m.perform s) gs
    exact ⟨_, _, hmove.trans hrest⟩

end House

end HttpProbe
