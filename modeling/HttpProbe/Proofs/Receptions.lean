import HttpProbe.Proofs.QuietCalls
import HttpProbe.Socket.Reading

/-!
# One reception

What the peer sends comes in parts of any size, with failures between them, up to the end of the
stream. A reception takes one part or one failure off:

* `Script.sent`: the octets that the peer sends before the end of the stream, however it cuts them;
* `coming`: those that are still to come, none once the stream has ended;
* `failing`: how many receptions may still fail;
* `receive_ok`, `receive_error`: what was to come is what a reception delivered and what is to come
  after it, and a reception that fails uses a failure up.
-/

namespace HttpProbe

/-! ## 1. What the peer sends -/

/-- The octets that a queue of replies delivers before the end of the stream. -/
def Script.sent : List (Reply Bytes) → Bytes
  | [] => []
  | r :: rest =>
    match r.outcome with
    | .usual => []
    | .value [] => []
    | .value (b :: data) => b :: data ++ sent rest
    | .failure _ => sent rest

/-- Whether a reply is a failure. -/
def Reply.fails {α : Type} (r : Reply α) : Bool :=
  match r.outcome with
  | .failure _ => true
  | _ => false

section Sent

variable {r : Reply Bytes} {rest : List (Reply Bytes)}

theorem Script.sent_of_usual (h : r.outcome = .usual) : sent (r :: rest) = [] := by
  rw [sent, h]

theorem Script.sent_of_nothing (h : r.outcome = .value []) : sent (r :: rest) = [] := by
  rw [sent, h]

theorem Script.sent_of_value {data : Bytes} (h : r.outcome = .value data) (hne : data ≠ []) :
    sent (r :: rest) = data ++ sent rest := by
  cases data with
  | nil => exact absurd rfl hne
  | cons b data => rw [sent, h]

theorem Script.sent_of_failure {f : SystemFailure} (h : r.outcome = .failure f) :
    sent (r :: rest) = sent rest := by
  rw [sent, h]

theorem Reply.countP_cons_of_failure {f : SystemFailure} (h : r.outcome = .failure f) :
    (r :: rest).countP Reply.fails = rest.countP Reply.fails + 1 :=
  List.countP_cons_of_pos (by rw [Reply.fails, h])

theorem Reply.countP_le_cons : rest.countP Reply.fails ≤ (r :: rest).countP Reply.fails :=
  List.countP_cons ▸ Nat.le_add_right _ _

end Sent

/-- What a reception comes to, told from the queue before it and the queue after it. -/
inductive Script.Step (q rest : List (Reply Bytes)) : Outcome Bytes → Prop where
  | ended {o : Outcome Bytes} (ho : o = .usual ∨ o = .value []) (h : sent q = [])
      (hfails : rest.countP Reply.fails ≤ q.countP Reply.fails) : Step q rest o
  | delivered {data : Bytes} (hne : data ≠ []) (h : sent q = data ++ sent rest)
      (hfails : rest.countP Reply.fails ≤ q.countP Reply.fails) : Step q rest (.value data)
  | failed {f : SystemFailure} (h : sent q = sent rest)
      (hfails : rest.countP Reply.fails < q.countP Reply.fails) : Step q rest (.failure f)

theorem Script.step_takeRecv {size : Nat} (hsize : 0 < size) (s : Script) :
    Step s.recv (s.takeRecv size).2.recv (s.takeRecv size).1.outcome := by
  unfold takeRecv
  cases hq : s.recv with
  | nil => exact .ended (.inl rfl) rfl (Nat.le_refl _)
  | cons r rest =>
    cases ho : r.outcome with
    | usual =>
      simp only [Reply.next, ho]
      exact .ended (.inl rfl) (sent_of_usual ho) Reply.countP_le_cons
    | failure f =>
      simp only [Reply.next, ho]
      refine .failed (sent_of_failure ho) ?_
      rw [Reply.countP_cons_of_failure ho]
      exact Nat.lt_succ_self _
    | value data =>
      simp only [Reply.next, ho]
      by_cases hfit : data.length ≤ size
      · rw [if_pos hfit, List.take_of_length_le hfit]
        by_cases hne : data = []
        · subst hne
          exact .ended (.inr rfl) (sent_of_nothing ho) Reply.countP_le_cons
        · exact .delivered hne (sent_of_value ho hne) Reply.countP_le_cons
      · -- The part that was too long stays at the head of the queue, and it is not empty.
        have hlen : size < data.length := Nat.lt_of_not_le hfit
        have htake : data.take size ≠ [] :=
          List.ne_nil_of_length_pos (by rw [List.length_take]; omega)
        have hdrop : data.drop size ≠ [] :=
          List.ne_nil_of_length_pos (by rw [List.length_drop]; omega)
        have hdata : data ≠ [] := List.ne_nil_of_length_pos (by omega)
        rw [if_neg hfit]
        refine .delivered htake ?_ ?_
        · rw [sent_of_value ho hdata, sent_of_value rfl hdrop, ← List.append_assoc,
            List.take_append_drop]
        · exact Nat.le_trans (Nat.le_of_eq (List.countP_cons_of_neg Bool.false_ne_true))
            Reply.countP_le_cons

namespace Script.Step

variable {q rest : List (Reply Bytes)} {o : Outcome Bytes}

theorem sent_eq_nil (h : Step q rest o) (ho : o = .usual ∨ o = .value []) : sent q = [] := by
  cases h with
  | ended _ h _ => exact h
  | delivered hne h _ =>
    rcases ho with ho | ho
    · cases ho
    · cases ho
      exact absurd rfl hne
  | failed => rcases ho with ho | ho <;> cases ho

theorem sent_eq_append {data : Bytes} (h : Step q rest (.value data)) (hne : data ≠ []) :
    sent q = data ++ sent rest := by
  cases h with
  | ended ho _ _ =>
    rcases ho with ho | ho
    · cases ho
    · cases ho
      exact absurd rfl hne
  | delivered _ h _ => exact h

theorem sent_eq {f : SystemFailure} (h : Step q rest (.failure f)) :
    sent q = sent rest ∧ rest.countP Reply.fails < q.countP Reply.fails := by
  cases h with
  | ended ho _ _ => rcases ho with ho | ho <;> cases ho
  | failed h hfails => exact ⟨h, hfails⟩

theorem countP_le (h : Step q rest o) : rest.countP Reply.fails ≤ q.countP Reply.fails := by
  cases h with
  | ended _ _ h => exact h
  | delivered _ _ h => exact h
  | failed _ h => exact Nat.le_of_lt h

end Script.Step

/-! ## 2. What is to come -/

namespace Socket

/-- The octets that are still to come. -/
def coming (s : Session) : Bytes :=
  if s.socket.ended then [] else Script.sent s.socket.descriptor.script.recv

/-- How many receptions may still fail. -/
def failing (s : Session) : Nat := s.socket.descriptor.script.recv.countP Reply.fails

theorem coming_of_ended {s : Session} (h : s.socket.ended = true) : coming s = [] := by
  rw [coming, if_pos h]

theorem coming_of_not_ended {s : Session} (h : s.socket.ended = false) :
    coming s = Script.sent s.socket.descriptor.script.recv := by
  rw [coming, h]
  rfl

/-! ## 3. Receptions -/

/-- No more octets come than were asked for. -/
theorem length_le_of_takeRecv {size : Nat} {s : Script} {data : Bytes}
    (h : (s.takeRecv size).1.outcome = .value data) : data.length ≤ size := by
  unfold Script.takeRecv at h
  dsimp only at h
  split at h
  · cases h
    exact List.length_take_le ..
  · rename_i hne
    exact absurd h (hne data)

/-- What a reception of `data` leaves of the session. -/
structure Delivers (s : Session) (size : Nat) (data : Bytes) (t : Session) : Prop where
  length_le : data.length ≤ size
  keeps : s.Keeps t
  buffer : t.socket.buffer = s.socket.buffer
  ended : t.socket.ended = (s.socket.ended || data.isEmpty)
  limit : t.system.sizeLimit = s.system.sizeLimit
  noted : s.system.Noted t.system
    [.called (.on s.socket.descriptor.number (.recv size)) (.delivered data)]
  coming : 0 < size → s.socket.ended = false → coming s = data ++ coming t
  failing : 0 < size → failing t ≤ failing s

/-- What a reception that fails leaves of the session. -/
structure Refuses (s : Session) (size : Nat) (f : SystemFailure) (t : Session) : Prop where
  called : s.Called (.recv size) (.failed f) t
  coming : 0 < size → coming t = coming s
  failing : 0 < size → s.socket.descriptor.dead = false → failing t < failing s

theorem receive_ok {size : Nat} {s t : Session} {data : Bytes}
    (hq : s.socket.descriptor.script.Quiet) (h : receive size s = .ok data t) :
    Delivers s size data t := by
  unfold receive at h
  split at h
  · rename_i out u hcall
    obtain ⟨rfl, rfl⟩ := EStateM.Result.ok.inj h
    obtain ⟨hr, rfl⟩ := Session.call_ok (hq.takeRecv size).1 hcall
    obtain ⟨-, hscript, hout⟩ := Descriptor.reply_ok hr
    have hc : s.Called (.recv size) (.delivered out) (s.settled (.recv size) (.delivered out)
        (s.socket.descriptor.reply (Script.takeRecv size) fun _ => .ok [])) :=
      Session.called_settled _ fun hs => (hs.takeRecv size).2
    have hlen : out.length ≤ size := by
      rcases hout with hout | ⟨_, hout⟩
      · exact length_le_of_takeRecv hout
      · cases hout
        exact Nat.zero_le _
    have hstep (hsize : 0 < size) := Script.step_takeRecv hsize s.socket.descriptor.script
    rw [← hscript] at hstep
    cases out with
    | nil =>
      refine ⟨hlen, ⟨hc.keeps.closed, hc.keeps.number, hc.keeps.dead, hc.keeps.quiet⟩, hc.buffer,
        (Bool.or_true _).symm, hc.limit, hc.noted, fun hsize hs => ?_,
        fun hsize => (hstep hsize).countP_le⟩
      rw [coming_of_not_ended hs, coming_of_ended rfl]
      exact (hstep hsize).sent_eq_nil (hout.symm.imp And.left id)
    | cons b rest =>
      refine ⟨hlen, hc.keeps, hc.buffer, (Bool.or_false _).symm, hc.limit, hc.noted,
        fun hsize hs => ?_,
        fun hsize => (hstep hsize).countP_le⟩
      rcases hout with hout | ⟨_, hout⟩
      · have hsent := hstep hsize
        rw [hout] at hsent
        rw [coming_of_not_ended hs]
        exact (hsent.sent_eq_append (List.cons_ne_nil b rest)).trans
          (congrArg _ (Eq.symm (coming_of_not_ended hs)))
      · cases hout
  · cases h

theorem receive_error {size : Nat} {s t : Session} {e : Failure}
    (hq : s.socket.descriptor.script.Quiet) (h : receive size s = .error e t) :
    ∃ f, e = .net (if s.socket.closed then .closed "receive" else .ofSystem f) ∧
      Refuses s size f t := by
  unfold receive at h
  split at h
  · cases h
  · rename_i f u hcall
    obtain ⟨rfl, rfl⟩ := EStateM.Result.error.inj h
    obtain ⟨hr, rfl⟩ := Session.call_error (hq.takeRecv size).1 hcall
    have hc : s.Called (.recv size) (.failed f)
        (s.settled (.recv size) (.failed f)
          (s.socket.descriptor.reply (Script.takeRecv size) fun _ => .ok [])) :=
      Session.called_settled _ fun hs => (hs.takeRecv size).2
    refine ⟨f, rfl, ?_⟩
    cases hd : s.socket.descriptor.dead with
    | true =>
      refine ⟨hc, fun _ => ?_, fun _ hdead => absurd (hd.symm.trans hdead) (by decide)⟩
      rw [Descriptor.reply_of_dead hd]
      rfl
    | false =>
      have hscript : (s.socket.descriptor.reply (Script.takeRecv size)
          fun _ => .ok []).descriptor.script = (s.socket.descriptor.script.takeRecv size).2 :=
        Descriptor.script_reply hd
      have hout : (s.socket.descriptor.script.takeRecv size).1.outcome = .failure f :=
        (Session.reply_error hd hr).resolve_right fun hu => nomatch hu.2
      have hstep (hsize : 0 < size) :
          Script.sent s.socket.descriptor.script.recv
              = Script.sent (s.socket.descriptor.script.takeRecv size).2.recv ∧
            (s.socket.descriptor.script.takeRecv size).2.recv.countP Reply.fails
              < s.socket.descriptor.script.recv.countP Reply.fails := by
        have h := Script.step_takeRecv hsize s.socket.descriptor.script
        rw [hout] at h
        exact h.sent_eq
      rw [← hscript] at hstep
      refine ⟨hc, fun hsize => ?_, fun hsize _ => (hstep hsize).2⟩
      cases hs : s.socket.ended with
      | true =>
        rw [coming_of_ended hs]
        exact coming_of_ended hs
      | false =>
        rw [coming_of_not_ended hs, (hstep hsize).1]
        exact coming_of_not_ended hs

end Socket

end HttpProbe
