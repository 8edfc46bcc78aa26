import HttpProbe.Proofs.ClosedMeanwhile
import HttpProbe.Proofs.RequestFraming

/-!
# How much a request takes

A responder receives until the octets so far are enough, and the peer may send anything for as long
as it likes. So what the peer sends is taken to be endless here, one reception after the other; a
stream that ends is one that is at its end again and again:

* `Peer`: what all receptions come to, one after the other;
* `Head.Enough`: the octets hold a blank line, or there are too many of them;
* `Peer.Needs`, `Peer.Stops`: a request needs so many parts, and ends with so many receptions and
  this outcome; `Peer.exists_stops`: every request ends;
* `Socket.Awaits`, `Socket.Reached`: a session to which the peer sends this, and the session after
  the first receptions (`Reached.read`);
* `collect_of_reached`: from any reception on the reader goes on to where the request ends.
  Induction on the receptions that are left;
* **`request_bounded`**: so it makes a bounded number of receptions, whatever is sent.
-/

namespace HttpProbe

/-! ## 1. What a peer sends -/

/-- What a peer sends, one reception after the other. -/
abbrev Peer := Nat → Incoming

namespace Peer

/-- The octets of the first `k` receptions. -/
def received (peer : Peer) : Nat → Bytes
  | 0 => []
  | k + 1 => received peer k ++ (peer k).octets

/-- The first `k` receptions on the descriptor of number `n`. -/
def receptions (peer : Peer) (n : Nat) : Nat → List Event
  | 0 => []
  | k + 1 => receptions peer n k ++ [Socket.reception n (peer k).answer]

/-- The first `k` receptions deliver octets. -/
def Delivers (peer : Peer) (k : Nat) : Prop := ∀ i < k, ∃ p, peer i = .part p

/-- A peer that sends these parts and no more. -/
def ofParts (parts : List Part) : Peer := fun i => (parts[i]?).elim .ended .part

section Received

variable {peer : Peer} {j k : Nat}

theorem received_of_part {p : Part} (h : peer k = .part p) :
    peer.received (k + 1) = peer.received k ++ p.octets := by
  rw [received, h]
  rfl

/-- What was received stays received. -/
theorem prefix_received (h : j ≤ k) : peer.received j <+: peer.received k := by
  induction h with
  | refl => exact List.prefix_refl _
  | step _ ih => exact ih.trans (List.prefix_append ..)

theorem length_receptions (peer : Peer) (n k : Nat) : (peer.receptions n k).length = k := by
  induction k with
  | zero => rfl
  | succ k ih => rw [receptions, List.length_append, ih, List.length_singleton]

/-- Each reception delivers an octet at least. -/
theorem le_length_received (h : peer.Delivers k) : k ≤ (peer.received k).length := by
  induction k with
  | zero => exact Nat.zero_le _
  | succ k ih =>
    obtain ⟨p, hp⟩ := h k (Nat.lt_succ_self k)
    have hbefore := ih fun i hi => h i (Nat.lt_succ_of_lt hi)
    have hfilled := List.length_pos_of_ne_nil p.filled
    rw [received_of_part hp, List.length_append]
    omega

end Received

end Peer

/-! ## 2. Where a request ends -/

namespace Head

/-- The octets hold a blank line, with a carriage return in both line ends or in neither, or there
are too many of them. -/
def Enough (data : Bytes) : Prop :=
  blankLine <:+: data ∨ bareBlankLine <:+: data ∨ maxLength ≤ data.length

theorem isComplete_iff {data : Bytes} : isComplete data = true ↔ Enough data := by
  simp only [isComplete, Enough, Bool.or_eq_true, Bytes.occurs_iff_infix, decide_eq_true_eq,
    or_assoc]

/-- What is enough stays enough. -/
theorem Enough.of_prefix {data more : Bytes} (h : Enough data) (hmore : data <+: more) :
    Enough more :=
  h.imp (·.trans hmore.isInfix) (Or.imp (·.trans hmore.isInfix) fun hlong =>
    Nat.le_trans hlong hmore.length_le)

theorem length_lt_of_not_enough {data : Bytes} (h : ¬ Enough data) : data.length < maxLength :=
  Nat.lt_of_not_le fun hlong => h (.inr (.inr hlong))

end Head

namespace Peer

open Head Socket

/-- A request needs the first `k` receptions: they deliver octets, and fewer are not enough. -/
structure Needs (peer : Peer) (k : Nat) : Prop where
  delivers : peer.Delivers k
  short : ∀ i < k, ¬ Enough (peer.received i)

/-- A request that needs the first `k` receptions ends with `m` of them, and comes to this. -/
inductive Stops (peer : Peer) (k : Nat) : Nat → Except Failure Bytes → Prop where
  | enough (h : Enough (peer.received k)) : Stops peer k k (.ok (peer.received k))
  | ended (hshort : ¬ Enough (peer.received k)) (h : peer k = .ended) :
    Stops peer k (k + 1) (.ok (peer.received k))
  | failed {f : SystemFailure} (hshort : ¬ Enough (peer.received k)) (h : peer k = .failed f) :
    Stops peer k (k + 1) (.error (.translated f))

section Bounds

variable {peer : Peer} {k m : Nat} {outcome : Except Failure Bytes}

theorem needs_zero (peer : Peer) : peer.Needs 0 :=
  ⟨fun _ h => absurd h (Nat.not_lt_zero _), fun _ h => absurd h (Nat.not_lt_zero _)⟩

theorem Needs.succ (h : peer.Needs k) {p : Part} (hp : peer k = .part p)
    (hshort : ¬ Enough (peer.received k)) : peer.Needs (k + 1) where
  delivers i hi := by
    rcases Nat.lt_succ_iff_lt_or_eq.1 hi with hi | rfl
    · exact h.delivers i hi
    · exact ⟨p, hp⟩
  short i hi := by
    rcases Nat.lt_succ_iff_lt_or_eq.1 hi with hi | rfl
    · exact h.short i hi
    · exact hshort

/-- No more receptions are needed than a request may have octets. -/
theorem Needs.le (h : peer.Needs k) : k ≤ maxLength := by
  cases k with
  | zero => exact Nat.zero_le _
  | succ j =>
    have hfew : j ≤ (peer.received j).length :=
      le_length_received fun i hi => h.delivers i (Nat.lt_succ_of_lt hi)
    exact Nat.lt_of_le_of_lt hfew (length_lt_of_not_enough (h.short j (Nat.lt_succ_self j)))

/-- Only the last reception can deliver more than a request may have. -/
theorem Needs.length_lt (h : peer.Needs k) :
    (peer.received k).length < maxLength + readSize := by
  cases k with
  | zero => exact Nat.zero_lt_succ _
  | succ j =>
    obtain ⟨p, hp⟩ := h.delivers j (Nat.lt_succ_self j)
    have hshort := length_lt_of_not_enough (h.short j (Nat.lt_succ_self j))
    have hfits := p.fits
    rw [received_of_part hp, List.length_append]
    omega

theorem Stops.needed_le (h : peer.Stops k m outcome) : k ≤ m := by
  cases h with
  | enough _ => exact Nat.le_refl _
  | ended _ _ => exact Nat.le_succ _
  | failed _ _ => exact Nat.le_succ _

theorem Stops.le (h : peer.Stops k m outcome) (hk : peer.Needs k) : m ≤ maxLength := by
  cases h with
  | enough _ => exact hk.le
  | ended hshort _ =>
    exact Nat.lt_of_le_of_lt (le_length_received hk.delivers) (length_lt_of_not_enough hshort)
  | failed hshort _ =>
    exact Nat.lt_of_le_of_lt (le_length_received hk.delivers) (length_lt_of_not_enough hshort)

/-- **Every request ends.** As long as it does not, one more reception is needed, and there cannot
be many. -/
theorem exists_stops {j : Nat} (hj : peer.Needs j) :
    ∃ k m outcome, peer.Needs k ∧ peer.Stops k m outcome := by
  by_cases hshort : Enough (peer.received j)
  · exact ⟨j, j, _, hj, .enough hshort⟩
  cases hcomes : peer j with
  | ended => exact ⟨j, j + 1, _, hj, .ended hshort hcomes⟩
  | failed f => exact ⟨j, j + 1, _, hj, .failed hshort hcomes⟩
  | part p =>
    have hnext := hj.succ hcomes hshort
    -- The bound for the next part is what makes the measure smaller.
    have hbound := hnext.le
    exact exists_stops hnext
termination_by maxLength - j

end Bounds

end Peer

/-! ## 3. One reception after the other -/

namespace Socket

/-- What the replies to the first `m` receptions bring is what the peer sends. -/
structure Awaits (s : Session) (peer : Peer) (m : Nat) : Prop where
  fresh : Fresh s
  brings : ∀ i < m, (s.socket.descriptor.script.recv.getD i {}).Brings (peer i)

theorem Awaits.mono {s : Session} {peer : Peer} {k m : Nat} (h : Awaits s peer m) (hk : k ≤ m) :
    Awaits s peer k :=
  ⟨h.fresh, fun i hi => h.brings i (Nat.lt_of_lt_of_le hi hk)⟩

theorem Awaits.of_aside {s t : Session} {peer : Peer} {m : Nat} (h : Awaits s peer m)
    (haside : s.Aside t) : Awaits t peer m where
  fresh := h.fresh.of_aside haside
  brings i hi := by
    rw [haside.recv]
    exact h.brings i hi

/-- A connection on which these parts come and no more. -/
def caller (parts : List Part) : Socket where
  descriptor := { number := 4, peer := some ⟨"127.0.0.1", 50000, []⟩, script :=
    { recv := parts.map fun p => { outcome := .value p.octets } } }

theorem awaits_caller (parts : List Part) (system : System) (m : Nat) :
    Awaits ⟨caller parts, system⟩ (Peer.ofParts parts) m where
  fresh := ⟨rfl, rfl, rfl⟩
  brings i _ := by
    rw [caller, Peer.ofParts, List.getD_eq_getElem?_getD, List.getElem?_map]
    cases parts[i]? with
    | none => exact .ended rfl (.inl rfl)
    | some p => exact .part ⟨rfl, rfl, p.filled, p.fits⟩

/-- From `s` the first `k` receptions lead to `t`. -/
structure Reached (s : Session) (peer : Peer) (k : Nat) (t : Session) : Prop where
  fresh : Fresh t
  number : t.socket.descriptor.number = s.socket.descriptor.number
  recv : t.socket.descriptor.script.recv = s.socket.descriptor.script.recv.drop k
  noted : s.system.Noted t.system (peer.receptions s.socket.descriptor.number k)

theorem reached_zero {s : Session} (hs : Fresh s) (peer : Peer) : Reached s peer 0 s :=
  ⟨hs, rfl, rfl, .refl _⟩

theorem next_drop (q : List (Reply Bytes)) (k : Nat) :
    (Reply.next (q.drop k)).1 = q.getD k {} ∧ (Reply.next (q.drop k)).2 = q.drop (k + 1) := by
  induction q generalizing k with
  | nil => simp [Reply.next]
  | cons r rest ih =>
    cases k with
    | zero => exact ⟨rfl, rfl⟩
    | succ k => exact ih k

/-- One reception more. -/
theorem Reached.read {s t : Session} {peer : Peer} {k m : Nat} (h : Reached s peer k t)
    (hs : Awaits s peer m) (hk : k < m) :
    ∃ u, Socket.read readSize t = (peer k).result u ∧ Reached s peer (k + 1) u := by
  obtain ⟨hreply, hrest⟩ := next_drop s.socket.descriptor.script.recv k
  have hbrings : (Reply.next t.socket.descriptor.script.recv).1.Brings (peer k) := by
    rw [h.recv, hreply]
    exact hs.brings k hk
  obtain ⟨u, hread, ⟨hfresh, hnumber, hrecv, hnoted⟩⟩ := read_of_brings h.fresh hbrings
  rw [h.recv, hrest] at hrecv
  rw [h.number] at hnoted
  exact ⟨u, hread, hfresh, hnumber.trans h.number, hrecv, h.noted.trans hnoted⟩

end Socket

/-! ## 4. All receptions -/

namespace Responder

open Socket

theorem collect_of_enough {s : Session} {sofar : Bytes} (h : Head.Enough sofar) :
    collect s sofar = .ok sofar s := by
  rw [collect, dif_pos (Head.isComplete_iff.2 h)]

theorem collect_of_ended {s t : Session} {sofar : Bytes} (h : ¬ Head.Enough sofar)
    (hread : read readSize s = .ok [] t) : collect s sofar = .ok sofar t := by
  rw [collect, dif_neg (mt Head.isComplete_iff.1 h), hread]

theorem collect_of_failed {s t : Session} {sofar : Bytes} {f : Failure}
    (h : ¬ Head.Enough sofar) (hread : read readSize s = .error f t) :
    collect s sofar = .error f t := by
  rw [collect, dif_neg (mt Head.isComplete_iff.1 h), hread]

theorem collect_of_part {s t : Session} {sofar : Bytes} {p : Part} (h : ¬ Head.Enough sofar)
    (hread : read readSize s = .ok p.octets t) :
    collect s sofar = collect t (sofar ++ p.octets) := by
  rw [collect, dif_neg (mt Head.isComplete_iff.1 h), hread]
  cases hp : p.octets with
  | nil => exact absurd hp p.filled
  | cons b rest => rfl

section Requests

variable {peer : Peer} {k m : Nat} {told : Except Failure Bytes} {s : Session}

/-- From any reception on, the reader goes on to where the request ends. Induction on the
receptions that are left: as long as one is needed, the octets before it are not enough. -/
theorem collect_of_reached (hk : peer.Needs k) (hstops : peer.Stops k m told)
    (hs : Awaits s peer m) {j : Nat} (hj : j ≤ k) {t : Session} (ht : Reached s peer j t) :
    outcome (collect t (peer.received j)) = told ∧
      Reached s peer m (after (collect t (peer.received j))) := by
  rcases Nat.lt_or_eq_of_le hj with hlt | rfl
  · obtain ⟨p, hp⟩ := hk.delivers j hlt
    have hm : j < m := Nat.lt_of_lt_of_le hlt hstops.needed_le
    obtain ⟨u, hread, hu⟩ := ht.read hs hm
    rw [hp] at hread
    rw [collect_of_part (hk.short j hlt) hread, ← Peer.received_of_part hp]
    exact collect_of_reached hk hstops hs hlt hu
  · cases hstops with
    | enough h =>
      rw [collect_of_enough h]
      exact ⟨rfl, ht⟩
    | ended hshort h =>
      obtain ⟨u, hread, hu⟩ := ht.read hs (Nat.lt_succ_self _)
      rw [h] at hread
      rw [collect_of_ended hshort hread]
      exact ⟨rfl, hu⟩
    | failed hshort h =>
      obtain ⟨u, hread, hu⟩ := ht.read hs (Nat.lt_succ_self _)
      rw [h] at hread
      rw [collect_of_failed hshort hread]
      exact ⟨rfl, hu⟩
termination_by k - j

theorem readRequest_of_stops (hk : peer.Needs k) (hstops : peer.Stops k m told)
    (hs : Awaits s peer m) :
    outcome (readRequest s) = told ∧
      Reached s peer m (after (readRequest s)) :=
  collect_of_reached hk hstops hs (Nat.zero_le k) (reached_zero hs.fresh peer)

end Requests

/-- **A request is bounded.** Whatever a peer sends, even without an end, a request needs a number
of parts: as few as are enough, or all that come before the stream ends or a reception fails. They
are no more than the octets that a request may have, and only the last one can go beyond these. A
reader to which the peer sends this takes the parts, and then the end of the stream or the failure
if they are not enough, receives no more, and comes to their octets or to the failure. -/
theorem request_bounded (peer : Peer) :
    ∃ k m told, peer.Needs k ∧ peer.Stops k m told ∧ k ≤ m ∧ m ≤ Head.maxLength ∧
      (peer.received k).length < Head.maxLength + readSize ∧
      ∀ s, Awaits s peer m →
        outcome (readRequest s) = told ∧
          s.system.Noted (after (readRequest s)).system
            (peer.receptions s.socket.descriptor.number m) := by
  obtain ⟨k, m, told, hk, hstops⟩ := Peer.exists_stops (Peer.needs_zero peer)
  refine ⟨k, m, told, hk, hstops, hstops.needed_le, hstops.le hk, hk.length_lt, ?_⟩
  intro s hs
  obtain ⟨houtcome, hreached⟩ := readRequest_of_stops hk hstops hs
  exact ⟨houtcome, hreached.noted⟩

/-- As many octets of one line as a reception can deliver. -/
def fullPart : Part where
  octets := List.replicate readSize 97
  filled := List.ne_nil_of_length_pos (by rw [List.length_replicate]; decide)
  fits := Nat.le_of_eq List.length_replicate

/-- A peer that sends a line without an end. -/
def endless : Peer := fun _ => .part fullPart

/-- A session to which it sends its line. -/
def endlessSession : Session where
  socket := { descriptor := { number := 4, script :=
    { recv := List.replicate Head.maxLength { outcome := .value fullPart.octets } } } }
  system := {}

theorem received_endless (k : Nat) : endless.received k = List.replicate (k * readSize) 97 := by
  induction k with
  | zero => rw [Nat.zero_mul]; rfl
  | succ k ih =>
    rw [Peer.received_of_part rfl, ih, fullPart, List.replicate_append_replicate, Nat.succ_mul]

theorem awaits_endless {m : Nat} (hm : m ≤ Head.maxLength) : Awaits endlessSession endless m where
  fresh := ⟨rfl, rfl, rfl⟩
  brings i hi := by
    have hlt : i < Head.maxLength := Nat.lt_of_lt_of_le hi hm
    rw [endlessSession, List.getD_eq_getElem?_getD, List.getElem?_replicate, if_pos hlt]
    exact .part ⟨rfl, rfl, fullPart.filled, fullPart.fits⟩

theorem le_of_enough_replicate {n : Nat} (h : Head.Enough (List.replicate n 97)) :
    Head.maxLength ≤ n := by
  rcases h with h | h | h
  · have hmem : Bytes.lineFeed ∈ List.replicate n 97 := h.subset (by decide)
    exact absurd (List.eq_of_mem_replicate hmem) (by decide)
  · have hmem : Bytes.lineFeed ∈ List.replicate n 97 := h.subset (by decide)
    exact absurd (List.eq_of_mem_replicate hmem) (by decide)
  · rwa [List.length_replicate] at h

theorem request_bounded_endless :
    Awaits endlessSession endless Head.maxLength ∧
      outcome (readRequest endlessSession) = .ok (List.replicate Head.maxLength 97) := by
  refine ⟨awaits_endless (Nat.le_refl _), ?_⟩
  obtain ⟨k, m, told, -, hstops, -, hm, hlength, hreads⟩ := request_bounded endless
  obtain ⟨houtcome, -⟩ := hreads endlessSession (awaits_endless hm)
  rw [houtcome]
  cases hstops with
  | ended _ h => cases h
  | failed _ h => cases h
  | enough h =>
    rw [received_endless] at h hlength ⊢
    have hmin := le_of_enough_replicate h
    rw [List.length_replicate] at hlength
    have hcount : k * readSize = Head.maxLength := by
      unfold readSize Head.maxLength at *
      omega
    rw [hcount]

end Responder

end HttpProbe
