import HttpProbe.Proofs.ExitNumber
import HttpProbe.Proofs.LaterReplies
import HttpProbe.Proofs.ResponseFraming

/-!
# Peers that send without an end

A script says only so much of what a peer sends, and a peer may send for ever. So a peer is an
endless row of replies here, and what a script says of it are the first ones (`firstReplies`). What
a run comes to is settled by so many of them that the first line ends among them:

* `readLine_settled`: a read of a line;
* **`run_settled`**: the whole command;
* **`readLine_unsettled`**: a line that never ends is received without an end. However many replies
  there are, all of them are taken.

The reader of requests has a bound, so nothing of the kind can happen to it.
-/

namespace HttpProbe

/-! ## 1. Endless rows of replies -/

/-- The session whose peer sends this. -/
def Session.hearing (s : Session) (replies : List (Reply Bytes)) : Session :=
  { s with socket.descriptor.script.recv := replies }

/-- The system whose next socket has this script, and this peer. -/
def System.facing (s : System) (script : Script) (replies : List (Reply Bytes)) : System :=
  { s with sockets := .ok { script with recv := replies } :: s.sockets }

/-- The first replies of a peer. -/
def firstReplies (peer : Nat → Reply Bytes) (n : Nat) : List (Reply Bytes) :=
  (List.range n).map peer

section Replies

variable {peer : Nat → Reply Bytes} {k m n : Nat}

theorem length_firstReplies (peer : Nat → Reply Bytes) (n : Nat) :
    (firstReplies peer n).length = n := by
  rw [firstReplies, List.length_map, List.length_range]

theorem mem_firstReplies {r : Reply Bytes} :
    r ∈ firstReplies peer n ↔ ∃ i < n, peer i = r := by
  simp only [firstReplies, List.mem_map, List.mem_range]

theorem firstReplies_eq (peer : Nat → Reply Bytes) (h : k ≤ m) :
    firstReplies peer m = firstReplies peer k ++ (firstReplies peer m).drop k := by
  have htake : (firstReplies peer m).take k = firstReplies peer k := by
    rw [firstReplies, ← List.map_take, List.take_range, Nat.min_eq_left h, firstReplies]
  rw [← htake, List.take_append_drop]

theorem exists_endsLine (h : (peer k).EndsLine) : ∃ r ∈ firstReplies peer (k + 1), r.EndsLine :=
  ⟨peer k, mem_firstReplies.2 ⟨k, Nat.lt_succ_self k, rfl⟩, h⟩

end Replies

/-! ## 2. A line that ends -/

namespace Socket

open Session

variable {peer : Nat → Reply Bytes} {k m : Nat}

/-- **A line that ends is settled.** Once a reply of the peer has ended the next line, a read of it
comes to the same however many replies there are after it, and leaves these for later. -/
theorem readLine_settled (s : Session) (hends : (peer k).EndsLine) (hm : k < m) :
    readLine (s.hearing (firstReplies peer m))
      = sequel ((firstReplies peer m).drop (k + 1))
          (readLine (s.hearing (firstReplies peer (k + 1)))) := by
  have hsplit := firstReplies_eq peer (Nat.succ_le_of_lt hm)
  have hsettled : Settled (s.hearing (firstReplies peer (k + 1))) :=
    .inr (.inr (exists_endsLine hends))
  rw [← readLine_followedBy hsettled]
  congr 1
  exact congrArg s.hearing hsplit

end Socket

/-! ## 3. A line without an end -/

/-- A reply that ends no line delivers something. -/
theorem Reply.delivers_of_not_endsLine {r : Reply Bytes} (h : ¬ r.EndsLine) :
    ∃ data, r.outcome = .value data ∧ data ≠ [] ∧ Bytes.lineFeed ∉ data := by
  rw [EndsLine, not_or] at h
  obtain ⟨hne, hline⟩ := h
  unfold Script.octets at hne hline
  cases ho : r.outcome with
  | value data =>
    rw [ho] at hne hline
    exact ⟨data, rfl, hne, hline⟩
  | usual =>
    rw [ho] at hne
    exact absurd rfl hne
  | failure f =>
    rw [ho] at hne
    exact absurd rfl hne

section Unending

variable {q : List (Reply Bytes)} (hq : ∀ r ∈ q, ¬ r.EndsLine)

include hq

theorem lineFeed_notMem_sent : Bytes.lineFeed ∉ Script.sent q := by
  induction q with
  | nil => exact List.not_mem_nil
  | cons r rest ih =>
    obtain ⟨data, ho, hne, hline⟩ := Reply.delivers_of_not_endsLine (hq r List.mem_cons_self)
    rw [Script.sent_of_value ho hne, List.mem_append, not_or]
    exact ⟨hline, ih fun r hr => hq r (List.mem_cons_of_mem _ hr)⟩

theorem length_le_length_sent : q.length ≤ (Script.sent q).length := by
  induction q with
  | nil => exact Nat.le_refl 0
  | cons r rest ih =>
    obtain ⟨data, ho, hne, -⟩ := Reply.delivers_of_not_endsLine (hq r List.mem_cons_self)
    have hrest := ih fun r hr => hq r (List.mem_cons_of_mem _ hr)
    have hfilled := List.length_pos_of_ne_nil hne
    rw [Script.sent_of_value ho hne, List.length_append, List.length_cons]
    omega

theorem countP_fails_eq_zero : q.countP Reply.fails = 0 := by
  rw [List.countP_eq_zero]
  intro r hr
  obtain ⟨data, ho, -⟩ := Reply.delivers_of_not_endsLine (hq r hr)
  rw [Reply.fails, ho]
  exact Bool.false_ne_true

end Unending

namespace Socket

variable {s : Session}

/-- What is left is one line that does not end: all of it is taken. -/
theorem readRaw_of_unended (hs : Flowing s) (hline : Bytes.lineFeed ∉ left s) :
    ∃ t, readRaw s = .ok (left s) t := by
  obtain ⟨es, failure, hr⟩ := reads_readRaw hs.usable.quiet
  have hcoming := hr.coming
  have htakes := hr.takes
  have hfails := hr.failing hs.usable.alive
  rw [hs.unfailing] at hfails
  cases hraw : readRaw s with
  | error e t =>
    rw [hraw] at htakes hfails
    cases htakes with
    | failed => exact absurd hfails (Nat.not_succ_le_zero _)
  | ok line t =>
    rw [hraw] at htakes hcoming
    refine ⟨t, ?_⟩
    have hleft : left s = s.socket.buffer ++ Event.octets es ++ coming t := by
      rw [left, hcoming, List.append_assoc]
      rfl
    cases htakes with
    | fed _ hbuf =>
      refine absurd ?_ hline
      rw [hleft, hbuf]
      exact List.mem_append_left _ (List.mem_append_right _ List.mem_cons_self)
    | ended _ hbuf _ hended => rw [hleft, coming_of_ended hended, List.append_nil, hbuf]

section Endless

variable {peer : Nat → Reply Bytes}

theorem flowing_hearing {s : Session} (hs : Flowing s) (hpeer : ∀ i, ¬ (peer i).EndsLine)
    (hquiet : ∀ i, (peer i).closing = false) (m : Nat) :
    Flowing (s.hearing (firstReplies peer m)) where
  usable := ⟨hs.usable.isOpen, hs.usable.alive, { hs.usable.quiet with
    recv := fun r hr => by
      obtain ⟨i, -, rfl⟩ := mem_firstReplies.1 hr
      exact hquiet i }⟩
  unfailing := countP_fails_eq_zero fun r hr => by
    obtain ⟨i, -, rfl⟩ := mem_firstReplies.1 hr
    exact hpeer i
  goesOn := hs.goesOn

/-- **A line without an end is received without an end.** Let no reply of a peer end a line. However
many of them there are, a read of a line takes all of them and asks for more: what it gives is all
that was sent, and nothing bounds its length. -/
theorem readLine_unsettled {s : Session} (hs : Flowing s)
    (hbuffer : Bytes.lineFeed ∉ s.socket.buffer) (hpeer : ∀ i, ¬ (peer i).EndsLine)
    (hquiet : ∀ i, (peer i).closing = false) (m : Nat) :
    ∃ t, readLine (s.hearing (firstReplies peer m))
        = .ok (Utf8.decode (s.socket.buffer ++ Script.sent (firstReplies peer m))) t ∧
      m ≤ (Script.sent (firstReplies peer m)).length := by
  have hflowing := flowing_hearing hs hpeer hquiet m
  have hreplies : ∀ r ∈ firstReplies peer m, ¬ r.EndsLine := by
    intro r hr
    obtain ⟨i, -, rfl⟩ := mem_firstReplies.1 hr
    exact hpeer i
  have hleft : left (s.hearing (firstReplies peer m))
      = s.socket.buffer ++ Script.sent (firstReplies peer m) := by
    rw [left, coming_of_not_ended hflowing.goesOn]
    rfl
  have hline : Bytes.lineFeed ∉ left (s.hearing (firstReplies peer m)) := by
    rw [hleft, List.mem_append, not_or]
    exact ⟨hbuffer, lineFeed_notMem_sent hreplies⟩
  obtain ⟨t, hraw⟩ := readRaw_of_unended hflowing hline
  rw [hleft] at hraw
  refine ⟨_, readLine_of_ok hflowing.usable.isOpen hraw, ?_⟩
  calc m = (firstReplies peer m).length := (length_firstReplies peer m).symm
    _ ≤ (Script.sent (firstReplies peer m)).length := length_le_length_sent hreplies

end Endless

end Socket

/-! ## 4. The command -/

namespace Check

open Session

variable {order : Order} {later : List (Reply Bytes)} {replies : List (Reply Bytes)}

theorem converse_followedBy {s : Session}
    (h : ∃ r ∈ s.socket.descriptor.script.recv, r.EndsLine) (order : Order) (data : Bytes)
    (later : List (Reply Bytes)) :
    converse order data (s.followedBy later) = sequel later (converse order data s) := by
  refine (Socket.heedless_connect ..).bind_sequel fun _ t hconnected => ?_
  refine (Socket.heedless_write _).bind_sequel fun _ u hsent => ?_
  exact Socket.readLine_followedBy (.inr (.inr (hsent ▸ hconnected ▸ h))) later

theorem exchange_followedBy (h : ∃ r ∈ replies, r.EndsLine) (s : System) (script : Script)
    (data : Bytes) :
    exchange order data (s.facing script (replies ++ later))
      = exchange order data (s.facing script replies) := by
  have hopened :
      opened (s.facing script (replies ++ later)) { script with recv := replies ++ later } = (opened (s.facing script replies) { script with recv := replies }).followedBy later := rfl
  have hsame := converse_followedBy
    (s := opened (s.facing script replies) { script with recv := replies }) h order data later
  have hnext : nextSocket (s.facing script replies) = .ok { script with recv := replies } := rfl
  have hnext' : nextSocket (s.facing script (replies ++ later))
      = .ok { script with recv := replies ++ later } := rfl
  unfold exchange
  rw [createDefault_of_ok hnext', createDefault_of_ok hnext]
  dsimp only
  rw [hopened, hsame]
  cases converse order data (opened (s.facing script replies) { script with recv := replies }) with
  | ok line t =>
    dsimp only [sequel, after]
    rw [heedless_close.same]
    cases t.close <;> rfl
  | error f t =>
    dsimp only [sequel, after]
    rw [heedless_close.same]
    cases t.close <;> rfl

theorem check_followedBy (h : ∃ r ∈ replies, r.EndsLine) (s : System) (script : Script)
    {data : Bytes} (hdata : order.request.toBytes = .ok data) :
    check order (s.facing script (replies ++ later)) = check order (s.facing script replies) := by
  unfold check
  rw [hdata]
  dsimp only
  rw [exchange_followedBy h]

end Check

namespace Command

variable {peer : Nat → Reply Bytes} {k m : Nat}

/-- **The command comes to an end.** A peer may send for ever: once a reply of it has ended the
first line, what the command says, how it ends and which calls it makes are settled. -/
theorem run_settled (clock : String) (env : Environment) (words : List String) (s : System)
    (script : Script) (hends : (peer k).EndsLine) (hm : k < m) :
    (run clock env words (s.facing script (firstReplies peer m))).1
        = (run clock env words (s.facing script (firstReplies peer (k + 1)))).1 ∧
      (run clock env words (s.facing script (firstReplies peer m))).2.events
        = (run clock env words (s.facing script (firstReplies peer (k + 1)))).2.events := by
  rw [firstReplies_eq peer (Nat.succ_le_of_lt hm)]
  unfold run
  cases Invocation.read env words with
  | error why => exact ⟨rfl, rfl⟩
  | ok i =>
    obtain ⟨data, hdata⟩ := toBytes_order i.settings
    dsimp only
    unfold perform
    rw [Check.check_followedBy (exists_endsLine hends) s script hdata]
    exact ⟨rfl, rfl⟩

end Command

end HttpProbe
