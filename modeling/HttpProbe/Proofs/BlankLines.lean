import HttpProbe.Proofs.RequestReceptions

/-!
# Where a reader sees a blank line

A line may end with a line feed or with a carriage return and a line feed, and so may the empty line
after it. A reader of a request looks for two of the four pairs, and a third one holds one of these:

* `LineEnd`, `Head.Blank`: how a line ends, and a line end with an empty line after it;
* `Head.enough_of_blank`: three of the pairs are enough; `Head.not_enough_of_blank`: the fourth one,
  a line feed and then a carriage return and a line feed, is not;
* `Peer.needed_of_enough`, `Peer.goes_on`: a request ends with the first part after which the octets
  are enough, and not before;
* **`blankLine_ends_request`**: so a reader receives no more after a blank line, unless it is the
  fourth pair: after that it waits for more (`blankLine_missed`).
-/

namespace HttpProbe

/-! ## 1. Line ends -/

/-- How a line ends. -/
inductive LineEnd where
  | feed
  | returnFeed
deriving DecidableEq

/-- The octets of a line end. -/
def LineEnd.octets : LineEnd → Bytes
  | feed => [Bytes.lineFeed]
  | returnFeed => Bytes.crlf

namespace Head

/-- In the octets a line ends like this, and after it comes an empty line that ends like that. -/
def Blank (line blank : LineEnd) (data : Bytes) : Prop := line.octets ++ blank.octets <:+: data

instance (line blank : LineEnd) (data : Bytes) : Decidable (Blank line blank data) :=
  inferInstanceAs (Decidable (_ <:+: _))

variable {line blank : LineEnd} {data : Bytes}

theorem enough_of_blank (h : Blank line blank data) (hseen : line = .feed → blank = .feed) :
    Enough data := by
  cases line with
  | feed =>
    obtain rfl := hseen rfl
    exact .inr (.inl h)
  | returnFeed =>
    cases blank with
    | feed =>
      -- The line feed of the line end and the one after it stand side by side.
      have hbare : bareBlankLine <:+: LineEnd.returnFeed.octets ++ LineEnd.feed.octets :=
        (List.suffix_cons _ _).isInfix
      exact .inr (.inl (hbare.trans h))
    | returnFeed => exact .inl h

theorem not_enough_of_blank (hlength : data.length < maxLength)
    (hunseen : ∀ line blank, Blank line blank data → line = .feed ∧ blank = .returnFeed) :
    ¬ Enough data := by
  rintro (h | h | h)
  · exact absurd (hunseen .returnFeed .returnFeed h).1 (by decide)
  · exact absurd (hunseen .feed .feed h).2 (by decide)
  · exact absurd hlength (Nat.not_lt_of_le h)

end Head

/-! ## 2. The part that is enough -/

namespace Peer

open Head

variable {peer : Peer} {j : Nat}

/-- If the octets of the first parts are enough, as few parts as are enough are among them. -/
theorem needed_of_enough (hparts : peer.Delivers j) (h : Enough (peer.received j)) :
    ∃ k ≤ j, peer.Needs k ∧ Enough (peer.received k) := by
  obtain ⟨k, m, outcome, hk, hstops⟩ := exists_stops (needs_zero peer)
  have hle : k ≤ j := Nat.le_of_not_lt fun hlt => hk.short j hlt h
  have hpart (hshort : ¬ Enough (peer.received k)) : ∃ p, peer k = .part p := by
    refine hparts k (Nat.lt_of_le_of_ne hle ?_)
    rintro rfl
    exact hshort h
  refine ⟨k, hle, hk, ?_⟩
  cases hstops with
  | enough h => exact h
  | ended hshort hend =>
    obtain ⟨p, hp⟩ := hpart hshort
    cases hend.symm.trans hp
  | failed hshort hfail =>
    obtain ⟨p, hp⟩ := hpart hshort
    cases hfail.symm.trans hp

/-- If the octets of the first parts are not enough, a request ends with a later reception. -/
theorem goes_on (hparts : peer.Delivers j) (h : ¬ Enough (peer.received j)) :
    ∃ k m outcome, peer.Needs k ∧ peer.Stops k m outcome ∧ j < m := by
  obtain ⟨k, m, outcome, hk, hstops⟩ := exists_stops (needs_zero peer)
  refine ⟨k, m, outcome, hk, hstops, ?_⟩
  have hle (hnone : ∀ p, peer k ≠ .part p) : j ≤ k := by
    refine Nat.le_of_not_lt fun hlt => ?_
    obtain ⟨p, hp⟩ := hparts k hlt
    exact hnone p hp
  cases hstops with
  | enough henough =>
    refine Nat.lt_of_not_le fun hk => h (henough.of_prefix (prefix_received hk))
  | ended _ hend => exact Nat.lt_succ_of_le (hle fun p hp => nomatch hend.symm.trans hp)
  | failed _ hfail => exact Nat.lt_succ_of_le (hle fun p hp => nomatch hfail.symm.trans hp)

end Peer

/-! ## 3. The reader -/

namespace Responder

open Socket

section Receptions

variable {peer : Peer} {j : Nat}

theorem receives_no_more (hparts : peer.Delivers j) (h : Head.Enough (peer.received j)) :
    ∃ k ≤ j, peer.Needs k ∧ Head.Enough (peer.received k) ∧ ∀ s, Awaits s peer k →
      outcome (readRequest s) = .ok (peer.received k) ∧
        s.system.Noted (after (readRequest s)).system
          (peer.receptions s.socket.descriptor.number k) := by
  obtain ⟨k, hle, hk, henough⟩ := Peer.needed_of_enough hparts h
  refine ⟨k, hle, hk, henough, fun s hs => ?_⟩
  obtain ⟨houtcome, hreached⟩ := readRequest_of_stops hk (.enough henough) hs
  exact ⟨houtcome, hreached.noted⟩

theorem receives_again (hparts : peer.Delivers j) (h : ¬ Head.Enough (peer.received j)) :
    ∃ m > j, ∀ s, Awaits s peer m →
      s.system.Noted (after (readRequest s)).system
        (peer.receptions s.socket.descriptor.number m) := by
  obtain ⟨k, m, outcome, hk, hstops, hlater⟩ := Peer.goes_on hparts h
  exact ⟨m, hlater, fun s hs => (readRequest_of_stops hk hstops hs).2.noted⟩

end Receptions

/-- **A blank line ends a request.** Let the first `j` receptions deliver octets.

* If a blank line stands in them, and not with a line feed before it and a carriage return in it, a
  reader takes as few of the parts as are enough, gives their octets, and receives no more.
* If no other blank line stands in them, and they are not too many, a reader receives again. -/
theorem blankLine_ends_request (peer : Peer) {j : Nat} (hparts : peer.Delivers j) :
    (∀ line blank, Head.Blank line blank (peer.received j) → (line = .feed → blank = .feed) →
      ∃ k ≤ j, peer.Needs k ∧ Head.Enough (peer.received k) ∧ ∀ s, Awaits s peer k →
        outcome (readRequest s) = .ok (peer.received k) ∧
          s.system.Noted (after (readRequest s)).system
            (peer.receptions s.socket.descriptor.number k)) ∧
      ((peer.received j).length < Head.maxLength →
        (∀ line blank, Head.Blank line blank (peer.received j) →
          line = .feed ∧ blank = .returnFeed) →
        ∃ m > j, ∀ s, Awaits s peer m →
          s.system.Noted (after (readRequest s)).system
            (peer.receptions s.socket.descriptor.number m)) := by
  constructor
  · intro line blank hblank hseen
    exact receives_no_more hparts (Head.enough_of_blank hblank hseen)
  · intro hlength hunseen
    exact receives_again hparts (Head.not_enough_of_blank hlength hunseen)

/-- A request of which the line comes before the line feed of its blank line, and an octet
after it. -/
def halves : List Part :=
  [⟨[71, 69, 84, 32, 47, 13, 10], by decide, by decide⟩, ⟨[10], by decide, by decide⟩,
    ⟨[88], by decide, by decide⟩]

theorem blankLine_ends_request_halves :
    (Peer.ofParts halves).Delivers 2 ∧
      Head.Blank .returnFeed .feed ((Peer.ofParts halves).received 2) ∧
      outcome (readRequest ⟨caller halves, {}⟩)
        = .ok [71, 69, 84, 32, 47, 13, 10, 10] := by
  have hparts : (Peer.ofParts halves).Delivers 2 := by
    rintro (_ | _ | i) hi
    · exact ⟨_, rfl⟩
    · exact ⟨_, rfl⟩
    · exact absurd hi (by omega)
  have hblank : Head.Blank .returnFeed .feed ((Peer.ofParts halves).received 2) := by decide
  refine ⟨hparts, hblank, ?_⟩
  obtain ⟨k, hle, -, henough, hreads⟩ :=
    (blankLine_ends_request (Peer.ofParts halves) hparts).1 _ _ hblank fun h => nomatch h
  have hk : k = 2 := by
    rw [← Head.isComplete_iff] at henough
    match k with
    | 0 => exact absurd henough (by decide)
    | 1 => exact absurd henough (by decide)
    | 2 => rfl
  subst hk
  exact (hreads _ (awaits_caller _ _ _)).1

/-- A request with a line feed after its line and a carriage return in its blank line, and an octet
after it. -/
def mixed : List Part :=
  [⟨[71, 69, 84, 32, 47, 32, 72, 84, 84, 80, 47, 49, 46, 48, 10, 13, 10], by decide, by decide⟩,
    ⟨[88], by decide, by decide⟩]

/-- **A blank line is missed**: it was received, and the reader does not stop there. -/
theorem blankLine_missed :
    (Peer.ofParts mixed).Delivers 1 ∧
      Head.Blank .feed .returnFeed ((Peer.ofParts mixed).received 1) ∧
      ¬ ∃ k ≤ 1, ∀ s, Awaits s (Peer.ofParts mixed) k →
        outcome (readRequest s) = .ok ((Peer.ofParts mixed).received k) ∧
          s.system.Noted (after (readRequest s)).system
            ((Peer.ofParts mixed).receptions s.socket.descriptor.number k) := by
  have hparts : (Peer.ofParts mixed).Delivers 1 := by
    rintro (_ | i) hi
    · exact ⟨_, rfl⟩
    · exact absurd hi (by omega)
  refine ⟨hparts, by decide, ?_⟩
  rintro ⟨k, hk, hreads⟩
  have hshort : ¬ Head.Enough ((Peer.ofParts mixed).received 1) := by
    rw [← Head.isComplete_iff]
    decide
  obtain ⟨m, hm, hagain⟩ := receives_again hparts hshort
  have hsame := ((hreads ⟨caller mixed, {}⟩ (awaits_caller _ _ _)).2).unique
    (hagain _ (awaits_caller _ _ _))
  have hcount := congrArg List.length hsame
  rw [Peer.length_receptions, Peer.length_receptions] at hcount
  omega

end Responder

end HttpProbe
