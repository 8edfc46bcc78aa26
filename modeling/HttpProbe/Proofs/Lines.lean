import HttpProbe.Proofs.LineReceptions
import HttpProbe.Proofs.Utf8Reading

/-!
# The lines of a stream

Lines are read out of a buffer that is filled a part at a time, and a read may fail half way and be
made again. None of this is seen in the lines:

* `Utf8.lines`: the text of all the octets, cut at every line feed. Reading octets as text goes with
  cutting them at a line feed (`lines_append_lineFeed`), whatever stands beside it;
* `left`: the octets that are left to read, buffered or still to come;
* `Owes`: the lines that reads of a line are still to give, and `gives_readLine`, one such read;
* **`readLines_eq_lines`**: reads of a line give the lines of what was left, in order.
-/

namespace HttpProbe

/-! ## 1. Lines of octets -/

namespace Utf8

/-- The lines of octets: the text that they stand for, cut at every line feed. -/
def lines (bs : Bytes) : List String := ((decode bs).toList.splitOn '\n').map String.ofList

theorem lineFeed_notMem_decodeChars {bs : Bytes} (h : Bytes.lineFeed ∉ bs) :
    '\n' ∉ decodeChars bs := fun hmem => h (lineFeed_mem_of_mem_decodeChars bs hmem)

theorem lines_append_lineFeed {a : Bytes} (h : Bytes.lineFeed ∉ a) (b : Bytes) :
    lines (a ++ Bytes.lineFeed :: b) = decode a :: lines b := by
  rw [lines, lines, toList_decode, toList_decode, decodeChars_lineFeed,
    List.splitOn_append_cons_self_of_not_mem (lineFeed_notMem_decodeChars h), List.map_cons]
  rfl

theorem lines_ne_nil (bs : Bytes) : lines bs ≠ [] := fun h =>
  List.splitOn_ne_nil '\n' (decode bs).toList (List.map_eq_nil_iff.1 h)

theorem lines_of_notMem {a : Bytes} (h : Bytes.lineFeed ∉ a) : lines a = [decode a] := by
  rw [lines, toList_decode, List.splitOn_eq_singleton (lineFeed_notMem_decodeChars h)]
  rfl

end Utf8

namespace Socket

/-! ## 2. One line -/

/-- The octets that are left to read: on a new socket all that the peer sends, however it
sends it. -/
def left (s : Session) : Bytes := s.socket.buffer ++ coming s

/-- The lines that are still to be given: those of what is left, or none if the last line was
given. -/
inductive Owes (s : Session) : List String → Prop where
  | lines : Owes s (Utf8.lines (left s))
  | finished (hended : s.socket.ended = true) (hbuf : s.socket.buffer = []) : Owes s []

/-- A read of a line gives the next line, or it fails and everything is owed as before. -/
inductive Gives (s : Session) (owed : List String) :
    Option SystemFailure → EStateM.Result Failure Session String → Prop where
  | line {t : Session} (ho : Owes t owed.tail) (hf : failing t ≤ failing s) :
    Gives s owed none (.ok (owed.headD "") t)
  | failed {f : SystemFailure} {t : Session} (ho : Owes t owed) (hf : failing t < failing s) :
    Gives s owed (some f) (.error (.net (.ofSystem f)) t)

section OneLine

variable {s : Session} {es : List Event} {failure : Option SystemFailure} {owed : List String}

/-- The octets that a read of a line takes are the next that were left. -/
theorem left_of_reads {r : EStateM.Result Failure Session Bytes} (h : Reads s es failure r)
    (taken : Bytes)
    (hbuf : s.socket.buffer ++ Event.octets es = taken ++ (after r).socket.buffer) :
    left s = taken ++ left (after r) := by
  rw [left, left, h.coming, ← List.append_assoc, hbuf, List.append_assoc]

theorem left_of_finished (hended : s.socket.ended = true) (hbuf : s.socket.buffer = []) :
    left s = [] := by
  rw [left, hbuf, coming_of_ended hended, List.append_nil]

theorem gives_of_fed {line : Bytes} {t : Session} (ho : Owes s owed)
    (hline : Bytes.lineFeed ∉ line) (hleft : left s = line ++ Bytes.lineFeed :: left t)
    (hf : failing t ≤ failing s) : Gives s owed none (.ok (Utf8.decode line) t) := by
  cases ho with
  | lines =>
    rw [hleft, Utf8.lines_append_lineFeed hline]
    exact .line .lines hf
  | finished hended hbuf =>
    -- Nothing is left of a stream of which every line was given, not even a line feed.
    rw [left_of_finished hended hbuf] at hleft
    exact absurd hleft.symm (List.append_ne_nil_of_right_ne_nil _ (List.cons_ne_nil _ _))

theorem gives_of_ended {t : Session} (ho : Owes s owed) (hline : Bytes.lineFeed ∉ left s)
    (hrest : t.socket.buffer = []) (hended : t.socket.ended = true)
    (hf : failing t ≤ failing s) : Gives s owed none (.ok (Utf8.decode (left s)) t) := by
  cases ho with
  | lines =>
    rw [Utf8.lines_of_notMem hline]
    exact .line (.finished hended hrest) hf
  | finished hended' hbuf =>
    rw [left_of_finished hended' hbuf]
    exact .line (.finished hended hrest) hf

theorem owes_of_left {t : Session} (ho : Owes s owed) (hleft : left s = left t)
    (hended : s.socket.ended = false) : Owes t owed := by
  cases ho with
  | lines =>
    rw [hleft]
    exact .lines
  | finished hended' _ => exact absurd (hended.symm.trans hended') Bool.false_ne_true

theorem ended_of_owes_nil (ho : Owes s owed) (hnil : owed = []) : s.socket.ended = true := by
  cases ho with
  | lines => exact absurd hnil (Utf8.lines_ne_nil _)
  | finished hended _ => exact hended

/-- A read of a line receives what it needs, and gives the next line or fails. -/
theorem gives_readLine (hs : s.Usable) (ho : Owes s owed) :
    ∃ es failure, s.system.Noted (after (readLine s)).system es ∧
      s.Keeps (after (readLine s)) ∧ Needs s es failure ∧
      Gives s owed failure (readLine s) := by
  obtain ⟨es, failure, hr⟩ := readsText_readLine hs.isOpen hs.quiet
  refine ⟨es, failure, ?_⟩
  generalize readLine s = r at hr
  cases hr with
  | failed h =>
    have hended : s.socket.ended = false := by
      cases h.needs with
      | receptions _ hended _ => exact hended
    refine ⟨h.noted, h.keeps, h.needs, ?_⟩
    cases h.takes with
    | failed _ hbuf =>
      exact .failed (owes_of_left ho (left_of_reads h [] hbuf) hended) (h.failing hs.alive)
  | @line raw t h =>
    refine ⟨h.noted, h.keeps, h.needs, ?_⟩
    cases h.takes with
    | fed hline hbuf =>
      have hbuf' : s.socket.buffer ++ Event.octets es
          = raw ++ [Bytes.lineFeed] ++ t.socket.buffer := by
        rw [hbuf, List.append_assoc]
        rfl
      have hleft : left s = raw ++ Bytes.lineFeed :: left t := by
        rw [left_of_reads h _ hbuf', List.append_assoc]
        rfl
      exact gives_of_fed ho hline hleft (h.failing hs.alive)
    | ended hline hbuf hrest hended =>
      have hbuf' : s.socket.buffer ++ Event.octets es = raw ++ t.socket.buffer := by
        rw [hbuf, hrest, List.append_nil]
      have hleft : left s = raw := by
        rw [left_of_reads h raw hbuf', after, left_of_finished hended hrest,
          List.append_nil]
      subst hleft
      exact gives_of_ended ho hline hrest hended (h.failing hs.alive)

end OneLine

/-! ## 3. One line after the other -/

/-- Reads lines, one after the other: the texts that came, and the session afterwards. A read that
fails gives no text and is made again. -/
def readLines (s : Session) : Nat → List String × Session
  | 0 => ([], s)
  | n + 1 =>
    match readLine s with
    | .ok text t => (text :: (readLines t n).1, (readLines t n).2)
    | .error _ t => readLines t n

/-- What is owed after `n` reads is what was owed, less the lines that came. -/
theorem owes_readLines (n : Nat) {s : Session} {owed : List String} (hs : s.Usable)
    (ho : Owes s owed) :
    (readLines s n).2.Usable ∧ Owes (readLines s n).2 (owed.drop (readLines s n).1.length) ∧
      (readLines s n).1 <+: owed ++ List.replicate n "" ∧
      n + failing (readLines s n).2 ≤ (readLines s n).1.length + failing s := by
  induction n generalizing s owed with
  | zero => exact ⟨hs, ho, List.nil_prefix, Nat.le_refl _⟩
  | succ n ih =>
    obtain ⟨es, failure, -, hkeeps, -, hgives⟩ := gives_readLine hs ho
    unfold readLines
    cases hline : readLine s with
    | error e t =>
      rw [hline] at hgives hkeeps
      have hs' : t.Usable := hs.of_keeps hkeeps
      cases hgives with
      | failed ho' hf =>
        obtain ⟨husable, howes, hstart, hcount⟩ := ih hs' ho'
        have hmore : owed ++ List.replicate n "" <+: owed ++ List.replicate (n + 1) "" := by
          rw [List.replicate_succ', ← List.append_assoc]
          exact List.prefix_append ..
        exact ⟨husable, howes, hstart.trans hmore, by dsimp only; omega⟩
    | ok text t =>
      rw [hline] at hgives hkeeps
      have hs' : t.Usable := hs.of_keeps hkeeps
      cases hgives with
      | line ho' hf =>
        obtain ⟨husable, howes, hstart, hcount⟩ := ih hs' ho'
        refine ⟨husable, ?_, ?_, ?_⟩
        · rw [List.drop_tail] at howes
          exact howes
        · cases owed with
          | nil => exact List.cons_prefix_cons.2 ⟨rfl, hstart⟩
          | cons l ls =>
            have hmore : ls ++ List.replicate n "" <+: ls ++ List.replicate (n + 1) "" := by
              rw [List.replicate_succ', ← List.append_assoc]
              exact List.prefix_append ..
            exact List.cons_prefix_cons.2 ⟨rfl, hstart.trans hmore⟩
        · rw [List.length_cons]
          dsimp only
          omega

/-- **Lines are those of the whole stream.** On an open socket that nobody else closes, let any
number of reads of a line be made, those that fail being made again. Then

* the texts that came are the lines of what was left, in order, and empty texts after them;
* all but as many reads gave a text as the peer has failures to give;
* once every line was given, the next read gives an empty text and nothing happens;
* the next read in any case receives only what it needs, and it fails only if a reception does. -/
theorem readLines_eq_lines (s : Session) (hs : s.Usable) (n : Nat) :
    (readLines s n).1 <+: Utf8.lines (left s) ++ List.replicate n "" ∧
    n ≤ (readLines s n).1.length + failing s ∧
    ((Utf8.lines (left s)).length ≤ (readLines s n).1.length →
      ∃ t, readLine (readLines s n).2 = .ok "" t ∧ (readLines s n).2.system.Noted t.system []) ∧
    ∃ es failure, Needs (readLines s n).2 es failure ∧
      (readLines s n).2.system.Noted (after (readLine (readLines s n).2)).system es ∧
      ((failure = none ∧ ∃ text t, readLine (readLines s n).2 = .ok text t) ∨
        ∃ f t, failure = some f ∧ readLine (readLines s n).2 = .error (.net (.ofSystem f)) t) := by
  obtain ⟨husable, howes, hstart, hcount⟩ := owes_readLines n hs .lines
  obtain ⟨es, failure, hnoted, -, hneeds, hgives⟩ := gives_readLine husable howes
  refine ⟨hstart, by omega, fun hall => ?_, es, failure, hneeds, hnoted, ?_⟩
  · rw [List.drop_of_length_le hall] at howes hgives
    have hended := ended_of_owes_nil howes rfl
    cases hneeds with
    | receptions _ hopen _ => exact absurd (hopen.symm.trans hended) Bool.false_ne_true
    | nothing =>
      cases hline : readLine (readLines s n).2 with
      | error e t =>
        rw [hline] at hgives
        cases hgives
      | ok text t =>
        rw [hline] at hgives hnoted
        cases hgives
        exact ⟨t, rfl, hnoted⟩
  · cases hline : readLine (readLines s n).2 with
    | ok text t =>
      rw [hline] at hgives
      cases hgives
      exact .inl ⟨rfl, _, _, rfl⟩
    | error e t =>
      rw [hline] at hgives
      cases hgives
      exact .inr ⟨_, _, rfl, rfl⟩

/-- A stream whose peer sends a character in two parts, with a timeout between them. -/
def brokenCharacter : Session where
  socket := { descriptor := { number := 3, script := { recv :=
    [{ outcome := .value [0xC3] }, { outcome := .failure .timeout },
      { outcome := .value [0xA9, 13, 10, 63] }] } } }
  system := {}

theorem readLines_eq_lines_brokenCharacter :
    brokenCharacter.Usable ∧
    (readLines brokenCharacter 3).1 <+:
        Utf8.lines (left brokenCharacter) ++ List.replicate 3 "" ∧
    3 ≤ (readLines brokenCharacter 3).1.length + failing brokenCharacter ∧
    (readLines brokenCharacter 3).1 = ["é\r", "?"] := by
  have hs : brokenCharacter.Usable :=
    ⟨rfl, rfl, by decide⟩
  obtain ⟨hstart, hcount, -⟩ := readLines_eq_lines brokenCharacter hs 3
  exact ⟨hs, hstart, hcount, by decide +kernel⟩

end Socket

end HttpProbe
