import HttpProbe.Probe.Command
import HttpProbe.Proofs.CheckCalls
import HttpProbe.Proofs.Confinement
import HttpProbe.Proofs.NotANumber
import HttpProbe.Proofs.SettingPrecedence

/-!
# Which timeouts get through to the socket

A timeout is off, or it ought to be greater than zero. A text is refused when it is at most zero;
this leaves the numbers that are greater, and what is no number:

* `Timeout.TurnsOff`, `Timeout.read_eq_none_iff`: the words that turn a timeout off;
* `Timeout.usable_iff_of_read`: what else is read is greater than zero, unless the text spells what
  is no number;
* `Invocation.TimeoutText`: the text that sets the timeout of an invocation, and
  `Invocation.timeout_origin`: which timeout it sets;
* `Check.steps_exchange`, `Command.noted_run`: the command sets this timeout on its socket, and no
  other;
* **`Command.timeouts_usable`**: so the timeout of the socket is off or greater than zero, unless
  the text that set it spells what is no number.
-/

namespace HttpProbe

/-! ## 1. Texts -/

namespace Timeout

/-- The text is a word that turns the timeout off, in letters of any case and with white space
around it. -/
def TurnsOff (text : String) : Prop :=
  ∃ word, Blank.Pads Blank.isBlank word text.toList ∧
    String.ofList (word.map Char.toLower) ∈ ["0", "none", "off"]

/-- The timeout is off or greater than zero. -/
def Usable (timeout : Option Binary64) : Prop := ∀ x, timeout = some x → x.isPositive = true

/-- White space has no case. -/
theorem toLower_of_isBlank {c : Char} (h : Blank.isBlank c = true) : c.toLower = c := by
  unfold Char.toLower
  rw [dif_neg]
  rintro ⟨hlow, hhigh⟩
  have ha : 0x41 ≤ c.toNat := UInt32.le_iff_toNat_le.1 hlow
  have hz : c.toNat ≤ 0x5A := UInt32.le_iff_toNat_le.1 hhigh
  simp [Blank.isBlank] at h
  omega

/-- A word that turns the timeout off holds no white space. -/
theorem isBlank_of_lower {word : List Char} {lower : String}
    (hlower : ∀ c ∈ lower.toList, Blank.isBlank c = false)
    (h : String.ofList (word.map Char.toLower) = lower) : ∀ c ∈ word, Blank.isBlank c = false := by
  intro c hc
  refine eq_false_of_ne_true fun hblank => ?_
  have hmem : c.toLower ∈ lower.toList := by
    rw [← h, String.toList_ofList]
    exact List.mem_map_of_mem hc
  rw [toLower_of_isBlank hblank] at hmem
  exact absurd ((hlower c hmem).symm.trans hblank) Bool.false_ne_true

theorem offWords_noBlank :
    ∀ lower ∈ offWords, lower.toList ≠ [] ∧ ∀ c ∈ lower.toList, Blank.isBlank c = false := by
  have hall : ∀ lower ∈ offWords,
      lower.toList ≠ [] ∧ (lower.toList.all fun c => !Blank.isBlank c) = true := by decide
  intro lower hlower
  obtain ⟨hne, hblank⟩ := hall lower hlower
  exact ⟨hne, by simpa using hblank⟩

theorem trim_eq_of_lower {word text : List Char} {lower : String}
    (hlower : lower.toList ≠ [] ∧ ∀ c ∈ lower.toList, Blank.isBlank c = false)
    (h : String.ofList (word.map Char.toLower) = lower) :
    Blank.trim Blank.isBlank text = word ↔ Blank.Pads Blank.isBlank word text := by
  refine Blank.trim_eq_iff (isBlank_of_lower hlower.2 h) ?_
  rintro rfl
  exact hlower.1 (by rw [← h]; rfl)

theorem isOff_iff (text : String) : isOff text = true ↔ TurnsOff text := by
  unfold isOff
  rw [decide_eq_true_iff]
  constructor
  · intro h
    exact ⟨_, Blank.pads_trim _, h⟩
  · rintro ⟨word, hpads, hoff⟩
    rwa [(trim_eq_of_lower (offWords_noBlank _ hoff) rfl).2 hpads]

/-- What is no number turns nothing off. -/
theorem isOff_of_spellsNaN {text : String} (h : Decimal.SpellsNaN text) : isOff text = false := by
  obtain ⟨sign, word, hsign, hword, hpads⟩ := h
  have hletter : ∀ c ∈ sign ++ word, Blank.isBlank c = false := fun c hc =>
    (Decimal.isLetter_spelled hsign hword hc).noBlank
  have htrim : Blank.trim Blank.isBlank text.toList = sign ++ word := by
    refine (Blank.trim_eq_iff hletter
      (List.append_ne_nil_of_right_ne_nil _ (Decimal.word_ne_nil hword))).2 (hpads.mono ?_)
    intro c hc
    exact (Bool.and_eq_true_iff.1 hc).1
  have hlower : (sign ++ word).map Char.toLower = sign ++ "nan".toList := by
    have hmap : word.map Char.toLower = "nan".toList := by
      rw [← show String.ofList (word.map Char.toLower) = "nan" from hword, String.toList_ofList]
    rw [List.map_append, hmap]
    rcases hsign with rfl | rfl | rfl <;> rfl
  unfold isOff
  rw [htrim, hlower, decide_eq_false_iff_not]
  rcases hsign with rfl | rfl | rfl <;> decide

/-! ## 2. Reading them -/

/-- **A timeout is off** exactly when one of the words says so. -/
theorem read_eq_none_iff (text : String) : read text = .ok none ↔ TurnsOff text := by
  rw [← isOff_iff]
  unfold read
  cases isOff text with
  | true => simp
  | false =>
    refine iff_of_false ?_ Bool.false_ne_true
    rw [if_neg Bool.false_ne_true]
    cases Decimal.read? text with
    | none => simp
    | some x =>
      dsimp only
      split <;> simp

theorem read?_of_read {text : String} {x : Binary64} (h : read text = .ok (some x)) :
    Decimal.read? text = some x := by
  unfold read at h
  split at h
  · cases h
  · split at h
    · cases h
    · rename_i y hread
      split at h
      · cases h
      · obtain rfl := Option.some.inj (Except.ok.inj h)
        exact hread

theorem exists_read_of_spellsNaN {text : String} (h : Decimal.SpellsNaN text) :
    ∃ x, read text = .ok (some x) ∧ x.isNaN = true := by
  obtain ⟨x, hread, hx⟩ := (Decimal.read?_isNaN_iff text).2 h
  exact ⟨x, read_of_isNaN (isOff_of_spellsNaN h) hread hx, hx⟩

/-- **A number that was read is greater than zero**, unless it is none. -/
theorem isPositive_iff_of_read {text : String} {x : Binary64} (h : read text = .ok (some x)) :
    x.isPositive = true ↔ ¬ Decimal.SpellsNaN text := by
  rw [← Decimal.read?_isNaN_iff]
  cases hx : x.isNaN with
  | true =>
    refine iff_of_false (by simp [Binary64.isPositive, hx]) (not_not_intro ?_)
    exact ⟨x, read?_of_read h, hx⟩
  | false =>
    refine iff_of_true ((Binary64.isPositive_iff hx).2 (isAtMostZero_of_read h)) ?_
    rintro ⟨y, hread, hy⟩
    obtain rfl := Option.some.inj ((read?_of_read h).symm.trans hread)
    exact absurd (hx.symm.trans hy) Bool.false_ne_true

theorem usable_iff_of_read {text : String} {timeout : Option Binary64}
    (h : read text = .ok timeout) : Usable timeout ↔ ¬ Decimal.SpellsNaN text := by
  cases timeout with
  | none =>
    refine iff_of_true (fun x hx => nomatch hx) fun hnan => ?_
    obtain ⟨x, hread, -⟩ := exists_read_of_spellsNaN hnan
    cases h.symm.trans hread
  | some x =>
    rw [← isPositive_iff_of_read h]
    exact ⟨fun hx => hx x rfl, fun hx y hy => Option.some.inj hy ▸ hx⟩

end Timeout

/-! ## 3. The timeout of an invocation -/

namespace Invocation

open Options (Given exists_of_bind_eq_ok)

/-- The text sets the timeout: it is the last one that an option gives, or else the environment
holds it. -/
def TimeoutText (env : Environment) (words : List String) (text : String) : Prop :=
  ∃ line, Options.readWords words = .ok line ∧
    Last Eq (values .timeout line.given)
      (fun value => env.lookup "STATUSPROBE_TIMEOUT" = some value ∧ value ≠ "") text

section Read

variable {env : Environment} {words : List String} {i j : Invocation}

theorem overrides_of_foldlM {given : List Given} (h : given.foldlM apply i = .ok j) :
    Overrides given i j := by
  induction given generalizing i with
  | nil =>
    obtain rfl : i = j := Except.ok.inj h
    exact .nil i
  | cons g rest ih =>
    rw [List.foldlM_cons] at h
    obtain ⟨next, happly, hrest⟩ := exists_of_bind_eq_ok h
    exact (ih hrest).cons happly

theorem addresses_of_address {arguments : List String} (h : i.address arguments = .ok j) :
    Addresses arguments i j := by
  have hlength : arguments.length ≤ 2 := by
    match arguments, h with
    | [], _ => exact Nat.zero_le 2
    | [_], _ => exact Nat.le_succ 1
    | [_, _], _ => exact Nat.le_refl 2
    | _ :: _ :: _ :: _, h => cases h
  obtain ⟨next, hnext, hends⟩ := addresses_address hlength i
  obtain rfl := Except.ok.inj (h.symm.trans hnext)
  exact hends

/-- **What was read was settled** by the environment and the command line. -/
theorem settles_of_read (h : read env words = .ok i) :
    ∃ line, Options.readWords words = .ok line ∧ Settles env line.given line.arguments i := by
  cases henv : Settings.ofEnvironment env with
  | error why =>
    unfold read at h
    rw [henv] at h
    cases h
  | ok settings =>
    cases hline : Options.readWords words with
    | error why =>
      unfold read at h
      rw [henv, hline] at h
      cases h
    | ok line =>
      rw [read_of_readWords henv hline] at h
      obtain ⟨next, hfold, haddress⟩ := exists_of_bind_eq_ok h
      exact ⟨line, rfl, settles_of_overrides henv (overrides_of_foldlM hfold)
        (addresses_of_address haddress)⟩

/-- **Where the timeout comes from**: one text sets it, or none does and it is as usual. -/
theorem timeout_origin (h : read env words = .ok i) :
    (∃ text, (∀ value, TimeoutText env words value ↔ value = text) ∧
        Timeout.read text = .ok i.settings.timeout) ∨
      (∀ value, ¬ TimeoutText env words value) ∧
        i.settings.timeout = some (.ofDecimal false 10 0) := by
  obtain ⟨line, hline, hsettles⟩ := settles_of_read h
  have htext (value : String) : TimeoutText env words value ↔
      Last Eq (values .timeout line.given)
        (fun value => env.lookup "STATUSPROBE_TIMEOUT" = some value ∧ value ≠ "") value := by
    constructor
    · rintro ⟨line', hline', hlast⟩
      obtain rfl := Except.ok.inj (hline.symm.trans hline')
      exact hlast
    · intro hlast
      exact ⟨line, hline, hlast⟩
  have hchosen := hsettles.timeout
  generalize i.settings.timeout = timeout at hchosen ⊢
  cases hchosen with
  | @given before text _ hvalues hread =>
    refine .inl ⟨text, fun value => ?_, hread⟩
    rw [htext]
    constructor
    · rintro (⟨hvalues', rfl⟩ | ⟨hnone, -⟩)
      · rw [hvalues] at hvalues'
        exact (List.cons.inj (List.append_inj' hvalues' rfl).2).1.symm
      · rw [hvalues] at hnone
        exact absurd hnone (List.append_ne_nil_of_right_ne_nil _ (List.cons_ne_nil _ _))
    · rintro rfl
      exact .given hvalues rfl
  | other hnone hpreset =>
    have hlast (value : String) : TimeoutText env words value ↔
        env.lookup "STATUSPROBE_TIMEOUT" = some value ∧ value ≠ "" := by
      rw [htext, hnone]
      constructor
      · rintro (⟨hvalues, -⟩ | ⟨-, hset⟩)
        · exact absurd hvalues.symm (List.append_ne_nil_of_right_ne_nil _ (List.cons_ne_nil _ _))
        · exact hset
      · exact fun hset => .other rfl hset
    cases hpreset with
    | @set text _ hset hfilled hread =>
      refine .inl ⟨text, fun value => ?_, hread⟩
      rw [hlast, hset]
      constructor
      · rintro ⟨hvalue, -⟩
        exact (Option.some.inj hvalue).symm
      · rintro rfl
        exact ⟨rfl, hfilled⟩
    | unset hempty =>
      refine .inr ⟨fun value => ?_, rfl⟩
      rw [hlast]
      rintro ⟨hset, hfilled⟩
      exact hfilled (hempty value hset)

theorem usable_timeout_iff (h : read env words = .ok i) :
    Timeout.Usable i.settings.timeout ↔
      ∀ text, TimeoutText env words text → ¬ Decimal.SpellsNaN text := by
  rcases timeout_origin h with ⟨text, htext, hread⟩ | ⟨hnone, husual⟩
  · rw [Timeout.usable_iff_of_read hread]
    constructor
    · intro hnan value hvalue
      obtain rfl := (htext value).1 hvalue
      exact hnan
    · exact fun hall => hall text ((htext text).2 rfl)
  · refine iff_of_true ?_ fun value hvalue => absurd hvalue (hnone value)
    intro x hx
    obtain rfl := Option.some.inj (husual.symm.trans hx)
    decide +kernel

end Read

end Invocation

/-! ## 4. The timeout of the socket -/

/-- Any calls but those that take a connection; of the calls that set a timeout only those that set
this one. -/
def Permit.timing (timeout : Option Binary64) : Permit := fun _ operation =>
  operation ≠ .accept ∧ ∀ seconds, operation = .setTimeout seconds → seconds = timeout

/-- Every timeout that is set is this one. -/
def Event.Times (timeout : Option Binary64) (es : List Event) : Prop :=
  ∀ n seconds answer, .called (.on n (.setTimeout seconds)) answer ∈ es → seconds = timeout

theorem Event.times_of_allowed {timeout : Option Binary64} {es : List Event}
    (h : ∀ e ∈ es, e.Allowed (.timing timeout)) : Event.Times timeout es := by
  intro n seconds answer hmem
  rcases h _ hmem with hclose | ⟨s, hmay⟩ | ⟨-, s, haccept⟩
  · cases hclose
  · exact hmay.2 seconds rfl
  · exact absurd rfl haccept.1

namespace Check

variable {s : System}

theorem stepwise_converse (order : Order) (data : Bytes) :
    Stepwise (.timing order.timeout) (converse order data) := by
  refine (Socket.stepwise_connect (fun _ => ⟨Operation.noConfusion, fun seconds h => ?_⟩)
    (fun _ _ => ⟨Operation.noConfusion, fun _ h => Operation.noConfusion h⟩)
    (fun _ _ => ⟨Operation.noConfusion, fun _ h => Operation.noConfusion h⟩)).bind fun _ =>
      (Socket.stepwise_write
        (fun _ _ _ _ => ⟨Operation.noConfusion, fun _ h => Operation.noConfusion h⟩)).bind fun _ =>
          Socket.stepwise_readLine
            (fun _ => ⟨Operation.noConfusion, fun _ h => Operation.noConfusion h⟩)
  exact (Operation.setTimeout.inj h).symm

/-- **An exchange is made of steps** that set the timeout of its order only. Closing at the end is
one of them. -/
theorem steps_exchange {script : Script} (h : nextSocket s = .ok script) (order : Order)
    (data : Bytes) :
    ∃ t, Session.Steps (.timing order.timeout) (opened s script) t ∧
      after (exchange order data s) = t.system := by
  have hsteps := (stepwise_converse order data).steps (opened s script)
  refine ⟨_, hsteps.tail (.close ⟨Operation.noConfusion, fun _ h => Operation.noConfusion h⟩), ?_⟩
  unfold exchange Session.closeElsewhere
  rw [createDefault_of_ok h]
  dsimp only
  cases Session.close (after (converse order data
      ⟨(opened s script).socket, (opened s script).system⟩)) with
  | error f t => rfl
  | ok _ t => cases converse order data ⟨(opened s script).socket, (opened s script).system⟩ <;> rfl

theorem noted_exchange (order : Order) (data : Bytes) (s : System) :
    ∃ es, s.Noted (after (exchange order data s)) es ∧ Event.Times order.timeout es := by
  have hsocket (answer : Answer) : Event.Times order.timeout [.called socketCall answer] := by
    intro n seconds answer' hmem
    cases List.mem_singleton.1 hmem
  cases hscript : nextSocket s with
  | error f =>
    refine ⟨_, ?_, hsocket (.failed f)⟩
    unfold exchange
    rw [createDefault_of_error hscript]
    exact System.Noted.note ..
  | ok script =>
    obtain ⟨t, hsteps, hsystem⟩ := steps_exchange hscript order data
    obtain ⟨es, hnoted, hallowed⟩ := hsteps.allowed
    have hopened : s.Noted (opened s script).system [.called socketCall .done] :=
      System.Noted.note ..
    rw [hsystem]
    refine ⟨_, hopened.trans hnoted, fun n seconds answer hmem => ?_⟩
    rcases List.mem_append.1 hmem with hmem | hmem
    · exact hsocket .done n seconds answer hmem
    · exact Event.times_of_allowed hallowed n seconds answer hmem

theorem noted_check (order : Order) (s : System) :
    ∃ es, s.Noted (after (check order s)) es ∧ Event.Times order.timeout es := by
  cases hdata : order.request.toBytes with
  | error run =>
    rw [check_of_unencodable hdata]
    exact ⟨[], .refl s, fun _ _ _ hmem => absurd hmem List.not_mem_nil⟩
  | ok data =>
    obtain ⟨es, hnoted, htimes⟩ := noted_exchange order data s
    refine ⟨es, ?_, htimes⟩
    cases hr : exchange order data s with
    | error f t =>
      rw [hr] at hnoted
      rw [check_of_exchange_error hdata hr]
      exact hnoted
    | ok line t =>
      rw [hr] at hnoted
      rw [check_of_exchange_ok hdata hr, System.Noted, events_judge]
      exact hnoted

end Check

namespace Command

theorem events_perform (settings : Settings) (s : System) :
    (after (perform settings s)).events = (after (Check.check (order settings) s)).events := by
  unfold perform
  cases Check.check (order settings) s with
  | ok r t => rfl
  | error why t =>
    cases why with
    | invalidLine => rfl
    | request why => cases why <;> rfl
    | failed f => cases f <;> rfl

/-- **The command sets the timeout of its invocation**, and no other. -/
theorem noted_run {env : Environment} {words : List String} {i : Invocation}
    (h : Invocation.read env words = .ok i) (clock : String) (s : System) :
    ∃ es, s.Noted (run clock env words s).2 es ∧ Event.Times i.settings.timeout es := by
  obtain ⟨es, hnoted, htimes⟩ := Check.noted_check (order i.settings) s
  refine ⟨es, ?_, htimes⟩
  rw [System.Noted, ← events_perform] at hnoted
  unfold run
  rw [h]
  dsimp only
  cases hr : perform i.settings s with
  | ok number t =>
    rw [hr] at hnoted
    exact hnoted
  | error f t =>
    rw [hr] at hnoted
    exact hnoted

/-- **Only usable timeouts get through, but for what is no number.** A text turns the timeout off
exactly when it is one of the words for that; any other text is refused, or it is read as a number
greater than zero, or else it spells what is no number and is read as that. So, whatever the
environment and the words are, the timeout of an invocation is off or greater than zero exactly
unless the text that set it spells what is no number, and the command sets this timeout on its
socket and no other. -/
theorem timeouts_usable (text : String) (env : Environment) (words : List String) :
    (Timeout.read text = .ok none ↔ Timeout.TurnsOff text) ∧
    (∀ x, Timeout.read text = .ok (some x) → (x.isPositive = true ↔ ¬ Decimal.SpellsNaN text)) ∧
    (Decimal.SpellsNaN text → ∃ x, Timeout.read text = .ok (some x) ∧ x.isNaN = true) ∧
    ∀ i, Invocation.read env words = .ok i →
      (Timeout.Usable i.settings.timeout ↔
        ∀ source, Invocation.TimeoutText env words source → ¬ Decimal.SpellsNaN source) ∧
      ∀ (clock : String) (s : System), ∃ es, s.Noted (run clock env words s).2 es ∧
        ∀ n seconds answer, .called (.on n (.setTimeout seconds)) answer ∈ es →
          seconds = i.settings.timeout := by
  refine ⟨Timeout.read_eq_none_iff text, fun x h => Timeout.isPositive_iff_of_read h,
    fun h => Timeout.exists_read_of_spellsNaN h, fun i h => ?_⟩
  exact ⟨Invocation.usable_timeout_iff h, fun clock s => noted_run h clock s⟩

/-- An environment that sets what is no number for a timeout. -/
def unclocked : Environment := [("STATUSPROBE_TIMEOUT", "\u2003-NaN\n")]

theorem timeouts_usable_unclocked :
    Decimal.SpellsNaN "\u2003-NaN\n" ∧
    (∃ x, Timeout.read "\u2003-NaN\n" = .ok (some x) ∧ x.isNaN = true) ∧
    ∃ i j, Invocation.read unclocked [] = .ok i ∧ ¬ Timeout.Usable i.settings.timeout ∧
      Invocation.read unclocked ["-t", "1e-9"] = .ok j ∧ Timeout.Usable j.settings.timeout ∧
      ¬ Decimal.SpellsNaN "1e-9" := by
  have hnan : Decimal.SpellsNaN "\u2003-NaN\n" :=
    ⟨['-'], ['N', 'a', 'N'], .inr (.inr rfl), by decide +kernel, ['\u2003'], ['\n'], by decide,
      List.forall_mem_singleton.2 (by decide), List.forall_mem_singleton.2 (by decide)⟩
  obtain ⟨-, -, hread, husable⟩ := timeouts_usable "\u2003-NaN\n" unclocked []
  obtain ⟨-, -, -, husable'⟩ := timeouts_usable "1e-9" unclocked ["-t", "1e-9"]
  refine ⟨hnan, hread hnan, ?_⟩
  have hplain : Invocation.read unclocked [] = .ok ⟨{ timeout := some .nan }, false⟩ := by
    decide +kernel
  have hgiven : Invocation.read unclocked ["-t", "1e-9"]
      = .ok ⟨{ timeout := some (.ofDecimal false 1 (-9)) }, false⟩ := by decide +kernel
  have hline : Options.readWords [] = .ok { given := [], arguments := [] } := by decide +kernel
  have hline' : Options.readWords ["-t", "1e-9"]
      = .ok { given := [⟨.timeout, "1e-9"⟩], arguments := [] } := by decide +kernel
  have hpositive : Timeout.Usable (some (.ofDecimal false 1 (-9))) := by
    intro x hx
    obtain rfl := Option.some.inj hx
    decide +kernel
  refine ⟨_, _, hplain, fun h => ?_, hgiven, hpositive, ?_⟩
  · refine (husable _ hplain).1.1 h "\u2003-NaN\n" ⟨_, hline, .other rfl ?_⟩ hnan
    decide
  · exact (husable' _ hgiven).1.1 hpositive "1e-9"
      ⟨_, hline', .given (List.nil_append _).symm rfl⟩

/-- What is no number is let through as a timeout, though it is not greater than zero. -/
theorem timeout_of_nan :
    ∃ x i, Timeout.read "nan" = .ok (some x) ∧ x.isPositive = false ∧
      Invocation.read [] ["-t", "nan"] = .ok i ∧ ¬ Timeout.Usable i.settings.timeout := by
  have hread : Invocation.read [] ["-t", "nan"] = .ok ⟨{ timeout := some .nan }, false⟩ := by
    decide +kernel
  refine ⟨.nan, _, by decide +kernel, by decide, hread, fun h => ?_⟩
  exact absurd (h .nan rfl) (by decide)

end Command

end HttpProbe
