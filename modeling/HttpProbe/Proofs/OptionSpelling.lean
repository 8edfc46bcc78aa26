import Mathlib.Data.List.TakeWhile
import HttpProbe.Probe.Options

/-!
# The spellings of a command line

An option can be written in many ways: by its letter, alone or after others in a group, with its
value joined or in the next word; by its name or a beginning of the name that no other name has,
with its value after an equals sign or in the next word. This file says which words spell which
options and arguments, without the reader:

* `Valued`: the options that take a value, with letter and name; `Abbreviates`: what stands for a
  name;
* `Piece`: the words that spell one option, or a group of them;
* `Spells`: the words that spell options and then arguments;
* `ofName_eq_ok_iff`: the reader takes a beginning of a name just when no other name has it;
* `readWords_piece`: the reader takes a piece off, whatever follows it, so it reads what the words
  spell (`readWords_of_spells`);
* `TakesPiece`: it takes nothing else off, so it reads nothing else (`spells_of_readWords`);
* **`spells_iff`**: the words that spell something are those that are read and ask for no help.
-/

namespace HttpProbe.Options

/-! ## 1. Spellings -/

/-- An option that takes a value, its letter and its name. -/
inductive Valued : Switch → Char → String → Prop where
  | timeout : Valued .timeout 't' "timeout"
  | expected : Valued .expected 'p' "prefix"
  | target : Valued .target 'P' "path"

/-- The names of options. -/
def names : List String := ["help", "timeout", "prefix", "path", "verbose"]

/-- The text is a beginning of the name and of no other. -/
structure Abbreviates (text : List Char) (name : String) : Prop where
  begins : text <+: name.toList
  unique : ∀ other ∈ names, text <+: other.toList → other = name

/-- Details are asked for. -/
def shown : Given := ⟨.verbose, ""⟩

/-- The words spell these options: some `v`s in a group; an option after as many of them as you
like, with its value joined to it or in the next word; or an option by its name. A value in a word
of its own may be any text. -/
inductive Piece : List String → List Given → Prop where
  | group {word : String} {n : Nat} (hword : word.toList = '-' :: List.replicate (n + 1) 'v') :
    Piece [word] (List.replicate (n + 1) shown)
  | joined {word value name : String} {n : Nat} {switch : Switch} {letter : Char}
      (h : Valued switch letter name) (hvalue : value ≠ "")
      (hword : word.toList = '-' :: (List.replicate n 'v' ++ letter :: value.toList)) :
    Piece [word] (List.replicate n shown ++ [⟨switch, value⟩])
  | apart {word value name : String} {n : Nat} {switch : Switch} {letter : Char}
      (h : Valued switch letter name)
      (hword : word.toList = '-' :: (List.replicate n 'v' ++ [letter])) :
    Piece [word, value] (List.replicate n shown ++ [⟨switch, value⟩])
  | assigned {word value name : String} {text : List Char} {switch : Switch} {letter : Char}
      (h : Valued switch letter name) (htext : Abbreviates text name)
      (hword : word.toList = '-' :: '-' :: (text ++ '=' :: value.toList)) :
    Piece [word] [⟨switch, value⟩]
  | followed {word value name : String} {text : List Char} {switch : Switch} {letter : Char}
      (h : Valued switch letter name) (htext : Abbreviates text name)
      (hword : word.toList = '-' :: '-' :: text) : Piece [word, value] [⟨switch, value⟩]
  | verbose {word : String} {text : List Char} (htext : Abbreviates text "verbose")
      (hword : word.toList = '-' :: '-' :: text) : Piece [word] [shown]

/-- The word cannot be taken for an option: it does not begin with a minus, or it is one. -/
def Bare (word : String) : Prop := ¬ ['-'] <+: word.toList ∨ word = "-"

/-- The words spell options and then arguments. Two minuses may stand before the arguments; else the
first argument must not look like an option. -/
inductive Spells : List String → List Given → List String → Prop where
  | arguments {arguments : List String} (h : ∀ word ∈ arguments.head?, Bare word) :
    Spells arguments [] arguments
  | marked {arguments : List String} : Spells ("--" :: arguments) [] arguments
  | options {piece words arguments : List String} {given more : List Given} (h : Piece piece given)
      (hrest : Spells words more arguments) : Spells (piece ++ words) (given ++ more) arguments

/-! ## 2. Names -/

theorem Switch.mem_all (s : Switch) : s ∈ all := by cases s <;> decide

theorem mem_names_iff {name : String} : name ∈ names ↔ ∃ s : Switch, s.name = name := by
  constructor
  · intro h
    have hall : ∀ name ∈ names, ∃ s ∈ Switch.all, s.name = name := by decide
    obtain ⟨s, -, hs⟩ := hall name h
    exact ⟨s, hs⟩
  · rintro ⟨s, rfl⟩
    cases s <;> decide

theorem name_injective {s s' : Switch} (h : s.name = s'.name) : s = s' := by
  have hall : ∀ s ∈ Switch.all, ∀ s' ∈ Switch.all, s.name = s'.name → s = s' := by decide
  exact hall s s.mem_all s' s'.mem_all h

theorem eq_of_name_prefix {name other : String} (hname : name ∈ names) (hother : other ∈ names)
    (h : name.toList <+: other.toList) : other = name := by
  have hall : ∀ name ∈ names, ∀ other ∈ names, name.toList <+: other.toList → other = name := by
    decide
  exact hall name hname other hother h

/-- The options whose names begin so. -/
def candidates (text : List Char) : List Switch :=
  Switch.all.filter fun s => text.isPrefixOf s.name.toList

theorem mem_candidates {text : List Char} {s : Switch} :
    s ∈ candidates text ↔ text <+: s.name.toList := by
  rw [candidates, List.mem_filter, List.isPrefixOf_iff_prefix]
  exact and_iff_right s.mem_all

/-- Only one option's name begins so just when the text abbreviates it. -/
theorem abbreviates_iff {text : List Char} {switch : Switch} :
    Abbreviates text switch.name ↔ ∀ s, s ∈ candidates text ↔ s = switch := by
  constructor
  · intro h s
    rw [mem_candidates]
    constructor
    · intro hs
      exact name_injective (h.unique s.name (mem_names_iff.2 ⟨s, rfl⟩) hs)
    · rintro rfl
      exact h.begins
  · intro h
    refine ⟨mem_candidates.1 ((h switch).2 rfl), ?_⟩
    intro other hother hprefix
    obtain ⟨s, rfl⟩ := mem_names_iff.1 hother
    rw [(h s).1 (mem_candidates.2 hprefix)]

theorem candidates_eq_singleton {text : List Char} {switch : Switch}
    (h : ∀ s, s ∈ candidates text ↔ s = switch) : candidates text = [switch] := by
  have hall : Switch.all.Nodup := by decide
  have hnodup : (candidates text).Nodup := List.Pairwise.filter _ hall
  generalize candidates text = found at h hnodup
  match found with
  | [] => exact absurd ((h switch).2 rfl) List.not_mem_nil
  | [s] => rw [(h s).1 List.mem_cons_self]
  | s :: s' :: _ =>
    have hs : s = s' := by
      rw [(h s).1 (by simp), (h s').1 (by simp)]
    simp [hs] at hnodup

/-- **A name is taken** for the one option whose name begins so, and else not at all. -/
theorem ofName_eq_ok_iff {text : List Char} {switch : Switch} :
    ofName text = .ok switch ↔ Abbreviates text switch.name := by
  have hfound : (Switch.all.filter fun s => text.isPrefixOf s.name.toList) = candidates text := rfl
  unfold ofName
  dsimp only
  rw [hfound]
  constructor
  · intro h
    split at h
    · next s hfind =>
      obtain rfl := Except.ok.inj h
      -- a whole name begins no other one
      have htext := List.find?_some hfind
      obtain rfl : s.name.toList = text := beq_iff_eq.1 htext
      refine ⟨List.prefix_rfl, ?_⟩
      intro other hother hprefix
      exact eq_of_name_prefix (mem_names_iff.2 ⟨s, rfl⟩) hother hprefix
    · split at h
      · cases h
      · next s hone =>
        obtain rfl := Except.ok.inj h
        rw [abbreviates_iff, hone]
        simp
      · cases h
  · intro h
    rw [candidates_eq_singleton (abbreviates_iff.1 h)]
    split
    · next s hfind =>
      rw [List.mem_singleton.1 (List.mem_of_find?_eq_some hfind)]
    · rfl

/-- No name has an equals sign in it. -/
theorem Abbreviates.ne_equals {text : List Char} {switch : Switch}
    (h : Abbreviates text switch.name) : ∀ c ∈ text, (c != '=') = true := by
  have hname : '=' ∉ switch.name.toList := by cases switch <;> decide
  intro c hc
  refine bne_iff_ne.2 ?_
  rintro rfl
  exact hname (h.begins.mem hc)

theorem Abbreviates.ne_nil {text : List Char} {name : String} (h : Abbreviates text name) :
    text ≠ [] := by
  rintro rfl
  have hhelp := h.unique "help" (by decide) List.nil_prefix
  have hpath := h.unique "path" (by decide) List.nil_prefix
  exact absurd (hhelp.trans hpath.symm) (by decide)

theorem readName_of_abbreviates {text : List Char} {switch : Switch}
    (h : Abbreviates text switch.name) : readName text = .ok (switch, none) := by
  unfold readName
  rw [List.takeWhile_eq_self_iff.2 h.ne_equals, List.dropWhile_eq_nil_iff.2 h.ne_equals,
    ofName_eq_ok_iff.2 h]
  rfl

theorem readName_assigned {text : List Char} {switch : Switch} (h : Abbreviates text switch.name)
    (value : String) :
    readName (text ++ '=' :: value.toList) = .ok (switch, some value) := by
  unfold readName
  rw [List.takeWhile_append_of_pos h.ne_equals, List.dropWhile_append_of_pos h.ne_equals,
    List.takeWhile_cons_of_neg (by decide), List.dropWhile_cons_of_neg (by decide),
    List.append_nil, ofName_eq_ok_iff.2 h]
  show Except.ok (switch, some (String.ofList value.toList)) = _
  rw [String.ofList_toList]

/-! ## 3. Letters -/

theorem readGroup_cons_v (letters : List Char) :
    readGroup ('v' :: letters) =
      (readGroup letters).map fun group => { group with given := shown :: group.given } := by
  have hletter : Switch.ofLetter? 'v' = some .verbose := by decide
  rw [readGroup, hletter]
  cases readGroup letters <;> rfl

theorem readGroup_replicate_append (n : Nat) (letters : List Char) :
    readGroup (List.replicate n 'v' ++ letters) =
      (readGroup letters).map fun group =>
        { group with given := List.replicate n shown ++ group.given } := by
  induction n with
  | zero =>
    rw [List.replicate_zero, List.nil_append]
    cases readGroup letters <;> rfl
  | succ n ih =>
    rw [List.replicate_succ, List.cons_append, readGroup_cons_v, ih]
    cases readGroup letters <;> rfl

section Letters

variable {switch : Switch} {letter : Char} {name : String} (h : Valued switch letter name)

include h

theorem Valued.name_eq : name = switch.name := by cases h <;> rfl

theorem Valued.takesValue_eq : switch.takesValue = true := by cases h <;> rfl

theorem Valued.ofLetter?_eq : Switch.ofLetter? letter = some switch := by cases h <;> decide

theorem Valued.ne_help : switch ≠ .help := by cases h <;> decide

theorem Valued.ne_minus : letter ≠ '-' := by cases h <;> decide

theorem readGroup_joined {value : String} (hvalue : value ≠ "") :
    readGroup (letter :: value.toList) = .ok { given := [⟨switch, value⟩] } := by
  have hfilled : value.toList.isEmpty = false := by
    rw [List.isEmpty_eq_false_iff]
    intro hnil
    exact hvalue (String.toList_eq_nil_iff.1 hnil)
  rw [readGroup, h.ofLetter?_eq]
  dsimp only
  rw [if_pos h.takesValue_eq, hfilled, String.ofList_toList]
  rfl

theorem readGroup_apart : readGroup [letter] = .ok { pending := some switch } := by
  rw [readGroup, h.ofLetter?_eq]
  dsimp only
  rw [if_pos h.takesValue_eq]
  rfl

end Letters

/-! ## 4. Words -/

/-- The line with more options in front, if there is a line. -/
def withOptions (given : List Given) (line : Except Refusal Line) : Except Refusal Line :=
  line.map (·.after given)

/-- What a group of letters and the words after it come to. -/
def afterLetters (rest : List String) (group : Group) : Except Refusal Line :=
  match group.pending with
  | none => withOptions group.given (readWords rest)
  | some switch =>
    match rest with
    | value :: rest => withOptions (group.given ++ [⟨switch, value⟩]) (readWords rest)
    | [] => .error (.letterNeedsValue switch.letter)

/-- What a name and the words after it come to. -/
def afterName (rest : List String) (found : Switch × Option String) : Except Refusal Line :=
  match found.1.takesValue, found.2 with
  | true, some value => withOptions [⟨found.1, value⟩] (readWords rest)
  | true, none =>
    match rest with
    | value :: rest => withOptions [⟨found.1, value⟩] (readWords rest)
    | [] => .error (.nameNeedsValue found.1)
  | false, some _ => .error (.nameTakesNoValue found.1)
  | false, none => withOptions [⟨found.1, ""⟩] (readWords rest)

section Valued

variable {switch : Switch} {letter : Char} {name : String} (h : Valued switch letter name)
  (value : String) (rest : List String)

include h

theorem afterName_assigned :
    afterName rest (switch, some value) = withOptions [⟨switch, value⟩] (readWords rest) := by
  unfold afterName
  dsimp only
  rw [h.takesValue_eq]

theorem afterName_followed :
    afterName (value :: rest) (switch, none) = withOptions [⟨switch, value⟩] (readWords rest) := by
  unfold afterName
  dsimp only
  rw [h.takesValue_eq]

end Valued

theorem readWords_of_letters {word : String} {letters : List Char} {c : Char}
    (hword : word.toList = '-' :: letters) (hfirst : letters.head? = some c) (hc : c ≠ '-')
    (rest : List String) : readWords (word :: rest) = readGroup letters >>= afterLetters rest := by
  obtain ⟨letters, rfl⟩ := List.head?_eq_some_iff.1 hfirst
  rw [readWords, hword]
  split
  · next heq => exact absurd (List.cons.inj (List.cons.inj heq).2).1 hc
  · next heq => exact absurd (List.cons.inj (List.cons.inj heq).2).1 hc
  · next heq =>
    obtain ⟨rfl, rfl⟩ := List.cons.inj (List.cons.inj heq).2
    rfl
  · next h => exact absurd rfl (h _ _)

/-- Letters after some `v`s. -/
theorem readWords_of_group {word : String} {n : Nat} {letter : Char} {letters : List Char}
    {group : Group} (hword : word.toList = '-' :: (List.replicate n 'v' ++ letter :: letters))
    (hletter : letter ≠ '-') (hgroup : readGroup (letter :: letters) = .ok group)
    (rest : List String) :
    readWords (word :: rest) =
      afterLetters rest { group with given := List.replicate n shown ++ group.given } := by
  obtain ⟨c, hfirst, hc⟩ : ∃ c, (List.replicate n 'v' ++ letter :: letters).head? = some c ∧
      c ≠ '-' := by
    cases n with
    | zero => exact ⟨letter, rfl, hletter⟩
    | succ n => exact ⟨'v', rfl, by decide⟩
  rw [readWords_of_letters hword hfirst hc, readGroup_replicate_append, hgroup]
  rfl

/-- A name, or a beginning of one. -/
theorem readWords_of_name {word : String} {text : List Char}
    (hword : word.toList = '-' :: '-' :: text) (hne : text ≠ []) (rest : List String) :
    readWords (word :: rest) = readName text >>= afterName rest := by
  rw [readWords, hword]
  obtain ⟨c, text, rfl⟩ := List.exists_cons_of_ne_nil hne
  rfl

theorem Bare.toList_ne {word : String} (h : Bare word) (c : Char) (letters : List Char) :
    word.toList ≠ '-' :: c :: letters := by
  intro hword
  rcases h with hminus | rfl
  · exact hminus (hword ▸ ⟨_, rfl⟩)
  · cases hword

/-- Arguments that are not marked. -/
theorem readWords_of_bare {arguments : List String} (h : ∀ word ∈ arguments.head?, Bare word) :
    readWords arguments = .ok { arguments } := by
  cases arguments with
  | nil => rfl
  | cons word rest =>
    have hbare : Bare word := h word rfl
    rw [readWords]
    split
    · next hword => exact absurd hword (hbare.toList_ne _ _)
    · next hword => exact absurd hword (hbare.toList_ne _ _)
    · next hword => exact absurd hword (hbare.toList_ne _ _)
    · rfl

theorem readWords_marked (arguments : List String) :
    readWords ("--" :: arguments) = .ok { arguments } := by
  have hword : "--".toList = ['-', '-'] := by decide
  rw [readWords, hword]
  rfl

/-- **A piece is taken off**, whatever follows it. -/
theorem readWords_piece {piece : List String} {given : List Given} (h : Piece piece given)
    (rest : List String) : readWords (piece ++ rest) = withOptions given (readWords rest) := by
  cases h with
  | @group word n hword =>
    have hlast : List.replicate (n + 1) 'v' = List.replicate n 'v' ++ ['v'] :=
      List.replicate_succ'
    have hgroup : readGroup ['v'] = .ok { given := [shown] } := readGroup_cons_v []
    rw [hlast] at hword
    show readWords (word :: rest) = _
    rw [readWords_of_group hword (by decide) hgroup, List.replicate_succ']
    rfl
  | @joined word value name n switch letter h hvalue hword =>
    show readWords (word :: rest) = _
    rw [readWords_of_group hword h.ne_minus (readGroup_joined h hvalue)]
    rfl
  | @apart word value name n switch letter h hword =>
    show readWords (word :: value :: rest) = _
    rw [readWords_of_group hword h.ne_minus (readGroup_apart h), List.append_nil]
    rfl
  | @assigned word value name text switch letter h htext hword =>
    rw [h.name_eq] at htext
    show readWords (word :: rest) = _
    rw [readWords_of_name hword (by simp), readName_assigned htext]
    exact afterName_assigned h value rest
  | @followed word value name text switch letter h htext hword =>
    rw [h.name_eq] at htext
    show readWords (word :: value :: rest) = _
    rw [readWords_of_name hword htext.ne_nil, readName_of_abbreviates htext]
    exact afterName_followed h value rest
  | @verbose word text htext hword =>
    have hverbose : Abbreviates text Switch.verbose.name := htext
    show readWords (word :: rest) = _
    rw [readWords_of_name hword hverbose.ne_nil, readName_of_abbreviates hverbose]
    rfl

/-- **What the words spell is read.** -/
theorem readWords_of_spells {words arguments : List String} {given : List Given}
    (h : Spells words given arguments) : readWords words = .ok { given, arguments } := by
  induction h with
  | arguments h => exact readWords_of_bare h
  | marked => exact readWords_marked _
  | options h _ ih =>
    rw [readWords_piece h, ih]
    rfl

/-- No spelling asks for help. -/
theorem Piece.ne_help {piece : List String} {given : List Given} (h : Piece piece given) :
    ∀ g ∈ given, g.switch ≠ .help := by
  have hshown (n : Nat) : ∀ g ∈ List.replicate n shown, g.switch ≠ .help := by
    intro g hg
    rw [List.eq_of_mem_replicate hg]
    decide
  have hvalued {switch : Switch} {letter : Char} {name : String} (h : Valued switch letter name)
      (value : String) : ∀ g ∈ [Given.mk switch value], g.switch ≠ .help := by
    intro g hg
    rw [List.mem_singleton.1 hg]
    exact h.ne_help
  cases h with
  | group _ => exact hshown _
  | joined h _ _ => exact List.forall_mem_append.2 ⟨hshown _, hvalued h _⟩
  | apart h _ => exact List.forall_mem_append.2 ⟨hshown _, hvalued h _⟩
  | assigned h _ _ => exact hvalued h _
  | followed h _ _ => exact hvalued h _
  | verbose _ _ => exact hshown 1

theorem Spells.ne_help {words arguments : List String} {given : List Given}
    (h : Spells words given arguments) : ∀ g ∈ given, g.switch ≠ .help := by
  induction h with
  | arguments _ => exact fun g hg => nomatch hg
  | marked => exact fun g hg => nomatch hg
  | options h _ ih => exact List.forall_mem_append.2 ⟨h.ne_help, ih⟩

/-! ## 5. Nothing else is read -/

/-- What went well went well up to every step. -/
theorem exists_of_bind_eq_ok {ε α β : Type} {x : Except ε α} {k : α → Except ε β} {b : β}
    (h : x >>= k = .ok b) : ∃ a, x = .ok a ∧ k a = .ok b := by
  cases x with
  | error e => cases h
  | ok a => exact ⟨a, rfl, h⟩

theorem exists_of_withOptions {given : List Given} {x : Except Refusal Line} {line : Line}
    (h : withOptions given x = .ok line) : ∃ more, x = .ok more ∧ more.after given = line := by
  cases x with
  | error why => cases h
  | ok more => exact ⟨more, rfl, Except.ok.inj h⟩

theorem valued_of_takesValue {switch : Switch} (h : switch.takesValue = true) :
    Valued switch switch.letter switch.name := by
  cases switch with
  | help => cases h
  | timeout => exact .timeout
  | expected => exact .expected
  | target => exact .target
  | verbose => cases h

theorem eq_verbose {switch : Switch} (h : switch.takesValue = false) (hhelp : switch ≠ .help) :
    switch = .verbose := by
  cases switch with
  | help => exact absurd rfl hhelp
  | timeout => cases h
  | expected => cases h
  | target => cases h
  | verbose => rfl

/-- The letters of a group and what they come to. -/
inductive Grouped : List Char → Group → Prop where
  | shown (n : Nat) : Grouped (List.replicate n 'v') { given := List.replicate n shown }
  | joined {value name : String} {switch : Switch} {letter : Char} (n : Nat)
      (h : Valued switch letter name) (hvalue : value ≠ "") :
    Grouped (List.replicate n 'v' ++ letter :: value.toList)
      { given := List.replicate n shown ++ [⟨switch, value⟩] }
  | apart {name : String} {switch : Switch} {letter : Char} (n : Nat)
      (h : Valued switch letter name) :
    Grouped (List.replicate n 'v' ++ [letter])
      { given := List.replicate n shown, pending := some switch }

theorem Grouped.cons {letters : List Char} {group : Group} (h : Grouped letters group) :
    Grouped ('v' :: letters) { group with given := Options.shown :: group.given } := by
  cases h with
  | shown n => exact .shown (n + 1)
  | joined n h hvalue => exact .joined (n + 1) h hvalue
  | apart n h => exact .apart (n + 1) h

theorem grouped_of_readGroup {letters : List Char} {group : Group}
    (h : readGroup letters = .ok group) (hhelp : ∀ g ∈ group.given, g.switch ≠ .help) :
    Grouped letters group := by
  induction letters generalizing group with
  | nil =>
    obtain rfl := Except.ok.inj h
    exact .shown 0
  | cons c rest ih =>
    rw [readGroup] at h
    cases hswitch : Switch.ofLetter? c with
    | none =>
      rw [hswitch] at h
      cases h
    | some switch =>
      have hc := List.find?_some hswitch
      obtain rfl : switch.letter = c := beq_iff_eq.1 hc
      rw [hswitch] at h
      dsimp only at h
      by_cases htakes : switch.takesValue = true
      · rw [if_pos htakes] at h
        by_cases hempty : rest.isEmpty = true
        · rw [if_pos hempty] at h
          obtain rfl := Except.ok.inj h
          obtain rfl := List.isEmpty_iff.1 hempty
          exact .apart 0 (valued_of_takesValue htakes)
        · rw [if_neg hempty] at h
          obtain rfl := Except.ok.inj h
          have hvalue : String.ofList rest ≠ "" := by
            intro hnil
            rw [String.ofList_eq_empty_iff] at hnil
            exact hempty (List.isEmpty_iff.2 hnil)
          have hjoined := Grouped.joined 0 (valued_of_takesValue htakes) hvalue
          rw [String.toList_ofList] at hjoined
          exact hjoined
      · rw [if_neg htakes] at h
        obtain ⟨more, hmore, h⟩ := exists_of_bind_eq_ok h
        obtain rfl := Except.ok.inj h
        have hhead : switch ≠ .help := hhelp _ List.mem_cons_self
        obtain rfl := eq_verbose (eq_false_of_ne_true htakes) hhead
        exact (ih hmore fun g hg => hhelp g (List.mem_cons_of_mem _ hg)).cons

theorem exists_of_readName {text : List Char} {found : Switch × Option String}
    (h : readName text = .ok found) :
    ∃ start, Abbreviates start found.1.name ∧
      (found.2 = none ∧ text = start ∨
        ∃ value : String, found.2 = some value ∧ text = start ++ '=' :: value.toList) := by
  obtain ⟨switch, hname, h⟩ := exists_of_bind_eq_ok h
  have hsplit : text.takeWhile (· != '=') ++ text.dropWhile (· != '=') = text :=
    List.takeWhile_append_dropWhile
  have hfirst := List.head?_dropWhile_not (· != '=') text
  cases hrest : text.dropWhile (· != '=') with
  | nil =>
    rw [hrest] at h hsplit
    obtain rfl := Except.ok.inj h
    rw [List.append_nil] at hsplit
    exact ⟨_, ofName_eq_ok_iff.1 hname, .inl ⟨rfl, hsplit.symm⟩⟩
  | cons c value =>
    rw [hrest] at h hsplit hfirst
    obtain rfl := Except.ok.inj h
    obtain rfl : c = '=' := by simpa using hfirst
    refine ⟨_, ofName_eq_ok_iff.1 hname, .inr ⟨_, rfl, ?_⟩⟩
    rw [String.toList_ofList]
    exact hsplit.symm

/-- What a word is: no option, the mark before arguments, a name, or letters. -/
theorem word_cases (word : String) :
    Bare word ∨ word = "--" ∨ (∃ text, text ≠ [] ∧ word.toList = '-' :: '-' :: text) ∨
      ∃ c letters, c ≠ '-' ∧ word.toList = '-' :: c :: letters := by
  by_cases hminus : ['-'] <+: word.toList
  · obtain ⟨text, htext⟩ := hminus
    match text, htext with
    | [], htext => exact .inl (.inr (String.toList_inj.1 (htext.symm.trans (by decide))))
    | c :: letters, htext =>
      by_cases hc : c = '-'
      · subst hc
        by_cases hempty : letters = []
        · subst hempty
          exact .inr (.inl (String.toList_inj.1 (htext.symm.trans (by decide))))
        · exact .inr (.inr (.inl ⟨letters, hempty, htext.symm⟩))
      · exact .inr (.inr (.inr ⟨c, letters, hc, htext.symm⟩))
  · exact .inl (.inl hminus)

/-- The first words spell the first options of the line, and the rest of the words is the rest. -/
def TakesPiece (words : List String) (line : Line) : Prop :=
  ∃ piece given rest more, words = piece ++ rest ∧ piece ≠ [] ∧ Piece piece given ∧
    readWords rest = .ok more ∧ more.after given = line

theorem takesPiece {piece rest : List String} {given : List Given} {line : Line}
    (h : Piece piece given) (hne : piece ≠ [])
    (hrest : withOptions given (readWords rest) = .ok line) : TakesPiece (piece ++ rest) line := by
  obtain ⟨more, hmore, hline⟩ := exists_of_withOptions hrest
  exact ⟨piece, given, rest, more, rfl, hne, h, hmore, hline⟩

theorem given_prefix_of_afterLetters {rest : List String} {group : Group} {line : Line}
    (h : afterLetters rest group = .ok line) : group.given <+: line.given := by
  unfold afterLetters at h
  split at h
  · obtain ⟨more, -, rfl⟩ := exists_of_withOptions h
    exact List.prefix_append ..
  · split at h
    · obtain ⟨more, -, rfl⟩ := exists_of_withOptions h
      exact (List.prefix_append ..).trans (List.prefix_append ..)
    · cases h

section Words

variable {word : String} {rest : List String} {line : Line}

theorem takesPiece_of_letters {letters : List Char} {c : Char}
    (hword : word.toList = '-' :: letters) (hfirst : letters.head? = some c) (hc : c ≠ '-')
    (h : readWords (word :: rest) = .ok line) (hhelp : ∀ g ∈ line.given, g.switch ≠ .help) :
    TakesPiece (word :: rest) line := by
  rw [readWords_of_letters hword hfirst hc] at h
  obtain ⟨group, hgroup, h⟩ := exists_of_bind_eq_ok h
  have hgrouped := grouped_of_readGroup hgroup fun g hg =>
    hhelp g ((given_prefix_of_afterLetters h).mem hg)
  cases hgrouped with
  | shown n =>
    cases n with
    | zero => cases hfirst
    | succ n => exact takesPiece (.group hword) (List.cons_ne_nil _ _) h
  | joined n hvalued hvalue =>
    exact takesPiece (.joined hvalued hvalue hword) (List.cons_ne_nil _ _) h
  | apart n hvalued =>
    cases rest with
    | nil => cases h
    | cons value rest => exact takesPiece (.apart hvalued hword) (List.cons_ne_nil _ _) h

theorem takesPiece_of_name {text : List Char} (hword : word.toList = '-' :: '-' :: text)
    (hne : text ≠ []) (h : readWords (word :: rest) = .ok line)
    (hhelp : ∀ g ∈ line.given, g.switch ≠ .help) : TakesPiece (word :: rest) line := by
  rw [readWords_of_name hword hne] at h
  obtain ⟨⟨switch, value⟩, hname, hafter⟩ := exists_of_bind_eq_ok h
  obtain ⟨start, hstart, hvalue⟩ := exists_of_readName hname
  dsimp only at hstart hvalue
  cases htakes : switch.takesValue with
  | true =>
    have hvalued := valued_of_takesValue htakes
    rcases hvalue with ⟨rfl, rfl⟩ | ⟨value, rfl, rfl⟩
    · cases rest with
      | nil =>
        unfold afterName at hafter
        dsimp only at hafter
        rw [htakes] at hafter
        cases hafter
      | cons value rest =>
        rw [afterName_followed hvalued] at hafter
        exact takesPiece (.followed hvalued hstart hword) (List.cons_ne_nil _ _) hafter
    · rw [afterName_assigned hvalued] at hafter
      exact takesPiece (.assigned hvalued hstart hword) (List.cons_ne_nil _ _) hafter
  | false =>
    unfold afterName at hafter
    dsimp only at hafter
    rw [htakes] at hafter
    rcases hvalue with ⟨rfl, rfl⟩ | ⟨value, rfl, rfl⟩
    · have hafter : withOptions [⟨switch, ""⟩] (readWords rest) = .ok line := hafter
      obtain ⟨more, hmore, rfl⟩ := exists_of_withOptions hafter
      obtain rfl := eq_verbose htakes (hhelp _ List.mem_cons_self)
      exact takesPiece (.verbose hstart hword) (List.cons_ne_nil _ _) hafter
    · cases hafter

end Words

/-- **No other words are read.** -/
theorem spells_of_readWords {words : List String} {line : Line} (h : readWords words = .ok line)
    (hhelp : ∀ g ∈ line.given, g.switch ≠ .help) : Spells words line.given line.arguments := by
  induction hlength : words.length using Nat.strong_induction_on generalizing words line with
  | _ n ih =>
    have hpiece : TakesPiece words line → Spells words line.given line.arguments := by
      rintro ⟨piece, given, rest, more, rfl, hne, hpiece, hmore, rfl⟩
      have hshorter : rest.length < n := by
        rw [← hlength, List.length_append]
        have hpos := List.length_pos_iff.2 hne
        omega
      exact .options hpiece
        (ih _ hshorter hmore (fun g hg => hhelp g (List.mem_append_right _ hg)) rfl)
    cases words with
    | nil =>
      obtain rfl := Except.ok.inj h
      exact .arguments fun _ hw => nomatch hw
    | cons word rest =>
      rcases word_cases word with hbare | rfl | ⟨text, hne, hword⟩ | ⟨c, letters, hc, hword⟩
      · have hbare : ∀ w ∈ (word :: rest).head?, Bare w := by
          intro w hw
          obtain rfl : word = w := Option.some.inj hw
          exact hbare
        obtain rfl := Except.ok.inj ((readWords_of_bare hbare).symm.trans h)
        exact .arguments hbare
      · obtain rfl := Except.ok.inj ((readWords_marked rest).symm.trans h)
        exact .marked
      · exact hpiece (takesPiece_of_name hword hne h hhelp)
      · exact hpiece (takesPiece_of_letters hword rfl hc h hhelp)

/-- **The spellings are the command lines** that are read and do not ask for help. -/
theorem spells_iff {words arguments : List String} {given : List Given} :
    Spells words given arguments ↔
      readWords words = .ok { given, arguments } ∧ ∀ g ∈ given, g.switch ≠ .help := by
  constructor
  · intro h
    exact ⟨readWords_of_spells h, h.ne_help⟩
  · rintro ⟨h, hhelp⟩
    exact spells_of_readWords h hhelp

end HttpProbe.Options
