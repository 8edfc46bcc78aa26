/-!
# The command line

What may stand on the command line: options first, then arguments. An option has a letter and a
name, and some take a value (`Switch`).

* After one minus stand letters; a letter that takes a value takes the rest of the group, or the
  next word if there is no rest (`readGroup`);
* after two stands a name, or a beginning of just one name, and after an equals sign its value;
  without the sign the next word is the value (`readName`);
* options end before the first word that is none of these, a lone minus being a word like any other,
  or after two minuses that stand alone (`readWords`).
-/

namespace HttpProbe.Options

/-! ## 1. Options -/

/-- An option. -/
inductive Switch where
  | help
  | timeout
  | expected
  | target
  | verbose
  deriving DecidableEq

namespace Switch

/-- All options. -/
def all : List Switch := [help, timeout, expected, target, verbose]

/-- The letter of an option. -/
def letter : Switch → Char
  | help => 'h'
  | timeout => 't'
  | expected => 'p'
  | target => 'P'
  | verbose => 'v'

/-- The name of an option. -/
def name : Switch → String
  | help => "help"
  | timeout => "timeout"
  | expected => "prefix"
  | target => "path"
  | verbose => "verbose"

/-- Whether the option takes a value. -/
def takesValue : Switch → Bool
  | help | verbose => false
  | timeout | expected | target => true

/-- The option with the letter. -/
def ofLetter? (c : Char) : Option Switch := all.find? fun s => s.letter == c

end Switch

/-- An option that was given, with its value; an option without one has the empty value. -/
structure Given where
  switch : Switch
  value : String
  deriving DecidableEq

/-! ## 2. Refusals -/

/-- Why a command line is refused. -/
inductive Refusal where
  | unknownLetter (c : Char)
  | letterNeedsValue (c : Char)
  | unknownName (text : String)
  | ambiguousName (text : String)
  | nameNeedsValue (switch : Switch)
  | nameTakesNoValue (switch : Switch)
  deriving DecidableEq

/-- What a message says of it. -/
def Refusal.message : Refusal → String
  | unknownLetter c => s!"option -{c} not recognized"
  | letterNeedsValue c => s!"option -{c} requires argument"
  | unknownName text => s!"option --{text} not recognized"
  | ambiguousName text => s!"option --{text} not a unique prefix"
  | nameNeedsValue switch => s!"option --{switch.name} requires argument"
  | nameTakesNoValue switch => s!"option --{switch.name} must not have an argument"

/-! ## 3. Letters -/

/-- The options of a group of letters, and the option at its end that still lacks its value. -/
structure Group where
  /-- The options that are complete, in order. -/
  given : List Given := []
  /-- The option that takes the next word. -/
  pending : Option Switch := none

/-- Reads a group of letters. -/
def readGroup : List Char → Except Refusal Group
  | [] => .ok {}
  | c :: rest =>
    match Switch.ofLetter? c with
    | none => .error (.unknownLetter c)
    | some switch =>
      if switch.takesValue then
        if rest.isEmpty then .ok { pending := some switch }
        else .ok { given := [⟨switch, String.ofList rest⟩] }
      else do
        let group ← readGroup rest
        return { group with given := ⟨switch, ""⟩ :: group.given }

/-! ## 4. Names -/

/-- The option that a name or a beginning of one stands for. -/
def ofName (text : List Char) : Except Refusal Switch :=
  let found := Switch.all.filter fun s => text.isPrefixOf s.name.toList
  match found.find? fun s => s.name.toList == text with
  | some switch => .ok switch
  | none => match found with
    | [] => .error (.unknownName (String.ofList text))
    | [switch] => .ok switch
    | _ => .error (.ambiguousName (String.ofList text))

/-- Reads what stands after two minuses: the option, and its value if one stands there. -/
def readName (word : List Char) : Except Refusal (Switch × Option String) := do
  let switch ← ofName (word.takeWhile (· != '='))
  match word.dropWhile (· != '=') with
  | [] => return (switch, none)
  | _ :: value => return (switch, some (String.ofList value))

/-! ## 5. Words -/

/-- A command line that was read. -/
structure Line where
  given : List Given := []
  arguments : List String := []
  deriving DecidableEq

/-- The line with more options in front. -/
def Line.after (given : List Given) (line : Line) : Line :=
  { line with given := given ++ line.given }

/-- Reads the words of a command line. -/
def readWords : List String → Except Refusal Line
  | [] => .ok {}
  | word :: rest =>
    match word.toList with
    | ['-', '-'] => .ok { arguments := rest }
    | '-' :: '-' :: text => do
      let (switch, value) ← readName text
      match switch.takesValue, value with
      | true, some value => return (← readWords rest).after [⟨switch, value⟩]
      | true, none =>
        match rest with
        | value :: rest => return (← readWords rest).after [⟨switch, value⟩]
        | [] => .error (.nameNeedsValue switch)
      | false, some _ => .error (.nameTakesNoValue switch)
      | false, none => return (← readWords rest).after [⟨switch, ""⟩]
    | '-' :: c :: letters => do
      let group ← readGroup (c :: letters)
      match group.pending with
      | none => return (← readWords rest).after group.given
      | some switch =>
        match rest with
        | value :: rest => return (← readWords rest).after (group.given ++ [⟨switch, value⟩])
        | [] => .error (.letterNeedsValue switch.letter)
    | _ => .ok { arguments := word :: rest }

end HttpProbe.Options
