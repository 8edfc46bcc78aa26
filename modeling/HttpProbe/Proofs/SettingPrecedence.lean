import HttpProbe.Probe.Invocation
import HttpProbe.Proofs.OptionSpelling

/-!
# Which value a setting has

A setting can be given by options or an argument, by the environment, or not at all. The last option
counts, or else the environment unless its value is empty, or else the setting is as usual:

* `Last`: the last value given, and something else if none was; `Preset`: what the environment says;
* `Chosen`: the one before the other;
* `Settles`: what an invocation comes to, setting by setting;
* `preset_ofEnvironment`, `overrides_foldlM`, `addresses_address`: what the environment, the options
  and the arguments do to it;
* **`read_of_spells`**: an invocation comes to that, however its options are spelled.
-/

namespace HttpProbe.Invocation

open Options (Given Switch exists_of_bind_eq_ok)

/-! ## 1. Choices -/

/-- What the last of the values is read as; if there is none, something of another kind. -/
inductive Last {α : Type} (reads : String → α → Prop) (values : List String) (other : α → Prop) :
    α → Prop where
  | given {before : List String} {value : String} {a : α} (hvalues : values = before ++ [value])
      (h : reads value a) : Last reads values other a
  | other {a : α} (hvalues : values = []) (h : other a) : Last reads values other a

/-- What the variable of the name is read as if it is set and not empty, else the usual value. -/
inductive Preset {α : Type} (reads : String → α → Prop) (env : Environment) (name : String)
    (usual : α) : α → Prop where
  | set {value : String} {a : α} (hset : env.lookup name = some value) (hfilled : value ≠ "")
      (h : reads value a) : Preset reads env name usual a
  | unset (h : ∀ value, env.lookup name = some value → value = "") :
    Preset reads env name usual usual

/-- The last of the values that were given, or else what is preset. -/
abbrev Chosen {α : Type} (reads : String → α → Prop) (values : List String) (env : Environment)
    (name : String) (usual : α) : α → Prop :=
  Last reads values (Preset reads env name usual)

/-- The text is a timeout. -/
def IsTimeout (text : String) (timeout : Option Binary64) : Prop := Timeout.read text = .ok timeout

/-- The values that were given by an option, in order. -/
def values (switch : Switch) (given : List Given) : List String :=
  (given.filter fun g => g.switch == switch).map (·.value)

/-- What is to be done when these options and arguments are given in the environment. -/
structure Settles (env : Environment) (given : List Given) (arguments : List String)
    (i : Invocation) : Prop where
  host : Chosen Eq arguments[0]?.toList env "STATUSPROBE_HOST" "www.google.com" i.settings.host
  service : Chosen Eq arguments[1]?.toList env "STATUSPROBE_SERVICE" "http" i.settings.service
  target : Chosen Eq (values .target given) env "STATUSPROBE_PATH" "/" i.settings.target
  expected :
    Chosen Eq (values .expected given) env "STATUSPROBE_PREFIX" "HTTP/1.0" i.settings.expected
  timeout : Chosen IsTimeout (values .timeout given) env "STATUSPROBE_TIMEOUT"
    (some (.ofDecimal false 10 0)) i.settings.timeout
  verbose : i.verbose = true ↔ ∃ g ∈ given, g.switch = .verbose

section Last

variable {α : Type} {reads : String → α → Prop} {other : α → Prop} {rest : List String} {a : α}

/-- What is left as it was is what it was. -/
theorem Last.of_eq {b : α} (h : Last reads rest (b = ·) a) (hb : other b) :
    Last reads rest other a := by
  cases h with
  | given hvalues h => exact .given hvalues h
  | other hvalues h =>
    subst h
    exact .other hvalues hb

/-- One value before the others: it counts if it is the only one. -/
theorem Last.cons {value : String} (h : Last reads rest (reads value) a) :
    Last reads (value :: rest) other a := by
  cases h with
  | @given before last _ hvalues h =>
    have hcons : value :: rest = (value :: before) ++ [last] := by rw [hvalues, List.cons_append]
    exact .given hcons h
  | other hvalues h =>
    have hcons : value :: rest = [] ++ [value] := by rw [hvalues, List.nil_append]
    exact .given hcons h

end Last

/-! ## 2. The environment -/

section Environment

variable {env : Environment} {name : String}

theorem setting?_eq_some {text : String} (h : Settings.setting? env name = some text) :
    env.lookup (Settings.variablePrefix ++ name) = some text ∧ text ≠ "" := by
  rw [Settings.setting?, Option.filter_eq_some_iff] at h
  simpa using h

theorem setting?_eq_none (h : Settings.setting? env name = none) (text : String)
    (hset : env.lookup (Settings.variablePrefix ++ name) = some text) : text = "" := by
  rw [Settings.setting?, hset] at h
  simpa using h

/-- A setting that is a text. -/
theorem preset_getD (env : Environment) (name usual : String) :
    Preset Eq env (Settings.variablePrefix ++ name) usual
      ((Settings.setting? env name).getD usual) := by
  cases h : Settings.setting? env name with
  | none => exact .unset (setting?_eq_none h)
  | some text =>
    obtain ⟨hset, hfilled⟩ := setting?_eq_some h
    exact .set hset hfilled rfl

theorem ofEnvironment_eq_ok {settings : Settings}
    (h : Settings.ofEnvironment env = .ok settings) :
    ∃ timeout, Preset IsTimeout env "STATUSPROBE_TIMEOUT" (some (.ofDecimal false 10 0)) timeout ∧
      settings = {
        host := (Settings.setting? env "HOST").getD "www.google.com"
        service := (Settings.setting? env "SERVICE").getD "http"
        target := (Settings.setting? env "PATH").getD "/"
        expected := (Settings.setting? env "PREFIX").getD "HTTP/1.0"
        timeout } := by
  unfold Settings.ofEnvironment at h
  dsimp only at h
  cases hset : Settings.setting? env "TIMEOUT" with
  | none =>
    rw [hset] at h
    exact ⟨_, .unset (setting?_eq_none hset), (Except.ok.inj h).symm⟩
  | some text =>
    rw [hset] at h
    obtain ⟨timeout, hread, h⟩ := exists_of_bind_eq_ok h
    obtain ⟨hlookup, hfilled⟩ := setting?_eq_some hset
    exact ⟨timeout, .set hlookup hfilled hread, (Except.ok.inj h).symm⟩

/-- **The environment** presets every setting. -/
theorem preset_ofEnvironment {settings : Settings} (h : Settings.ofEnvironment env = .ok settings) :
    Preset Eq env "STATUSPROBE_HOST" "www.google.com" settings.host ∧
    Preset Eq env "STATUSPROBE_SERVICE" "http" settings.service ∧
    Preset Eq env "STATUSPROBE_PATH" "/" settings.target ∧
    Preset Eq env "STATUSPROBE_PREFIX" "HTTP/1.0" settings.expected ∧
    Preset IsTimeout env "STATUSPROBE_TIMEOUT" (some (.ofDecimal false 10 0)) settings.timeout := by
  obtain ⟨timeout, htimeout, rfl⟩ := ofEnvironment_eq_ok h
  exact ⟨preset_getD env "HOST" _, preset_getD env "SERVICE" _, preset_getD env "PATH" _,
    preset_getD env "PREFIX" _, htimeout⟩

end Environment

/-! ## 3. The options -/

/-- From the first invocation to the second one the options were looked at. -/
structure Overrides (given : List Given) (i j : Invocation) : Prop where
  host : j.settings.host = i.settings.host
  service : j.settings.service = i.settings.service
  target : Last Eq (values .target given) (i.settings.target = ·) j.settings.target
  expected : Last Eq (values .expected given) (i.settings.expected = ·) j.settings.expected
  timeout : Last IsTimeout (values .timeout given) (i.settings.timeout = ·) j.settings.timeout
  verbose : j.verbose = true ↔ i.verbose = true ∨ ∃ g ∈ given, g.switch = .verbose

theorem Overrides.nil (i : Invocation) : Overrides [] i i where
  host := rfl
  service := rfl
  target := .other rfl rfl
  expected := .other rfl rfl
  timeout := .other rfl rfl
  verbose := by simp

section Overrides

variable {rest : List Given} {i j : Invocation}

/-- One option before the others. A value of its own setting counts if it is the last one. -/
theorem Overrides.cons {g : Given} {next : Invocation} (happly : i.apply g = .ok next)
    (h : Overrides rest next j) : Overrides (g :: rest) i j := by
  obtain ⟨switch, value⟩ := g
  cases switch with
  | help => cases happly
  | timeout =>
    unfold apply at happly
    dsimp only at happly
    cases hread : Timeout.read value with
    | error why =>
      rw [hread] at happly
      cases happly
    | ok timeout =>
      rw [hread] at happly
      obtain rfl := Except.ok.inj happly
      have htimeout : Last IsTimeout (values .timeout rest) (IsTimeout value) j.settings.timeout :=
        h.timeout.of_eq hread
      exact ⟨h.host, h.service, h.target, h.expected, htimeout.cons, by simpa using h.verbose⟩
  | expected =>
    obtain rfl := Except.ok.inj happly
    exact ⟨h.host, h.service, h.target, h.expected.cons, h.timeout, by simpa using h.verbose⟩
  | target =>
    obtain rfl := Except.ok.inj happly
    exact ⟨h.host, h.service, h.target.cons, h.expected, h.timeout, by simpa using h.verbose⟩
  | verbose =>
    obtain rfl := Except.ok.inj happly
    exact ⟨h.host, h.service, h.target, h.expected, h.timeout, by simpa using h.verbose⟩

/-- Only help and a timeout that is none are refused. -/
theorem exists_apply {g : Given} (hhelp : g.switch ≠ .help)
    (htimeout : g.switch = .timeout → ∃ timeout, IsTimeout g.value timeout) (i : Invocation) :
    ∃ next, i.apply g = .ok next := by
  obtain ⟨switch, value⟩ := g
  cases switch with
  | help => exact absurd rfl hhelp
  | timeout =>
    obtain ⟨timeout, hread⟩ := htimeout rfl
    have hread : Timeout.read value = .ok timeout := hread
    refine ⟨{ i with settings.timeout := timeout }, ?_⟩
    unfold apply
    dsimp only
    rw [hread]
  | expected => exact ⟨_, rfl⟩
  | target => exact ⟨_, rfl⟩
  | verbose => exact ⟨_, rfl⟩

/-- **The options override** what was before them. -/
theorem overrides_foldlM {given : List Given} (hhelp : ∀ g ∈ given, g.switch ≠ .help)
    (htimeouts : ∀ g ∈ given, g.switch = .timeout → ∃ timeout, IsTimeout g.value timeout)
    (i : Invocation) : ∃ j, given.foldlM apply i = .ok j ∧ Overrides given i j := by
  induction given generalizing i with
  | nil => exact ⟨i, rfl, .nil i⟩
  | cons g rest ih =>
    rw [List.forall_mem_cons] at hhelp htimeouts
    obtain ⟨next, hnext⟩ := exists_apply hhelp.1 htimeouts.1 i
    obtain ⟨j, hj, hrest⟩ := ih hhelp.2 htimeouts.2 next
    refine ⟨j, ?_, hrest.cons hnext⟩
    rw [List.foldlM_cons, hnext]
    exact hj

end Overrides

/-! ## 4. The arguments -/

/-- From the first invocation to the second one the arguments were looked at. -/
structure Addresses (arguments : List String) (i j : Invocation) : Prop where
  host : Last Eq arguments[0]?.toList (i.settings.host = ·) j.settings.host
  service : Last Eq arguments[1]?.toList (i.settings.service = ·) j.settings.service
  target : j.settings.target = i.settings.target
  expected : j.settings.expected = i.settings.expected
  timeout : j.settings.timeout = i.settings.timeout
  verbose : j.verbose = i.verbose

/-- **One or two arguments** are the host and the service. -/
theorem addresses_address {arguments : List String} (h : arguments.length ≤ 2) (i : Invocation) :
    ∃ j, i.address arguments = .ok j ∧ Addresses arguments i j := by
  have hone (value : String) (other : String → Prop) : Last Eq [value] other value :=
    .given (List.nil_append [value]).symm rfl
  match arguments, h with
  | [], _ => exact ⟨_, rfl, .other rfl rfl, .other rfl rfl, rfl, rfl, rfl, rfl⟩
  | [host], _ => exact ⟨_, rfl, hone host _, .other rfl rfl, rfl, rfl, rfl, rfl⟩
  | [host, service], _ => exact ⟨_, rfl, hone host _, hone service _, rfl, rfl, rfl, rfl⟩

/-! ## 5. The invocation -/

/-- The environment, the options and the arguments settle everything, one after the other. -/
theorem settles_of_overrides {env : Environment} {settings : Settings} {given : List Given}
    {arguments : List String} {i j : Invocation} (henv : Settings.ofEnvironment env = .ok settings)
    (hgiven : Overrides given { settings, verbose := false } i) (hends : Addresses arguments i j) :
    Settles env given arguments j := by
  obtain ⟨hhost, hservice, htarget, hexpected, htimeout⟩ := preset_ofEnvironment henv
  constructor
  · rw [← hgiven.host] at hhost
    exact hends.host.of_eq hhost
  · rw [← hgiven.service] at hservice
    exact hends.service.of_eq hservice
  · rw [hends.target]
    exact hgiven.target.of_eq htarget
  · rw [hends.expected]
    exact hgiven.expected.of_eq hexpected
  · rw [hends.timeout]
    exact hgiven.timeout.of_eq htimeout
  · rw [hends.verbose, hgiven.verbose]
    simp

theorem read_of_readWords {env : Environment} {words : List String} {settings : Settings}
    {line : Options.Line} (henv : Settings.ofEnvironment env = .ok settings)
    (hwords : Options.readWords words = .ok line) :
    read env words = line.given.foldlM apply { settings, verbose := false } >>=
      fun i => i.address line.arguments := by
  unfold read
  rw [henv, hwords]
  rfl

/-- **Which value a setting has.** Let the environment be readable, let words spell options and at
most two arguments, and let every timeout among the options be one. Then the invocation is read, and
every setting has the last value that was given for it, or else the one of the environment unless it
is empty, or else the usual one. However the same options are spelled, the same is read. -/
theorem read_of_spells {env : Environment} {settings : Settings} {words arguments : List String}
    {given : List Given} (henv : Settings.ofEnvironment env = .ok settings)
    (hwords : Options.Spells words given arguments)
    (htimeouts : ∀ g ∈ given, g.switch = .timeout → ∃ timeout, IsTimeout g.value timeout)
    (harguments : arguments.length ≤ 2) :
    (∃ i, read env words = .ok i ∧ Settles env given arguments i) ∧
      ∀ words', Options.Spells words' given arguments → read env words' = read env words := by
  have hline := Options.readWords_of_spells hwords
  constructor
  · obtain ⟨i, hfold, hgiven⟩ :=
      overrides_foldlM hwords.ne_help htimeouts { settings, verbose := false }
    obtain ⟨j, haddress, hends⟩ := addresses_address harguments i
    refine ⟨j, ?_, settles_of_overrides henv hgiven hends⟩
    rw [read_of_readWords henv hline]
    dsimp only
    rw [hfold]
    exact haddress
  · intro words' hwords'
    rw [read_of_readWords henv hline,
      read_of_readWords henv (Options.readWords_of_spells hwords')]

/-- An environment with a variable that is empty. -/
def sparseEnvironment : Environment :=
  [("STATUSPROBE_HOST", "example.org"), ("STATUSPROBE_SERVICE", ""), ("STATUSPROBE_TIMEOUT", "off")]

/-- Options whose values look like options, an empty one, and a host that looks like one. -/
def trickyWords : List String :=
  ["-vp", "--", "--ti=5", "-P-x", "--pre", "-v", "--pa=", "--", "-host"]

/-- What they spell. -/
def trickyGiven : List Given :=
  [⟨.verbose, ""⟩, ⟨.expected, "--"⟩, ⟨.timeout, "5"⟩, ⟨.target, "-x"⟩, ⟨.expected, "-v"⟩,
    ⟨.target, ""⟩]

/-- The same in other words. -/
def plainWords : List String :=
  ["--verbose", "--prefix=--", "-t", "5", "--path", "-x", "-p-v", "-P", "", "--", "-host"]

theorem read_of_spells_tricky :
    Settings.ofEnvironment sparseEnvironment = .ok { host := "example.org", timeout := none } ∧
    Options.Spells trickyWords trickyGiven ["-host"] ∧
    (∀ g ∈ trickyGiven, g.switch = .timeout → ∃ timeout, IsTimeout g.value timeout) ∧
    (∃ i, read sparseEnvironment trickyWords = .ok i ∧
      Settles sparseEnvironment trickyGiven ["-host"] i) ∧
    read sparseEnvironment plainWords = read sparseEnvironment trickyWords ∧
    read sparseEnvironment trickyWords = .ok ⟨{
      host := "-host", target := "", expected := "-v", timeout := some (.ofDecimal false 5 0) },
      true⟩ := by
  have henv : Settings.ofEnvironment sparseEnvironment
      = .ok { host := "example.org", timeout := none } := by
    decide +kernel
  have hwords : Options.Spells trickyWords trickyGiven ["-host"] :=
    Options.spells_iff.2 ⟨by decide +kernel, by decide⟩
  have hplain : Options.Spells plainWords trickyGiven ["-host"] :=
    Options.spells_iff.2 ⟨by decide +kernel, by decide⟩
  have htimeouts : ∀ g ∈ trickyGiven, g.switch = .timeout →
      ∃ timeout, IsTimeout g.value timeout := by
    have hfive : ∀ g ∈ trickyGiven, g.switch = .timeout →
        Timeout.read g.value = .ok (some (.ofDecimal false 5 0)) := by
      decide +kernel
    intro g hg htimeout
    exact ⟨_, hfive g hg htimeout⟩
  obtain ⟨hread, hsame⟩ := read_of_spells henv hwords htimeouts (by decide)
  exact ⟨henv, hwords, htimeouts, hread, hsame plainWords hplain, by decide +kernel⟩

end HttpProbe.Invocation
