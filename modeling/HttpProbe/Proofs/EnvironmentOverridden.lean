import HttpProbe.Proofs.SettingPrecedence

/-!
# What the command line leaves of the environment

The command line overrides the environment, so what it gives ought to make the environment's values
for the same settings as good as absent. Two runs with the same words and different environments
show how far this goes:

* `Gives`: the variables whose settings the words give; `Agree`: the environments have the same
  values for all others;
* `Meets`: two invocations that differ only where something that is still to be looked at sets them;
* `step_apply`: looking at one option keeps that; `run_foldlM`: so looking at all of them does, by
  induction on them; `address_eq`: and the arguments leave no difference;
* `Faulty`: the environment sets a timeout that is none. It is read before the words are, so it is
  refused whatever they give (`read_of_faulty`);
* **`environment_overridden`**: so the environments come to the same exactly when they have the same
  fault or none. An overridden host, service, target or prefix makes no difference.
-/

namespace HttpProbe.Invocation

open Options (Given Line)

/-! ## 1. Environments that differ where they are overridden -/

/-- The line gives the setting that the variable of the name stands for. -/
def Gives (line : Line) (name : String) : Prop :=
  name = "TIMEOUT" ∧ (∃ g ∈ line.given, g.switch = .timeout) ∨
    name = "PREFIX" ∧ (∃ g ∈ line.given, g.switch = .expected) ∨
    name = "PATH" ∧ (∃ g ∈ line.given, g.switch = .target) ∨
    name = "HOST" ∧ line.arguments ≠ [] ∨ name = "SERVICE" ∧ 2 ≤ line.arguments.length

instance (line : Line) (name : String) : Decidable (Gives line name) :=
  inferInstanceAs (Decidable (_ ∨ _))

/-- The environments have the same values for all settings that the words do not give. Words that
cannot be read give none, and leave the environments free. -/
def Agree (words : List String) (env env' : Environment) : Prop :=
  ∀ line, Options.readWords words = .ok line → ∀ name ∈ Settings.names, ¬ Gives line name →
    env.lookup (Settings.variablePrefix ++ name) = env'.lookup (Settings.variablePrefix ++ name)

/-- The environment sets a timeout that is none. -/
def Faulty (env : Environment) (why : Timeout.Refusal) : Prop :=
  ∃ text, env.lookup "STATUSPROBE_TIMEOUT" = some text ∧ text ≠ "" ∧ Timeout.read text = .error why

/-- The timeout by the environment. -/
def presetTimeout (env : Environment) : Except Timeout.Refusal (Option Binary64) :=
  match Settings.setting? env "TIMEOUT" with
  | none => .ok (some (.ofDecimal false 10 0))
  | some text => Timeout.read text

/-- The settings by the environment when it sets this timeout. -/
def presetSettings (env : Environment) (timeout : Option Binary64) : Settings where
  host := (Settings.setting? env "HOST").getD "www.google.com"
  service := (Settings.setting? env "SERVICE").getD "http"
  target := (Settings.setting? env "PATH").getD "/"
  expected := (Settings.setting? env "PREFIX").getD "HTTP/1.0"
  timeout

section Environment

variable {env env' : Environment}

theorem ofEnvironment_eq (env : Environment) :
    Settings.ofEnvironment env = (presetTimeout env).map (presetSettings env) := by
  unfold Settings.ofEnvironment presetTimeout
  dsimp only
  cases Settings.setting? env "TIMEOUT" with
  | none => rfl
  | some text =>
    dsimp only
    cases Timeout.read text <;> rfl

theorem faulty_iff (why : Timeout.Refusal) : Faulty env why ↔ presetTimeout env = .error why := by
  unfold presetTimeout
  cases hset : Settings.setting? env "TIMEOUT" with
  | none =>
    refine iff_of_false ?_ (by simp)
    rintro ⟨text, hlookup, hfilled, -⟩
    exact hfilled (setting?_eq_none hset text hlookup)
  | some text =>
    obtain ⟨hlookup, hfilled⟩ := setting?_eq_some hset
    constructor
    · rintro ⟨text', hlookup', -, hread⟩
      obtain rfl := Option.some.inj (hlookup.symm.trans hlookup')
      exact hread
    · intro hread
      exact ⟨text, hlookup, hfilled, hread⟩

theorem setting?_congr {name : String}
    (h : env.lookup (Settings.variablePrefix ++ name) = env'.lookup (Settings.variablePrefix ++ name)) :
    Settings.setting? env name = Settings.setting? env' name := by
  rw [Settings.setting?, Settings.setting?, h]

/-- **A fault of the environment comes first.** -/
theorem read_of_faulty {why : Timeout.Refusal} (h : Faulty env why) (words : List String) :
    read env words = .error (.environment why) := by
  unfold read
  rw [ofEnvironment_eq, (faulty_iff why).1 h]
  rfl

end Environment

/-! ## 2. Two invocations, option by option -/

/-- No option for the setting is among those that are still to be looked at. -/
def Spared (switch : Options.Switch) (given : List Given) : Prop := ∀ g ∈ given, g.switch ≠ switch

/-- The invocations differ only where the options or the arguments that are still to be looked at
set them. -/
structure Meets (given : List Given) (arguments : List String) (i j : Invocation) : Prop where
  host : arguments = [] → i.settings.host = j.settings.host
  service : arguments.length < 2 → i.settings.service = j.settings.service
  target : Spared .target given → i.settings.target = j.settings.target
  expected : Spared .expected given → i.settings.expected = j.settings.expected
  timeout : Spared .timeout given → i.settings.timeout = j.settings.timeout
  verbose : i.verbose = j.verbose

/-- Two runs end alike: with the same refusal, or with invocations that meet. -/
inductive Alike (given : List Given) (arguments : List String) :
    Except Refusal Invocation → Except Refusal Invocation → Prop where
  | refused (why : Refusal) : Alike given arguments (.error why) (.error why)
  | met {i j : Invocation} (h : Meets given arguments i j) : Alike given arguments (.ok i) (.ok j)

section Runs

variable {rest : List Given} {arguments : List String} {i j : Invocation}

theorem Spared.cons {switch : Options.Switch} {g : Given} (h : Spared switch rest)
    (hg : g.switch ≠ switch) : Spared switch (g :: rest) :=
  List.forall_mem_cons.2 ⟨hg, h⟩

/-- **One option keeps the invocations together.** Where it sets something it sets the same in both,
and what it does not set is spared by it. -/
theorem step_apply {g : Given} (h : Meets (g :: rest) arguments i j) :
    Alike rest arguments (i.apply g) (j.apply g) := by
  obtain ⟨switch, value⟩ := g
  cases switch with
  | help => exact .refused .helpAsked
  | timeout =>
    unfold apply
    dsimp only
    cases Timeout.read value with
    | error why => exact .refused _
    | ok timeout =>
      exact .met {
        host := h.host
        service := h.service
        target := fun hspared => h.target (hspared.cons (by simp))
        expected := fun hspared => h.expected (hspared.cons (by simp))
        timeout := fun _ => rfl
        verbose := h.verbose }
  | expected =>
    exact .met {
      host := h.host
      service := h.service
      target := fun hspared => h.target (hspared.cons (by simp))
      expected := fun _ => rfl
      timeout := fun hspared => h.timeout (hspared.cons (by simp))
      verbose := h.verbose }
  | target =>
    exact .met {
      host := h.host
      service := h.service
      target := fun _ => rfl
      expected := fun hspared => h.expected (hspared.cons (by simp))
      timeout := fun hspared => h.timeout (hspared.cons (by simp))
      verbose := h.verbose }
  | verbose =>
    exact .met {
      host := h.host
      service := h.service
      target := fun hspared => h.target (hspared.cons (by simp))
      expected := fun hspared => h.expected (hspared.cons (by simp))
      timeout := fun hspared => h.timeout (hspared.cons (by simp))
      verbose := rfl }

/-- **All options keep them together**, by induction on the options. -/
theorem run_foldlM {given : List Given} (h : Meets given arguments i j) :
    Alike [] arguments (given.foldlM apply i) (given.foldlM apply j) := by
  induction given generalizing i j with
  | nil => exact .met h
  | cons g rest ih =>
    rw [List.foldlM_cons, List.foldlM_cons]
    have hstep := step_apply h
    cases hi : i.apply g with
    | error why =>
      rw [hi] at hstep
      generalize j.apply g = r at hstep
      cases hstep
      exact .refused why
    | ok i' =>
      rw [hi] at hstep
      generalize j.apply g = r at hstep
      cases hstep with
      | met hrest => exact ih hrest

/-- **The arguments leave no difference.** -/
theorem address_eq (h : Meets [] arguments i j) : i.address arguments = j.address arguments := by
  have hspared (switch : Options.Switch) : Spared switch [] := fun _ hg => nomatch hg
  have htarget := h.target (hspared _)
  have hexpected := h.expected (hspared _)
  have htimeout := h.timeout (hspared _)
  have hverbose := h.verbose
  have hhost := h.host
  have hservice := h.service
  obtain ⟨⟨host, service, target, expected, timeout⟩, verbose⟩ := i
  obtain ⟨⟨host', service', target', expected', timeout'⟩, verbose'⟩ := j
  dsimp only at htarget hexpected htimeout hverbose hhost hservice
  subst htarget hexpected htimeout hverbose
  match arguments with
  | [] => rw [address, address, hhost rfl, hservice (by simp)]
  | [_] => rw [address, address, hservice (by simp)]
  | [_, _] => rfl
  | _ :: _ :: _ :: _ => rfl

/-- Two runs that end alike come to the same once the arguments are looked at. -/
theorem Alike.bind_address {r r' : Except Refusal Invocation} (h : Alike [] arguments r r') :
    (r >>= fun i => i.address arguments) = r' >>= fun i => i.address arguments := by
  cases h with
  | refused why => rfl
  | met h => exact address_eq h

end Runs

/-! ## 3. Two environments -/

section Read

variable {words : List String} {env env' : Environment}

/-- What the environments set meets where the words are silent. -/
theorem meets_presetSettings {line : Line} {timeout timeout' : Option Binary64}
    (hline : Options.readWords words = .ok line) (h : Agree words env env')
    (henv : presetTimeout env = .ok timeout) (henv' : presetTimeout env' = .ok timeout') :
    Meets line.given line.arguments ⟨presetSettings env timeout, false⟩
      ⟨presetSettings env' timeout', false⟩ := by
  have hsetting {name : String} (hname : name ∈ Settings.names) (hsilent : ¬ Gives line name) :
      Settings.setting? env name = Settings.setting? env' name :=
    setting?_congr (h line hline name hname hsilent)
  constructor
  · intro hnone
    have hsilent : ¬ Gives line "HOST" := by simpa [Gives] using hnone
    simp only [presetSettings, hsetting (by decide) hsilent]
  · intro hshort
    have hsilent : ¬ Gives line "SERVICE" := by simpa [Gives] using hshort
    simp only [presetSettings, hsetting (by decide) hsilent]
  · intro hspared
    have hsilent : ¬ Gives line "PATH" := by simpa [Gives, Spared] using hspared
    simp only [presetSettings, hsetting (by decide) hsilent]
  · intro hspared
    have hsilent : ¬ Gives line "PREFIX" := by simpa [Gives, Spared] using hspared
    simp only [presetSettings, hsetting (by decide) hsilent]
  · intro hspared
    have hsilent : ¬ Gives line "TIMEOUT" := by simpa [Gives, Spared] using hspared
    unfold presetTimeout at henv henv'
    rw [hsetting (by decide) hsilent] at henv
    exact Except.ok.inj (henv.symm.trans henv')
  · rfl

theorem read_of_presetTimeout {timeout : Option Binary64} (henv : presetTimeout env = .ok timeout) :
    read env words = (Options.readWords words).mapError .commandLine >>= fun line =>
      line.given.foldlM apply ⟨presetSettings env timeout, false⟩ >>=
        fun i => i.address line.arguments := by
  unfold read
  rw [ofEnvironment_eq, henv]
  rfl

/-- **Where no environment is at fault, they come to the same.** -/
theorem read_eq_of_agree {timeout timeout' : Option Binary64} (h : Agree words env env')
    (henv : presetTimeout env = .ok timeout) (henv' : presetTimeout env' = .ok timeout') :
    read env words = read env' words := by
  rw [read_of_presetTimeout henv, read_of_presetTimeout henv']
  cases hline : Options.readWords words with
  | error why => rfl
  | ok line => exact (run_foldlM (meets_presetSettings hline h henv henv')).bind_address

/-- An environment that is not at fault is not refused. -/
theorem ne_environment_of_presetTimeout {timeout : Option Binary64}
    (henv : presetTimeout env = .ok timeout) (why : Timeout.Refusal) :
    read env words ≠ .error (.environment why) := by
  have happly (i : Invocation) (g : Given) : i.apply g ≠ .error (.environment why) := by
    obtain ⟨switch, value⟩ := g
    cases switch with
    | timeout =>
      unfold apply
      dsimp only
      cases Timeout.read value <;> simp
    | _ => simp [apply]
  have hfold (given : List Given) (i : Invocation) :
      given.foldlM apply i ≠ .error (.environment why) := by
    induction given generalizing i with
    | nil => simp [pure, Except.pure]
    | cons g rest ih =>
      rw [List.foldlM_cons]
      cases hi : i.apply g with
      | error why' =>
        intro h
        exact happly i g (hi.trans h)
      | ok i' => exact ih i'
  have haddress (i : Invocation) (arguments : List String) :
      i.address arguments ≠ .error (.environment why) := by
    unfold address
    split <;> simp
  rw [read_of_presetTimeout henv]
  cases Options.readWords words with
  | error why' => exact fun h => nomatch h
  | ok line =>
    show (line.given.foldlM apply _ >>= _) ≠ _
    cases hi : line.given.foldlM apply ⟨presetSettings env timeout, false⟩ with
    | error why' =>
      intro h
      exact hfold line.given _ (hi.trans h)
    | ok i => exact haddress i line.arguments

/-- **How far the words override the environment.** Let two environments have the same values for
all settings that the words do not give. A timeout of the environment that is none is refused
whatever the words give, and with this one exception the environments come to the same: the same
settings, or the same refusal. The exception needs a timeout among what the words give; overridden
values of other settings make no difference at all. -/
theorem environment_overridden (h : Agree words env env') :
    (∀ why, Faulty env why → read env words = .error (.environment why)) ∧
    (read env words = read env' words ↔ ∀ why, Faulty env why ↔ Faulty env' why) ∧
    ∀ line, Options.readWords words = .ok line → ¬ Gives line "TIMEOUT" →
      read env words = read env' words := by
  have hsame : read env words = read env' words ↔ ∀ why, Faulty env why ↔ Faulty env' why := by
    cases henv : presetTimeout env with
    | error why =>
      rw [read_of_faulty ((faulty_iff why).2 henv)]
      cases henv' : presetTimeout env' with
      | error why' =>
        rw [read_of_faulty ((faulty_iff why').2 henv')]
        simp [faulty_iff, henv, henv']
      | ok timeout' =>
        refine iff_of_false (ne_environment_of_presetTimeout henv' why).symm fun hall => ?_
        have hfaulty := (hall why).1 ((faulty_iff why).2 henv)
        cases ((faulty_iff why).1 hfaulty).symm.trans henv'
    | ok timeout =>
      cases henv' : presetTimeout env' with
      | error why' =>
        rw [read_of_faulty ((faulty_iff why').2 henv')]
        refine iff_of_false (ne_environment_of_presetTimeout henv why') fun hall => ?_
        have hfaulty := (hall why').2 ((faulty_iff why').2 henv')
        cases ((faulty_iff why').1 hfaulty).symm.trans henv
      | ok timeout' =>
        refine iff_of_true (read_eq_of_agree h henv henv') fun why => ?_
        simp [faulty_iff, henv, henv']
  refine ⟨fun why hwhy => read_of_faulty hwhy words, hsame, fun line hline hsilent => ?_⟩
  refine hsame.2 fun why => ?_
  have hlookup : env.lookup "STATUSPROBE_TIMEOUT" = env'.lookup "STATUSPROBE_TIMEOUT" :=
    h line hline "TIMEOUT" (by decide) hsilent
  rw [Faulty, Faulty, hlookup]

end Read

/-- Words that give a timeout, a target and a host. -/
def overriding : List String := ["-t5", "--path", "/x", "h"]

/-- An environment with values for all that they give, and one more. -/
def crowded : Environment :=
  [("STATUSPROBE_TIMEOUT", "7"), ("STATUSPROBE_PATH", " "), ("STATUSPROBE_HOST", "a"),
    ("STATUSPROBE_SERVICE", "8080")]

/-- An environment with that one value alone. -/
def thin : Environment := [("STATUSPROBE_SERVICE", "8080")]

theorem agree_overriding (timeout : String) :
    Agree overriding (("STATUSPROBE_TIMEOUT", timeout) :: crowded) thin := by
  have hline : Options.readWords overriding
      = .ok { given := [⟨.timeout, "5"⟩, ⟨.target, "/x"⟩], arguments := ["h"] } := by decide +kernel
  intro line hwords name hname hsilent
  obtain rfl := Except.ok.inj (hline.symm.trans hwords)
  simp only [Settings.names, List.mem_cons, List.not_mem_nil, or_false] at hname
  rcases hname with rfl | rfl | rfl | rfl | rfl
  · exact absurd (by decide) hsilent
  · simp [crowded, thin, Settings.variablePrefix, List.lookup_cons]
  · exact absurd (by decide) hsilent
  · simp [crowded, thin, Settings.variablePrefix, List.lookup_cons]
  · exact absurd (by decide) hsilent

theorem environment_overridden_crowded :
    Agree overriding (("STATUSPROBE_TIMEOUT", "off") :: crowded) thin ∧
    read (("STATUSPROBE_TIMEOUT", "off") :: crowded) overriding = read thin overriding ∧
    read thin overriding = .ok ⟨{
      host := "h", service := "8080", target := "/x", timeout := some (.ofDecimal false 5 0) },
      false⟩ := by
  refine ⟨agree_overriding "off", ?_, by decide +kernel⟩
  have hoff : presetTimeout (("STATUSPROBE_TIMEOUT", "off") :: crowded) = .ok none := by
    decide +kernel
  have husual : presetTimeout thin = .ok (some (.ofDecimal false 10 0)) := by decide +kernel
  refine (environment_overridden (agree_overriding "off")).2.1.2 fun why => ?_
  simp [faulty_iff, hoff, husual]

/-- A timeout of the environment that is none is refused though the words give another one. -/
theorem overridden_refused :
    Agree overriding (("STATUSPROBE_TIMEOUT", "abc") :: crowded) thin ∧
    (∃ i, read thin overriding = .ok i) ∧
    read (("STATUSPROBE_TIMEOUT", "abc") :: crowded) overriding
      = .error (.environment (.notNumber "abc")) := by
  have hthin : read thin overriding = .ok ⟨{
      host := "h", service := "8080", target := "/x", timeout := some (.ofDecimal false 5 0) },
      false⟩ := by decide +kernel
  exact ⟨agree_overriding "abc", ⟨_, hthin⟩, by decide +kernel⟩

end HttpProbe.Invocation
