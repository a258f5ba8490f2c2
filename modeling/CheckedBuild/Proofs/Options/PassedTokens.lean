import Mathlib.Tactic.SplitIfs
import CheckedBuild.Options.Resolution

/-!
# Tokens that are passed on

A successful reading of the tokens passes on those that are no option of the driver, and what it
learns about the inputs depends on these alone. Reading them a second time therefore takes the
same turns, whatever the settings are by then. Nothing is said about readings that end in an error
or at a decisive token.
-/

namespace CheckedBuild

/-- The tokens that are passed on, the first of all being read in the given role. -/
def passedFrom (role : Role) : List String → List String
  | [] => []
  | token :: rest =>
    match role.read token with
    | .pass => token :: passedFrom (role.next token) rest
    | _ => passedFrom role rest

/-- The settings of one configuration with what another one has read from its arguments. -/
def Config.withInputsOf (settings inputs : Config) : Config :=
  { settings with
    compilerArguments := inputs.compilerArguments
    sources := inputs.sources
    compileOnly := inputs.compileOnly
    otherInputs := inputs.otherInputs
    output := inputs.output }

namespace Config

theorem withInputsOf_apply (settings inputs : Config) (setting : Setting) :
    settings.withInputsOf (inputs.apply setting) = settings.withInputsOf inputs := by
  cases setting <;> rfl

theorem note_withInputsOf (settings inputs : Config) (role : Role) (token : String) :
    (settings.withInputsOf inputs).note role token
      = settings.withInputsOf (inputs.note role token) := by
  cases role with
  | output => rfl
  | value => rfl
  | free =>
    simp only [note]
    split_ifs <;> rfl

theorem pass_withInputsOf (settings inputs : Config) (role : Role) (token : String) :
    (settings.withInputsOf inputs).pass role token
      = settings.withInputsOf (inputs.pass role token) := by
  simp only [pass, note_withInputsOf]
  rfl

theorem compilerArguments_apply (config : Config) (setting : Setting) :
    (config.apply setting).compilerArguments = config.compilerArguments := by
  cases setting <;> rfl

theorem maxExplanations_apply (config : Config) (setting : Setting) :
    (config.apply setting).maxExplanations = config.maxExplanations := by
  cases setting <;> rfl

theorem maxExplanations_pass (config : Config) (role : Role) (token : String) :
    (config.pass role token).maxExplanations = config.maxExplanations := by
  cases role with
  | output => rfl
  | value => rfl
  | free =>
    simp only [pass, note]
    split_ifs <;> rfl

end Config

theorem Role.read_of_ne_free {role : Role} (bound : role ≠ .free) (token : String) :
    role.read token = .pass := by
  cases role with
  | free => exact absurd rfl bound
  | output => rfl
  | value => rfl

/-- A decisive token asks for a version, for help or for watching, never for a build. -/
theorem Role.read_ne_compile {role : Role} {token : String} {config : Config} :
    role.read token ≠ .decide (.compile config) := by
  intro reading
  cases role with
  | output => cases reading
  | value => cases reading
  | free =>
    simp only [read] at reading
    split at reading
    · cases reading
    · next decided =>
      cases reading
      unfold decisive? at decided
      split at decided <;> cases decided
    · cases reading

/-- The value of an option is always passed on, so it stays right behind its option. -/
theorem head?_passedFrom {role : Role} (bound : role ≠ .free) (tokens : List String) :
    (passedFrom role tokens).head? = tokens.head? := by
  cases tokens with
  | nil => rfl
  | cons token rest => simp [passedFrom, Role.read_of_ne_free bound]

/-- Looking ahead from a token that is passed on sees the same target among the tokens that are
passed on: what follows `-o` is always one of them. -/
theorem overwritten?_passedFrom (exists? : String → Bool) (role : Role) (token : String)
    (rest : List String) :
    role.overwritten? exists? token (passedFrom (role.next token) rest).head?
      = role.overwritten? exists? token rest.head? := by
  unfold Role.overwritten?
  by_cases opens : role = .free ∧ token = "-o"
  · obtain ⟨rfl, rfl⟩ := opens
    rw [head?_passedFrom (by simp [Role.next])]
  · simp only [if_neg opens]

/-- One token of a reading that ends in a build: it is a setting, or it is passed on and
overwrites nothing. -/
theorem resolveFrom_cons {exists? : String → Bool} {config : Config} {role : Role}
    {token : String} {rest : List String} {final : Config}
    (h : resolveFrom exists? config role (token :: rest) = .ok (.compile final)) :
    (∃ setting, role.read token = .set setting
      ∧ resolveFrom exists? (config.apply setting) role rest = .ok (.compile final))
    ∨ (role.read token = .pass ∧ role.overwritten? exists? token rest.head? = none
      ∧ resolveFrom exists? (config.pass role token) (role.next token) rest
        = .ok (.compile final)) := by
  rw [resolveFrom] at h
  cases reading : role.read token with
  | set setting =>
    rw [reading] at h
    exact Or.inl ⟨setting, rfl, h⟩
  | decide resolution =>
    rw [reading] at h
    simp only [Except.ok.injEq] at h
    subst h
    exact absurd reading Role.read_ne_compile
  | pass =>
    rw [reading] at h
    cases overwriting : role.overwritten? exists? token rest.head? with
    | some target => simp [overwriting] at h
    | none => exact Or.inr ⟨rfl, rfl, by simpa [overwriting] using h⟩

theorem compilerArguments_of_resolveFrom {exists? : String → Bool} {config : Config} {role : Role}
    {tokens : List String} {final : Config}
    (h : resolveFrom exists? config role tokens = .ok (.compile final)) :
    final.compilerArguments = config.compilerArguments ++ passedFrom role tokens := by
  induction tokens generalizing config role with
  | nil =>
    cases h
    simp [passedFrom]
  | cons token rest ih =>
    rcases resolveFrom_cons h with ⟨setting, reading, tail⟩ | ⟨reading, -, tail⟩
    · rw [ih tail, Config.compilerArguments_apply]
      simp [passedFrom, reading]
    · rw [ih tail]
      simp [passedFrom, reading, Config.pass]

theorem maxExplanations_of_resolveFrom {exists? : String → Bool} {config : Config} {role : Role}
    {tokens : List String} {final : Config}
    (h : resolveFrom exists? config role tokens = .ok (.compile final)) :
    final.maxExplanations = config.maxExplanations := by
  induction tokens generalizing config role with
  | nil => cases h; rfl
  | cons token rest ih =>
    rcases resolveFrom_cons h with ⟨setting, -, tail⟩ | ⟨-, -, tail⟩
    · rw [ih tail, Config.maxExplanations_apply]
    · rw [ih tail, Config.maxExplanations_pass]

/-- Reading only the tokens that were passed on leads to the same inputs and keeps the settings. -/
theorem resolveFrom_passedFrom {exists? : String → Bool} {config : Config} {role : Role}
    {tokens : List String} {final : Config}
    (h : resolveFrom exists? config role tokens = .ok (.compile final)) (settings : Config) :
    resolveFrom exists? (settings.withInputsOf config) role (passedFrom role tokens)
      = .ok (.compile (settings.withInputsOf final)) := by
  induction tokens generalizing config role with
  | nil => cases h; rfl
  | cons token rest ih =>
    rcases resolveFrom_cons h with ⟨setting, reading, tail⟩ | ⟨reading, keeps, tail⟩
    · rw [← Config.withInputsOf_apply settings config setting]
      simpa only [passedFrom, reading] using ih tail
    · simp only [passedFrom, reading, resolveFrom, overwritten?_passedFrom, keeps,
        Config.pass_withInputsOf]
      exact ih tail

end CheckedBuild
