import Mathlib.Tactic.SplitIfs
import CheckedBuild.Proofs.Options.PassedTokens

/-!
# What each token is

Whether a token is the value of the one before it depends on all tokens before it, and on nothing
else. Once that is settled, a build can be read off the token list without a running state: which
tokens reach the compiler, which option of the driver has the last word on each field, where the
output goes and what the inputs are. Nothing is said about readings that end in an error or at a
decisive token.
-/

namespace CheckedBuild

/-! ## Places of a token list -/

/-- Whether the token after this one may be its value. -/
def takesValue (token : String) : Bool := token = "-o" ∨ token ∈ optionsWithValue

/-- Whether the token at a place is a value: the one before it takes a value and is none itself. -/
def isValue (tokens : List String) : Nat → Bool
  | 0 => false
  | i + 1 => !isValue tokens i && tokens[i]?.any takesValue

/-- What the tokens before a place make of the token there. -/
def roleAt (tokens : List String) (i : Nat) : Role :=
  if isValue tokens i then
    if tokens[i - 1]? = some "-o" then .output else .value
  else .free

/-- The tokens with their roles. -/
def placed (tokens : List String) : List (Role × String) :=
  tokens.zipIdx.map fun (token, i) => (roleAt tokens i, token)

theorem isValue_append {before : List String} {i : Nat} (within : i ≤ before.length)
    (rest : List String) : isValue (before ++ rest) i = isValue before i := by
  induction i with
  | zero => rfl
  | succ i ih =>
    simp only [isValue, ih (Nat.le_of_succ_le within), List.getElem?_append_left within]

theorem roleAt_append {before : List String} {i : Nat} (within : i ≤ before.length)
    (rest : List String) : roleAt (before ++ rest) i = roleAt before i := by
  cases i with
  | zero => rfl
  | succ i =>
    simp only [roleAt, isValue_append within, Nat.add_sub_cancel,
      List.getElem?_append_left within]

theorem roleAt_concat (before : List String) (token : String) :
    roleAt (before ++ [token]) (before.length + 1)
      = (roleAt before before.length).next token := by
  have here : isValue (before ++ [token]) (before.length + 1)
      = (!isValue before before.length && takesValue token) := by
    simp [isValue, isValue_append]
  have last : (before ++ [token])[before.length + 1 - 1]? = some token := by simp
  unfold roleAt
  rw [here, last]
  cases bound : isValue before before.length with
  | true => split_ifs <;> simp_all [Role.next]
  | false => by_cases isOutput : token = "-o" <;> simp [isOutput, takesValue, Role.next]

theorem placed_concat (before : List String) (token : String) :
    placed (before ++ [token]) = placed before ++ [(roleAt before before.length, token)] := by
  have earlier : ∀ entry ∈ before.zipIdx,
      (roleAt (before ++ [token]) entry.2, entry.1) = (roleAt before entry.2, entry.1) := by
    intro entry member
    rw [roleAt_append (Nat.le_of_lt (List.snd_lt_of_mem_zipIdx member))]
  simp [placed, List.zipIdx_append, roleAt_append, List.map_congr_left earlier]

/-! ## What is read off the places -/

/-- The setting of a token that is an option of the driver: one that is read as such and is no
value. -/
def Role.setting? (role : Role) (token : String) : Option Setting :=
  if role = .free then Setting.ofToken? token else none

/-- The tokens whose role and text are as chosen, in order. -/
def tokensThat (choose : Role → String → Bool) (tokens : List String) : List String :=
  ((placed tokens).filter fun (role, token) => choose role token).map (·.2)

/-- What the options of the driver set, in order. -/
def settingsIn (tokens : List String) : List Setting :=
  (placed tokens).filterMap fun (role, token) => role.setting? token

/-- Whether a token names an input: it is no value, no option of the driver, and starts with no
dash. -/
def isInput (role : Role) (token : String) : Bool :=
  role = .free && (Setting.ofToken? token).isNone && !"-".toList.isPrefixOf token.toList

theorem tokensThat_concat (choose : Role → String → Bool) (before : List String)
    (token : String) :
    tokensThat choose (before ++ [token]) = tokensThat choose before
      ++ if choose (roleAt before before.length) token then [token] else [] := by
  unfold tokensThat
  rw [placed_concat]
  cases chosen : choose (roleAt before before.length) token <;> simp [chosen]

theorem settingsIn_concat (before : List String) (token : String) :
    settingsIn (before ++ [token])
      = settingsIn before ++ ((roleAt before before.length).setting? token).toList := by
  unfold settingsIn
  rw [placed_concat]
  cases set : (roleAt before before.length).setting? token <;> simp [set]

/-! ## Fields that an option can set -/

/-- The fields of a build that the options of the driver set, with the type of each. -/
inductive Field : Type → Type where
  | compiler : Field String
  | sanitizer : Field Sanitizer
  | leakCheck : Field Bool
  | suppressions : Field String
  | useAfterReturn : Field Bool
  | interception : Field Interception
  | embedSource : Field Bool
  | sharedRuntime : Field SharedRuntime
  | colorize : Field Bool
  | explanations : Field Bool

namespace Field

variable {α : Type}

def get : Field α → Config → α
  | compiler, config => config.compiler
  | sanitizer, config => config.sanitizer
  | leakCheck, config => config.leakCheck
  | suppressions, config => config.suppressions
  | useAfterReturn, config => config.useAfterReturn
  | interception, config => config.interception
  | embedSource, config => config.embedSource
  | sharedRuntime, config => config.sharedRuntime
  | colorize, config => config.colorize
  | explanations, config => config.explanations

/-- What a setting says about the field, if it is about this one. -/
def said? : Field α → Setting → Option α
  | compiler, .compiler name => some name
  | sanitizer, .sanitizer checker => some checker
  | leakCheck, .leakCheck => some true
  | suppressions, .suppressions path => some path
  | useAfterReturn, .useAfterReturn => some true
  | interception, .interception way => some way
  | embedSource, .embedSource on => some on
  | sharedRuntime, .sharedRuntime choice => some choice
  | colorize, .colorize on => some on
  | explanations, .explanations on => some on
  | _, _ => none

theorem get_apply (field : Field α) (config : Config) (setting : Setting) :
    field.get (config.apply setting) = (field.said? setting).getD (field.get config) := by
  cases field <;> cases setting <;> rfl

theorem get_withInputsOf (field : Field α) (settings inputs : Config) :
    field.get (settings.withInputsOf inputs) = field.get settings := by
  cases field <;> rfl

theorem get_pass (field : Field α) (config : Config) (role : Role) (token : String) :
    field.get (config.pass role token) = field.get config := by
  have same : config.pass role token = config.withInputsOf (config.pass role token) :=
    Config.pass_withInputsOf config config role token
  rw [same, get_withInputsOf]

/-- What the options say about the field, in order. -/
def saidIn (field : Field α) (tokens : List String) : List α :=
  (settingsIn tokens).filterMap field.said?

end Field

/-! ## The build of a token list -/

/-- The build that the tokens ask for, every part of it told by the tokens at their places. -/
structure Classified (environment : Environment) (tokens : List String) (config : Config) :
    Prop where
  /-- All tokens but the options of the driver are passed on, values whatever they look like. -/
  compilerArguments : config.compilerArguments
    = tokensThat (fun role token => (role.setting? token).isNone) tokens
  /-- The last option for a field has its way; without one the field keeps its default. -/
  field : ∀ {α : Type} (field : Field α), field.get config
    = (field.saidIn tokens).getLast?.getD (field.get (Config.default environment))
  /-- The last value of an `-o` that is no value itself. -/
  output : config.output = (tokensThat (fun role _ => role = .output) tokens).getLast?
  compileOnly : config.compileOnly = true
    ↔ "-c" ∈ tokensThat (fun role _ => role = .free) tokens
  /-- C sources and headers, each once, in order of first occurrence. -/
  sources : config.sources
    = ((tokensThat isInput tokens).filter (hasExtension ["c", "h"])).eraseDups
  otherInputs : config.otherInputs = true
    ↔ ∃ token ∈ tokensThat isInput tokens, hasExtension ["c", "h"] token = false

theorem addOnce_eraseDups (sources : List String) (source : String) :
    addOnce sources.eraseDups source = (sources ++ [source]).eraseDups := by
  rw [List.eraseDups_append]
  by_cases known : source ∈ sources
  · simp [addOnce, known, List.removeAll]
  · simp [addOnce, known, List.removeAll, List.eraseDups_cons]

/-- No option that takes a value is one of the driver. -/
theorem ofToken?_of_takesValue {token : String} (takes : takesValue token = true) :
    Setting.ofToken? token = none := by
  have options : ∀ option ∈ "-o" :: optionsWithValue, Setting.ofToken? option = none := by decide
  exact options token (by simpa [takesValue] using takes)

/-! ## One token more -/

/-- The setting that is made by a token that is read so. -/
def Reading.setting? : Reading → Option Setting
  | .set setting => some setting
  | _ => none

namespace Role

variable {role : Role} {token : String}

theorem setting?_eq_some_iff {setting : Setting} :
    role.setting? token = some setting ↔ role = .free ∧ Setting.ofToken? token = some setting := by
  simp [setting?]

/-- A token is read as an option of the driver exactly where it is one. -/
theorem setting?_read (role : Role) (token : String) :
    (role.read token).setting? = role.setting? token := by
  cases role with
  | output => rfl
  | value => rfl
  | free =>
    cases option : Setting.ofToken? token with
    | some setting => simp [setting?, read, option, Reading.setting?]
    | none =>
      cases decided : decisive? token <;> simp [setting?, read, option, decided, Reading.setting?]

theorem next_of_setting? {setting : Setting} (set : role.setting? token = some setting) :
    role.next token = role := by
  obtain ⟨rfl, option⟩ := setting?_eq_some_iff.mp set
  have binds : takesValue token ≠ true := by
    intro takes
    rw [ofToken?_of_takesValue takes] at option
    cases option
  simp_all [next, takesValue]

end Role

namespace Config

/-- An option of the driver says nothing about the inputs. -/
theorem inputs_apply (config : Config) (setting : Setting) :
    (config.apply setting).output = config.output
      ∧ (config.apply setting).compileOnly = config.compileOnly
      ∧ (config.apply setting).sources = config.sources
      ∧ (config.apply setting).otherInputs = config.otherInputs := by
  cases setting <;> exact ⟨rfl, rfl, rfl, rfl⟩

/-- What a token that is passed on says about the build, told by its role and its text. -/
theorem note_eq (config : Config) {role : Role} {token : String}
    (foreign : role.setting? token = none) :
    config.note role token =
      { config with
        output := if role = .output then some token else config.output
        compileOnly := config.compileOnly || role = .free && token = "-c"
        sources :=
          if isInput role token && hasExtension ["c", "h"] token then
            addOnce config.sources token
          else config.sources
        otherInputs :=
          config.otherInputs || isInput role token && !hasExtension ["c", "h"] token } := by
  cases role with
  | output => simp [note, isInput]
  | value => simp [note, isInput]
  | free =>
    -- the options that are looked for before the dash all start with it
    have dashed : ∀ option ∈ "-o" :: "-c" :: optionsWithValue,
        "-".toList.isPrefixOf option.toList = true := by decide
    by_cases starts : "-".toList.isPrefixOf token.toList = true
    · have noInput : isInput .free token = false := by
        simp only [isInput, starts, Bool.not_true, Bool.and_false]
      simp only [note, noInput, starts]
      split_ifs <;> simp_all
    · have other : token ≠ "-o" ∧ token ≠ "-c" ∧ token ∉ optionsWithValue := by
        refine ⟨?_, ?_, ?_⟩ <;> intro same <;> exact starts (dashed token (by simp [same]))
      have option : Setting.ofToken? token = none := by simpa [Role.setting?] using foreign
      have input : isInput .free token = true := by
        simp only [isInput, option, starts, decide_true, Option.isNone_none, Bool.not_false,
          Bool.and_true]
      simp only [note, input, other, starts]
      split_ifs <;> simp_all

end Config

theorem Field.saidIn_concat {α : Type} (field : Field α) (before : List String) (token : String) :
    field.saidIn (before ++ [token])
      = field.saidIn before
        ++ (((roleAt before before.length).setting? token).bind field.said?).toList := by
  unfold saidIn
  rw [settingsIn_concat, List.filterMap_append]
  cases (roleAt before before.length).setting? token with
  | none => rfl
  | some setting => cases said : field.said? setting <;> simp [said]

namespace Classified

variable {environment : Environment} {before : List String} {config : Config}

theorem nil (environment : Environment) :
    Classified environment [] (Config.default environment) where
  compilerArguments := rfl
  field _ := rfl
  output := rfl
  compileOnly := by simp [Config.default, tokensThat, placed]
  sources := rfl
  otherInputs := by simp [Config.default, tokensThat, placed]

/-- An option of the driver adds to what is said about its field and to nothing else. -/
theorem apply (classified : Classified environment before config) {token : String}
    {setting : Setting} (reading : (roleAt before before.length).read token = .set setting) :
    Classified environment (before ++ [token]) (config.apply setting) := by
  have set : (roleAt before before.length).setting? token = some setting := by
    rw [← Role.setting?_read, reading]
    rfl
  obtain ⟨isFree, option⟩ := Role.setting?_eq_some_iff.mp set
  have noInput : isInput .free token = false := by simp [isInput, option]
  have notCompileOnly : "-c" ≠ token := by
    rintro rfl
    have foreign : Setting.ofToken? "-c" = none := by decide
    rw [foreign] at option
    cases option
  obtain ⟨output, compileOnly, sources, otherInputs⟩ := config.inputs_apply setting
  constructor
  case compilerArguments =>
    rw [tokensThat_concat, set, Config.compilerArguments_apply, classified.compilerArguments]
    simp
  case field =>
    intro α field
    rw [field.get_apply, field.saidIn_concat, set, classified.field]
    cases said : field.said? setting <;> simp [said]
  case output =>
    rw [output, classified.output, tokensThat_concat, isFree]
    simp
  case compileOnly =>
    rw [compileOnly, classified.compileOnly, tokensThat_concat, isFree]
    simp [notCompileOnly]
  case sources =>
    rw [sources, classified.sources, tokensThat_concat, isFree, noInput]
    simp
  case otherInputs =>
    rw [otherInputs, classified.otherInputs, tokensThat_concat, isFree, noInput]
    simp

/-- A token that is passed on says nothing about a field that an option sets. -/
theorem pass (classified : Classified environment before config) {token : String}
    (reading : (roleAt before before.length).read token = .pass) :
    Classified environment (before ++ [token])
      (config.pass (roleAt before before.length) token) := by
  have foreign : (roleAt before before.length).setting? token = none := by
    rw [← Role.setting?_read, reading]
    rfl
  have passed := config.note_eq foreign
  constructor
  case compilerArguments =>
    rw [tokensThat_concat, foreign, Config.pass, classified.compilerArguments]
    simp
  case field =>
    intro α field
    rw [field.get_pass, field.saidIn_concat, foreign, classified.field]
    simp
  case output =>
    rw [tokensThat_concat, Config.pass, passed, classified.output]
    by_cases bound : roleAt before before.length = .output <;> simp [bound]
  case compileOnly =>
    rw [tokensThat_concat, Config.pass, passed]
    by_cases isFree : roleAt before before.length = .free
    · simp [isFree, classified.compileOnly, @eq_comm _ "-c"]
    · simp [isFree, classified.compileOnly]
  case sources =>
    rw [tokensThat_concat, Config.pass, passed, classified.sources]
    cases input : isInput (roleAt before before.length) token with
    | false => simp
    | true =>
      cases source : hasExtension ["c", "h"] token <;> simp [source, addOnce_eraseDups]
  case otherInputs =>
    rw [tokensThat_concat, Config.pass, passed]
    cases input : isInput (roleAt before before.length) token with
    | false => simp [classified.otherInputs]
    | true => simp [classified.otherInputs, or_and_right, exists_or]

/-- What holds of the tokens read so far holds of all of them once the rest is read. -/
theorem of_resolveFrom {exists? : String → Bool} {rest : List String} {final : Config}
    (classified : Classified environment before config)
    (h : resolveFrom exists? config (roleAt before before.length) rest
      = .ok (.compile final)) :
    Classified environment (before ++ rest) final := by
  induction rest generalizing before config with
  | nil =>
    cases h
    simpa using classified
  | cons token rest ih =>
    rw [List.append_cons]
    have next : roleAt (before ++ [token]) (before ++ [token]).length
        = (roleAt before before.length).next token := by
      rw [List.length_append]
      exact roleAt_concat before token
    rcases resolveFrom_cons h with ⟨setting, reading, tail⟩ | ⟨reading, -, tail⟩
    · -- an option of the driver takes no value, so the next token is as free as it was
      have same : (roleAt before before.length).next token = roleAt before before.length :=
        Role.next_of_setting? (by rw [← Role.setting?_read, reading, Reading.setting?])
      exact ih (classified.apply reading) (by rw [next, same]; exact tail)
    · exact ih (classified.pass reading) (by rw [next]; exact tail)

end Classified

/-- A build that the tokens resolve to is the one that they classify: the options of the driver are
consumed, all else is passed on, and every field, the output and the inputs are what the tokens at
their places say. -/
theorem classified_of_resolve {exists? : String → Bool} {environment : Environment}
    {tokens : List String} {config : Config}
    (h : resolve exists? environment tokens = .ok (.compile config)) :
    Classified environment tokens config := by
  unfold resolve at h
  split_ifs at h
  exact (Classified.nil environment).of_resolveFrom h

/-- Values that look like options and options that look like values, two outputs, a repeated source
and a last option without its value. -/
theorem classified_of_mixed_tokens :
    let environment : Environment := ⟨0, false, "", "", "", ""⟩
    let tokens := ["-o", "-o", "a.c", "--valgrind", "-o", "--memory", "-D", "-c", "-u", "b.H",
      "a.c", "x.o", "-I", "--no-embed-source", "--c-compiler=cc", "-I"]
    let config : Config :=
      { Config.default environment with
          compiler := "cc"
          sanitizer := .memory
          compilerArguments := ["-o", "-o", "a.c", "-o", "--memory", "-D", "-c", "b.H", "a.c",
            "x.o", "-I", "--no-embed-source", "-I"]
          sources := ["a.c", "b.H"]
          otherInputs := true
          output := some "--memory" }
    resolve (fun _ => false) environment tokens = .ok (.compile config)
      ∧ Classified environment tokens config := by
  intro environment tokens config
  have resolved : resolve (fun _ => false) environment tokens = .ok (.compile config) := by rfl
  exact ⟨resolved, classified_of_resolve resolved⟩

end CheckedBuild
