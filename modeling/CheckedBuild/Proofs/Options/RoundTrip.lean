import CheckedBuild.Proofs.Instrumentation.Flags
import CheckedBuild.Proofs.Options.PassedTokens

/-!
# Normalized arguments

A resolved build can be written as a token list again: first its settings, then the tokens that
were passed on. Resolving that list gives the same build, whether the settings are those of the
command line or those that replace them on the host, and whatever the environment says by then;
only the debug level is taken from the environment.
-/

namespace CheckedBuild

open Instrumentation

namespace Setting

/-- No option that is a whole token begins like an option with a value. -/
theorem lookup_append (option value : String)
    (other : ∀ entry ∈ named, option.toList.isPrefixOf entry.1.toList = false) :
    named.lookup (option ++ value) = none := by
  rw [List.lookup_eq_none_iff]
  intro entry member
  have different : option ++ value ≠ entry.1 := by
    intro same
    have starts : option.toList.isPrefixOf entry.1.toList = true := by
      rw [← same, String.toList_append]
      exact List.isPrefixOf_iff_prefix.mpr (List.prefix_append _ _)
    rw [other entry member] at starts
    cases starts
  simpa using different

theorem valueOf?_append (option value : String) : valueOf? option (option ++ value) = some value := by
  simp [valueOf?, Text.after?, String.toList_append]

theorem ofToken?_suppressions (path : String) :
    ofToken? ("--suppressions=" ++ path) = some (.suppressions path) := by
  simp [ofToken?, lookup_append "--suppressions=" path (by decide), valueOf?_append]

theorem ofToken?_compiler (name : String) :
    ofToken? ("--c-compiler=" ++ name) = some (.compiler name) := by
  have other : valueOf? "--suppressions=" ("--c-compiler=" ++ name) = none := by
    simp [valueOf?, Text.after?, String.toList_append, List.isPrefixOf]
  simp [ofToken?, lookup_append "--c-compiler=" name (by decide), other, valueOf?_append]

end Setting

namespace Config

/-- The options that spell the settings of a build, each with what it sets. A setting that only
ever departs from its default in one direction is spelled when it does. -/
def spelling (config : Config) : List (String × Setting) :=
  [("--c-compiler=" ++ config.compiler, .compiler config.compiler)]
    ++ (match config.sanitizer with
        | .address => []
        | .memory => [("--memory", .sanitizer .memory)]
        | .valgrind => [("--valgrind", .sanitizer .valgrind)])
    ++ (if config.leakCheck then [("--leak-check", .leakCheck)] else [])
    ++ [("--suppressions=" ++ config.suppressions, .suppressions config.suppressions)]
    ++ (if config.useAfterReturn then [("--use-after-return", .useAfterReturn)] else [])
    ++ [(match config.interception with
         | .linked => "--wrap-main"
         | .renamed => "--ifdef-main"
         | .disabled => "--no-wrap-main", .interception config.interception)]
    ++ (match config.sharedRuntime with
        | .automatic => []
        | .on => [("--shared-libasan", .sharedRuntime .on)]
        | .off => [("--no-shared-libasan", .sharedRuntime .off)])
    ++ [(if config.embedSource then "--embed-source" else "--no-embed-source",
          .embedSource config.embedSource),
        (if config.explanations then "--explanations" else "--no-explanations",
          .explanations config.explanations),
        (if config.colorize then "-fcolor-diagnostics" else "-fno-color-diagnostics",
          .colorize config.colorize)]

theorem arguments_eq (config : Config) :
    config.arguments = config.spelling.map (·.1) ++ config.compilerArguments := by
  unfold arguments spelling
  cases config.sanitizer <;> cases config.leakCheck <;> cases config.useAfterReturn <;>
    cases config.sharedRuntime <;> rfl

theorem ofToken?_of_mem_spelling {config : Config} {entry : String × Setting}
    (member : entry ∈ config.spelling) : Setting.ofToken? entry.1 = some entry.2 := by
  simp only [spelling, List.mem_append, List.mem_cons, List.not_mem_nil, or_false] at member
  rcases member with ((((((rfl | h) | h) | rfl) | h) | rfl) | h) | rfl | rfl | rfl
  · exact Setting.ofToken?_compiler config.compiler
  · cases same : config.sanitizer <;> simp [same] at h <;> subst h <;> decide
  · cases same : config.leakCheck <;> simp [same] at h
    subst h
    decide
  · exact Setting.ofToken?_suppressions config.suppressions
  · cases same : config.useAfterReturn <;> simp [same] at h
    subst h
    decide
  · cases config.interception <;> decide
  · cases same : config.sharedRuntime <;> simp [same] at h <;> subst h <;> decide
  · cases config.embedSource <;> decide
  · cases config.explanations <;> decide
  · cases config.colorize <;> decide

/-- The spelled settings replace all defaults that an option can replace. -/
theorem foldl_spelling (config : Config) (environment : Environment) :
    (config.spelling.map (·.2)).foldl apply (default environment)
      = { config with
            debug := environment.debug
            maxExplanations := (default environment).maxExplanations }.withInputsOf
          (default environment) := by
  obtain ⟨_, sanitizer, leakCheck, _, useAfterReturn, _, _, sharedRuntime, _⟩ := config
  cases sanitizer <;> cases leakCheck <;> cases useAfterReturn <;> cases sharedRuntime <;> rfl

end Config

/-- Options of the driver are read off the front of a token list one after the other. -/
theorem resolveFrom_settings (exists? : String → Bool) (config : Config)
    (entries : List (String × Setting))
    (spelled : ∀ entry ∈ entries, Setting.ofToken? entry.1 = some entry.2) (rest : List String) :
    resolveFrom exists? config .free (entries.map (·.1) ++ rest)
      = resolveFrom exists? ((entries.map (·.2)).foldl Config.apply config) .free rest := by
  induction entries generalizing config with
  | nil => rfl
  | cons entry entries ih =>
    have first : Role.free.read entry.1 = .set entry.2 := by
      simp [Role.read, spelled entry List.mem_cons_self]
    simp only [List.map_cons, List.cons_append, resolveFrom, first, List.foldl_cons]
    exact ih _ fun entry member => spelled entry (List.mem_cons_of_mem _ member)

/-- The arguments of a build resolve to it again if its inputs are those of a resolved build. -/
theorem resolve_arguments_of_inputs {exists? : String → Bool} {environment : Environment}
    {tokens : List String} {read : Config}
    (h : resolve exists? environment tokens = .ok (.compile read)) (config : Config)
    (inputs : config.withInputsOf read = config)
    (limit : config.maxExplanations = read.maxExplanations) (later : Environment) :
    resolve exists? later config.arguments
      = .ok (.compile { config with debug := later.debug }) := by
  have reading : resolveFrom exists? (Config.default environment) .free tokens
      = .ok (.compile read) := by
    unfold resolve at h
    split_ifs at h
    exact h
  have passed : config.compilerArguments = passedFrom .free tokens := by
    rw [← inputs]
    exact compilerArguments_of_resolveFrom reading
  have sameLimit : config.maxExplanations = (Config.default later).maxExplanations :=
    limit.trans ((maxExplanations_of_resolveFrom reading).trans rfl)
  have nonempty : config.arguments ≠ [] := by simp [Config.arguments]
  have final : { config with debug := later.debug }.withInputsOf read
      = { config with debug := later.debug } := by
    rw [← inputs]
    rfl
  calc resolve exists? later config.arguments
      = resolveFrom exists? (Config.default later) .free config.arguments := if_neg nonempty
    -- no input has been read yet, so it does not matter whose default the inputs are taken from
    _ = resolveFrom exists?
          ({ config with debug := later.debug }.withInputsOf (Config.default environment)) .free
          (passedFrom .free tokens) := by
        rw [Config.arguments_eq,
          resolveFrom_settings exists? _ _ (fun _ => Config.ofToken?_of_mem_spelling),
          Config.foldl_spelling, ← sameLimit, ← passed]
        rfl
    _ = .ok (.compile { config with debug := later.debug }) := by
        rw [resolveFrom_passedFrom reading, final]

/-- Normalized arguments resolve to the build they came from, as resolved and as replaced on any
host that can carry it out, up to the debug level of the second environment; and they are the
normalized arguments of what they resolve to. -/
theorem resolve_arguments (exists? : String → Bool) (environment : Environment)
    (tokens : List String) (config : Config)
    (h : resolve exists? environment tokens = .ok (.compile config)) (later : Environment) :
    (resolve exists? later config.arguments
        = .ok (.compile { config with debug := later.debug })
      ∧ { config with debug := later.debug }.arguments = config.arguments)
    ∧ ∀ (host : Host) (after : Config), substitute config host = .ok after →
        resolve exists? later after.arguments
          = .ok (.compile { after with debug := later.debug })
        ∧ { after with debug := later.debug }.arguments = after.arguments := by
  refine ⟨⟨resolve_arguments_of_inputs h _ rfl rfl later, rfl⟩, ?_⟩
  intro host after replaced
  refine ⟨?_, rfl⟩
  rcases substitute_cases replaced with rfl | rfl
  · exact resolve_arguments_of_inputs h after rfl rfl later
  · exact resolve_arguments_of_inputs h { config with sanitizer := .valgrind } rfl rfl later

/-- Two values that look like options of the driver and a last option without its value, on a host
where another checker stands in. -/
theorem resolve_arguments_bound_values :
    let environment : Environment := ⟨0, false, "", "", "", ""⟩
    let later : Environment := ⟨2, true, "", "", "", ""⟩
    let tokens := ["-o", "--memory", "-u", "b.h", "a.c", "b.h", "-I", "--help", "--c-compiler=cc", "-I"]
    let config : Config :=
      { Config.default environment with
          compiler := "cc"
          sanitizer := .memory
          compilerArguments := ["-o", "--memory", "b.h", "a.c", "b.h", "-I", "--help", "-I"]
          sources := ["b.h", "a.c"]
          output := some "--memory" }
    let host : Host := ⟨.bits32, some "/usr/bin/valgrind", none⟩
    let after := { config with sanitizer := .valgrind }
    resolve (fun _ => false) environment tokens = .ok (.compile config)
      ∧ substitute config host = .ok after
      ∧ resolve (fun _ => false) later config.arguments
          = .ok (.compile { config with debug := 2 })
      ∧ resolve (fun _ => false) later after.arguments
          = .ok (.compile { after with debug := 2 }) := by
  intro environment later tokens config host after
  have resolved : resolve (fun _ => false) environment tokens = .ok (.compile config) := by
    rfl
  have replaced : substitute config host = .ok after := rfl
  have again := resolve_arguments (fun _ => false) environment tokens config resolved later
  exact ⟨resolved, replaced, again.1.1, (again.2 host after replaced).1⟩

end CheckedBuild
