import CheckedBuild.Proofs.Build.Advisory
import CheckedBuild.Proofs.Build.Commands

/-!
# Arguments of the commands of a build

The arguments that are passed on keep their roles in every command of a build, except where the
second of two instrumented compiles leaves some out. Flags that check for undefined behaviour are
left out there also where they are values of other arguments, so that the rest are read otherwise:
another argument may become a target, and the last one may wait for a value.
-/

namespace CheckedBuild

open Program Instrumentation Build

/-- The arguments without the flags that check for undefined behaviour, whatever role those have. -/
def withoutUndefined (arguments : List String) : List String :=
  arguments.filter fun argument => !undefinedFlags.contains argument

/-- No flag that checks for undefined behaviour is the value of another argument. -/
def UnboundFlags (arguments : List String) : Prop :=
  ∀ entry ∈ placed arguments, entry.2 ∈ undefinedFlags → entry.1 = .free

section

variable {exists? : String → Bool}

theorem namesSource_of_other {token : String} (other : hasExtension ["c"] token = false) :
    namesSource exists? token = false := by
  rw [namesSource, other, Bool.false_and]

/-! ## Roles in the commands -/

theorem arguments_primaryCommand (config : Config) (toolchain : Toolchain) :
    ∃ flags, Bare flags ∧ (primaryCommand config (plan config toolchain)).arguments
      = config.compilerArguments ++ marker ++ flags :=
  ⟨_, bare_plan config toolchain, by simp [primaryCommand]⟩

theorem arguments_compileAgain (config : Config) (toolchain : Toolchain) :
    ∃ flags, Bare flags
      ∧ ((primaryCommand config (plan config toolchain)).without undefinedFlags).arguments
        = withoutUndefined config.compilerArguments ++ marker ++ flags := by
  obtain ⟨flags, bare, whole⟩ := arguments_primaryCommand config toolchain
  have marked : withoutUndefined marker = marker := by decide
  refine ⟨withoutUndefined flags, fun flag member => bare flag (List.mem_filter.mp member).1, ?_⟩
  rw [Command.without]
  simp only [whole, List.filter_append]
  exact congrArg (withoutUndefined config.compilerArguments ++ · ++ withoutUndefined flags) marked

/-- Arguments overwrite nothing more in front of the marker and of flags. -/
theorem overwrites_append_marker {flags : List String} (bare : Bare flags)
    (arguments : List String) :
    Overwrites exists? (arguments ++ marker ++ flags) ↔ Overwrites exists? arguments := by
  have bare' : Bare ("-x" :: "c" :: "-" :: flags) := by
    have marker : Bare ["-x", "c", "-"] := by decide
    exact List.forall_mem_append.mpr ⟨marker, bare⟩
  rw [List.append_assoc]
  refine overwrites_append (fun role target among => ?_) arguments
  rw [bare'.eq_of_target among]
  exact namesSource_of_other (by decide)

/-- The cross-check throws its output away, whatever its first flag is read as. -/
theorem overwrites_append_crossCheckFlags (arguments : List String) :
    Overwrites exists? (arguments ++ crossCheckFlags) ↔ Overwrites exists? arguments := by
  refine overwrites_append (fun role target among => namesSource_of_other ?_) arguments
  have targets : ∀ entry ∈ placedFrom role crossCheckFlags,
      entry.1 = .output → hasExtension ["c"] entry.2 = false := by
    cases role <;> decide +kernel
  exact targets (.output, target) among rfl

theorem not_overwrites_bare {arguments : List String} (bare : Bare arguments) :
    ¬ Overwrites exists? arguments := by
  have same : Overwrites exists? (arguments ++ []) ↔ Overwrites exists? [] :=
    overwrites_bare_append bare []
  rw [List.append_nil] at same
  rw [same]
  rintro ⟨target, among, -⟩
  cases among

theorem bare_explainCommand (path : String) (config : Config) :
    Bare (explainCommand path config).arguments := by
  have bound : takesValue ("--max-explanations=" ++ toString config.maxExplanations) = false :=
    takesValue_of_isPrefixOf "--max-explanations=".toList (by decide) (by simp)
  have colour : ∀ on : Bool,
      takesValue (if on = true then "--colorize" else "--no-colorize") = false := by decide
  intro argument member
  simp only [explainCommand, List.mem_cons, List.not_mem_nil, or_false] at member
  rcases member with rfl | rfl
  · exact bound
  · exact colour config.colorize

/-! ## Flags left out -/

/-- If no such flag is a value, leaving them out takes nothing from the other arguments. -/
theorem placed_withoutUndefined {arguments : List String} (unbound : UnboundFlags arguments) :
    placed (withoutUndefined arguments)
        = (placed arguments).filter (fun entry => !undefinedFlags.contains entry.2)
      ∧ (Dangling (withoutUndefined arguments) ↔ Dangling arguments) := by
  have bare : ∀ token, (!undefinedFlags.contains token) = false → takesValue token = false :=
    fun token flag => bare_undefinedFlags token (by simpa using flag)
  rw [UnboundFlags, placed_eq_placedFrom] at unbound
  obtain ⟨places, after⟩ := placedFrom_filter bare fun entry member flag =>
    unbound entry member (by simpa using flag)
  rw [placed_eq_placedFrom, placed_eq_placedFrom]
  refine ⟨places, ?_⟩
  rw [← not_iff_not, ← roleAfter_eq_free_iff, ← roleAfter_eq_free_iff, withoutUndefined, after]

theorem not_overwrites_withoutUndefined {arguments : List String} (unbound : UnboundFlags arguments)
    (harmless : ¬ Overwrites exists? arguments) :
    ¬ Overwrites exists? (withoutUndefined arguments) := by
  rintro ⟨target, among, source⟩
  refine harmless ⟨target, ?_, source⟩
  rw [mem_targetsIn, ← placed_eq_placedFrom] at among ⊢
  rw [(placed_withoutUndefined unbound).1] at among
  exact (List.mem_filter.mp among).1

end

/-! ## The commands of a run -/

theorem compilerArguments_of_substitute {job : Job} {config : Config}
    (settled : substitute job.config job.host = .ok config) :
    config.compilerArguments = job.config.compilerArguments :=
  eq_of_substitute settled Config.compilerArguments fun _ => rfl

/-- A command that overwrites a source which the arguments do not overwrite is that of a second
instrumented compile. -/
theorem Build.Issued.again_of_overwrites {exists? : String → Bool} {job : Job}
    {compiles : List Command} {command : Command} (issued : Issued job compiles command)
    (harmless : ¬ Overwrites exists? job.config.compilerArguments)
    (overwrites : Overwrites exists? command.arguments) : ∃ first, compiles = [first, command] := by
  cases issued with
  | banner program =>
    have bare : Bare ["--version"] := by decide
    exact absurd overwrites (not_overwrites_bare bare)
  | explain path config => exact absurd overwrites (not_overwrites_bare (bare_explainCommand _ _))
  | @onlyCompile config toolchain settled =>
    have bare : Bare ((plan config toolchain).sanitizerFlags
        ++ (plan config toolchain).styleFlags) :=
      fun flag member => bare_plan config toolchain flag (List.mem_append_left _ member)
    rw [compileCommand, overwrites_bare_append bare, compilerArguments_of_substitute settled]
      at overwrites
    exact absurd overwrites harmless
  | @compile config toolchain settled =>
    obtain ⟨flags, bare, whole⟩ := arguments_primaryCommand config toolchain
    rw [whole, overwrites_append_marker bare, compilerArguments_of_substitute settled] at overwrites
    exact absurd overwrites harmless
  | compileAgain settled twice => exact ⟨_, twice⟩
  | crossCheck settled =>
    rw [crossCheckCommand, overwrites_append_crossCheckFlags,
      compilerArguments_of_substitute settled] at overwrites
    exact absurd overwrites harmless

theorem Build.Commands.arguments {job : Job} {runs : List Run} (commands : Commands job runs)
    {first : Command} {rest : List Command} (compiled : compileCommandsIn runs = first :: rest) :
    (∃ flags, Bare flags ∧ first.arguments = job.config.compilerArguments ++ marker ++ flags)
      ∧ rest.length ≤ 1 ∧ ∀ again ∈ rest, ∃ flags, Bare flags
        ∧ again.arguments = withoutUndefined job.config.compilerArguments ++ marker ++ flags := by
  rcases commands.compiled with none | ⟨config, toolchain, settled, once | twice⟩
  · rw [none] at compiled
    cases compiled
  · rw [once] at compiled
    obtain ⟨rfl, rfl⟩ := List.cons.inj compiled
    rw [← compilerArguments_of_substitute settled]
    exact ⟨arguments_primaryCommand config toolchain, Nat.zero_le _, by simp⟩
  · rw [twice] at compiled
    obtain ⟨rfl, rfl⟩ := List.cons.inj compiled
    rw [← compilerArguments_of_substitute settled]
    exact ⟨arguments_primaryCommand config toolchain, Nat.le_refl 1,
      List.forall_mem_singleton.mpr (arguments_compileAgain config toolchain)⟩

/-! ## An example -/

/-- What is said when the checks for undefined behaviour cannot be linked. -/
def unlinkedOutput : Output := ⟨"undefined reference to `__ubsan_handle", 1⟩

/-- A compiler of some version that cannot link the checks. -/
def unlinkedAnswers : List (Except String Output) :=
  [.ok ⟨"clang version 14.0.6", 0⟩, .ok unlinkedOutput]

/-- The example with the inputs of another configuration. -/
def exampleJobOf (inputs : Config) : Job :=
  { exampleJob false with config := (exampleJob false).config.withInputsOf inputs }

theorem exists_runs_compile (job : Job) (config : Config) (command : Command) (source : String) :
    ∃ after, ((compile job config command source).execute (answering .empty)
        [.ok unlinkedOutput]).runs
      = .captured command (some source) (.ok unlinkedOutput)
        :: .captured (command.without undefinedFlags) (some source) (.ok ⟨"", 0⟩) :: after :=
  ⟨_, rfl⟩

/-- In the example the wrapper is compiled twice, the second time without the checks. -/
theorem exists_runs_exampleJobOf {inputs : Config}
    (links : (exampleJobOf inputs).config.compileOnly = false) :
    ∃ before command source after, marker <:+: command.arguments
      ∧ ((carryOut (exampleJobOf inputs)).execute (answering .empty) unlinkedAnswers).runs
        = before ++ .captured command (some source) (.ok unlinkedOutput)
          :: .captured (command.without undefinedFlags) (some source) (.ok ⟨"", 0⟩) :: after := by
  obtain ⟨probes, probed⟩ := exists_execute_toolchain
  obtain ⟨source, made⟩ : ∃ source, wrapper (exampleJobOf inputs) (exampleJobOf inputs).config
      exampleToolchain = pure (.ok source) :=
    exists_wrapper_eq rfl exampleToolchain
  have goesOn := withToolchain_eq rfl links (show ¬ 1 < 0 by decide) made
  have marked := marked_primaryCommand (exampleJobOf inputs).config
    (plan (exampleJobOf inputs).config exampleToolchain)
  generalize primaryCommand (exampleJobOf inputs).config
    (plan (exampleJobOf inputs).config exampleToolchain) = command at goesOn marked
  obtain ⟨after, compiles⟩ :=
    exists_runs_compile (exampleJobOf inputs) (exampleJobOf inputs).config command source
  have settled : (substituted (exampleJobOf inputs).config (exampleJobOf inputs).host).execute
      (answering .empty) unlinkedAnswers
        = ⟨.ok (exampleJobOf inputs).config, [], unlinkedAnswers⟩ := rfl
  refine ⟨runsIn probes, command, source, after, marked, ?_⟩
  rw [← compiles, Execution.runs, execute_carryOut settled (probed [.ok unlinkedOutput]), goesOn,
    execute_bind]
  simp only [runsIn_append]
  rfl

/-- The example compiles a second time if the checks cannot be linked. -/
theorem exists_compileCommandsIn_exampleJobOf {inputs : Config}
    (links : (exampleJobOf inputs).config.compileOnly = false) :
    ∃ first again, compileCommandsIn ((carryOut (exampleJobOf inputs)).execute (answering .empty)
      unlinkedAnswers).runs = [first, again] := by
  obtain ⟨before, command, source, after, marked, runs⟩ := exists_runs_exampleJobOf links
  have commands : Commands (exampleJobOf inputs)
      ((carryOut (exampleJobOf inputs)).execute (answering .empty) unlinkedAnswers).runs :=
    .of_carryOut (yields_execute (answering .empty) unlinkedAnswers
      (carryOut (exampleJobOf inputs)))
  refine commands.eq_pair ?_
  rw [runs, compileCommandsIn_append, compileCommandsIn_cons marked,
    compileCommandsIn_cons (marked_without marked)]
  simp only [List.length_append, List.length_cons]
  omega

/-! ## Overwritten sources -/

/-- No command of a build overwrites a source, but for the second of two instrumented compiles. That
one does if the arguments do once the flags are left out, and they do not if no flag is a value. -/
theorem overwrites_execute {σ : Type} {job : Job} (world : World σ) (state : σ)
    {exists? : String → Bool} {environment : Environment} {tokens : List String}
    (resolved : resolve exists? environment tokens = .ok (.compile job.config)) :
    let runs := ((carryOut job).execute world state).runs
    let arguments := job.config.compilerArguments
    (∀ run ∈ runs, Overwrites exists? run.command.arguments →
        ∃ first, compileCommandsIn runs = [first, run.command])
      ∧ (∀ first again, compileCommandsIn runs = [first, again] →
        (Overwrites exists? again.arguments ↔ Overwrites exists? (withoutUndefined arguments)))
      ∧ (UnboundFlags arguments → ∀ run ∈ runs, ¬ Overwrites exists? run.command.arguments) := by
  intro runs arguments
  have commands : Commands job runs := .of_carryOut (yields_execute world state (carryOut job))
  have harmless : ¬ Overwrites exists? arguments := not_overwrites_of_resolve resolved
  have once : ∀ run ∈ runs, Overwrites exists? run.command.arguments →
      ∃ first, compileCommandsIn runs = [first, run.command] :=
    fun run member => (commands.issued run member).again_of_overwrites harmless
  have again : ∀ first again, compileCommandsIn runs = [first, again] →
      (Overwrites exists? again.arguments ↔ Overwrites exists? (withoutUndefined arguments)) := by
    intro first again compiled
    obtain ⟨-, -, rest⟩ := commands.arguments compiled
    obtain ⟨flags, bare, whole⟩ := rest again List.mem_cons_self
    rw [whole, overwrites_append_marker bare]
  refine ⟨once, again, fun unbound run member overwrites => ?_⟩
  obtain ⟨first, compiled⟩ := once run member overwrites
  exact not_overwrites_withoutUndefined unbound harmless ((again first _ compiled).mp overwrites)

/-- A flag as the target of `-o`: when it is left out, the source behind it becomes the target. -/
theorem overwrites_execute_of_flag_as_target :
    let exists? (path : String) : Bool := path == "a.c"
    let tokens := ["--no-embed-source", "-o", "-fsanitize=undefined", "a.c"]
    let job := exampleJobOf
      { Config.default ⟨0, false, "", "", "", ""⟩ with
          compilerArguments := ["-o", "-fsanitize=undefined", "a.c"], sources := ["a.c"]
          output := some "-fsanitize=undefined" }
    let runs := ((carryOut job).execute (answering .empty) unlinkedAnswers).runs
    resolve exists? ⟨0, false, "", "", "", ""⟩ tokens = .ok (.compile job.config)
      ∧ ∃ first again, compileCommandsIn runs = [first, again]
        ∧ Overwrites exists? again.arguments := by
  intro exists? tokens job runs
  have resolved : resolve exists? ⟨0, false, "", "", "", ""⟩ tokens
      = .ok (.compile job.config) := by rfl
  obtain ⟨first, again, compiled⟩ : ∃ first again, compileCommandsIn runs = [first, again] :=
    exists_compileCommandsIn_exampleJobOf rfl
  have target : Overwrites exists? (withoutUndefined job.config.compilerArguments) :=
    ⟨"a.c", by decide, by decide⟩
  exact ⟨resolved, first, again, compiled,
    ((overwrites_execute (answering .empty) unlinkedAnswers resolved).2.1 first again compiled).mpr
      target⟩

/-! ## The marker -/

/-- In every instrumented compile the marker comes behind the arguments, and it is taken for a value
just if the last of them waits for one: if the last token of the command line does, or, in a second
compile, the last argument once the flags are left out. That is the same if no flag is a value. -/
theorem isValue_marker_execute {σ : Type} {job : Job} (world : World σ) (state : σ)
    {exists? : String → Bool} {environment : Environment} {tokens : List String}
    (resolved : resolve exists? environment tokens = .ok (.compile job.config)) :
    let compiles := compileCommandsIn ((carryOut job).execute world state).runs
    let arguments := job.config.compilerArguments
    let fewer := withoutUndefined arguments
    (∀ first rest, compiles = first :: rest →
        (∃ flags, first.arguments = arguments ++ marker ++ flags
          ∧ (isValue first.arguments arguments.length = true ↔ Dangling tokens))
        ∧ rest.length ≤ 1 ∧ ∀ again ∈ rest, ∃ flags, again.arguments = fewer ++ marker ++ flags
          ∧ (isValue again.arguments fewer.length = true ↔ Dangling fewer))
      ∧ (UnboundFlags arguments → (Dangling fewer ↔ Dangling tokens)) := by
  intro compiles arguments fewer
  have commands : Commands job ((carryOut job).execute world state).runs :=
    .of_carryOut (yields_execute world state (carryOut job))
  have same : Dangling arguments ↔ Dangling tokens := dangling_iff_of_resolve resolved
  refine ⟨fun first rest compiled => ?_, fun unbound => ?_⟩
  · obtain ⟨⟨flags, -, whole⟩, atMost, others⟩ := commands.arguments compiled
    refine ⟨⟨flags, whole, ?_⟩, atMost, fun again member => ?_⟩
    · rw [whole, List.append_assoc, isValue_append_iff, same]
    · obtain ⟨flags, -, whole⟩ := others again member
      refine ⟨flags, whole, ?_⟩
      rw [whole, List.append_assoc, isValue_append_iff]
  · exact (placed_withoutUndefined unbound).2.trans same

/-- A flag as the value of the last option: when it is left out, the option takes the marker. -/
theorem isValue_marker_execute_of_flag_as_value :
    let tokens := ["--no-embed-source", "a.c", "-I", "-fsanitize=undefined"]
    let job := exampleJobOf
      { Config.default ⟨0, false, "", "", "", ""⟩ with
          compilerArguments := ["a.c", "-I", "-fsanitize=undefined"], sources := ["a.c"] }
    let runs := ((carryOut job).execute (answering .empty) unlinkedAnswers).runs
    resolve (fun _ => false) ⟨0, false, "", "", "", ""⟩ tokens = .ok (.compile job.config)
      ∧ ∃ first again, compileCommandsIn runs = [first, again]
        ∧ isValue first.arguments 3 = false ∧ isValue again.arguments 2 = true := by
  intro tokens job runs
  have resolved : resolve (fun _ => false) ⟨0, false, "", "", "", ""⟩ tokens
      = .ok (.compile job.config) := by rfl
  obtain ⟨first, again, compiled⟩ : ∃ first again, compileCommandsIn runs = [first, again] :=
    exists_compileCommandsIn_exampleJobOf rfl
  obtain ⟨⟨_, -, free⟩, -, others⟩ :=
    (isValue_marker_execute (answering .empty) unlinkedAnswers resolved).1 first [again] compiled
  obtain ⟨_, -, bound⟩ := others again List.mem_cons_self
  have complete : ¬ Dangling tokens := roleAfter_eq_free_iff.mp (by decide)
  have waits : Dangling (withoutUndefined job.config.compilerArguments) :=
    ⟨["a.c"], "-I", by decide, by decide, by decide⟩
  exact ⟨resolved, first, again, compiled, Bool.eq_false_iff.mpr (mt free.mp complete),
    bound.mpr waits⟩

end CheckedBuild
