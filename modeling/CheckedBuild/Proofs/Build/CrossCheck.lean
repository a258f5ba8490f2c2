import CheckedBuild.Proofs.Build.Arguments

/-!
# The command of the cross-check

Each command of a build is run for one purpose, and the command of the other compiler is told from
all the rest by its program. It is made from the arguments that were passed on and from flags of its
own, reads nothing, and writes to `/dev/null` whatever the arguments are: an option at their end that
still waits for its value takes the first of those flags and no other. Nothing is said about what the
other compiler does with its arguments.
-/

namespace CheckedBuild

open Program Instrumentation Build

namespace Instrumentation

/-- No flag of an instrumented compile is one of the cross-check, those for warnings apart. -/
theorem notMem_crossCheckFlags {config : Config} {toolchain : Toolchain} {flag : String}
    (instruments : flag ∈ (plan config toolchain).sanitizerFlags ++ marker
      ++ (plan config toolchain).mainFlag.toList) : flag ∉ crossCheckFlags := by
  have checker : ∀ sanitizer, ∀ flag ∈ checkerFlags sanitizer, flag ∉ crossCheckFlags := by
    intro sanitizer
    cases sanitizer <;> decide
  have undefined : ∀ flag ∈ undefinedFlags, flag ∉ crossCheckFlags := by decide
  have marks : ∀ flag ∈ marker, flag ∉ crossCheckFlags := by decide
  have intercepts : ∀ interception, ∀ flag ∈ (mainFlag interception).toList,
      flag ∉ crossCheckFlags := by
    intro interception
    cases interception <;> decide
  have unlinked : ∀ flag ∈ crossCheckFlags, "-Wl,-rpath,".toList.isPrefixOf flag.toList = false := by
    decide
  simp only [plan, List.mem_append] at instruments
  rcases instruments with (((checks | undefines) | links) | marked) | main
  · exact checker _ _ checks
  · exact undefined _ (mem_undefinedFlags_of_mem undefines)
  · rcases eq_of_mem_runtimeFlags links with rfl | ⟨directory, rfl⟩
    · decide
    · intro member
      simpa using unlinked _ member
  · exact marks _ marked
  · exact intercepts _ _ main

/-- However the first flag of the cross-check is read, the last ones are `-o` and its target. -/
theorem exists_placedFrom_crossCheckFlags (role : Role) : ∃ before,
    placedFrom role crossCheckFlags = before ++ [(.free, "-o"), (.output, "/dev/null")] := by
  refine ⟨(placedFrom role crossCheckFlags).take 10, ?_⟩
  cases role <;> decide

end Instrumentation

namespace Build

/-- What a command of a build is run for. -/
inductive Purpose (job : Job) : Run → Prop
  | compiler {run : Run} (own : run.command.program = job.config.compiler) : Purpose job run
  | library (outcome : Except String Output) :
      Purpose job (.captured (Probe.bannerOf Probe.libraryProgram) none outcome)
  | explanation (path : String) (config : Config) (text : String) (outcome : Except String Output)
      (installed : job.explainer = some path) :
      Purpose job (.captured (explainCommand path config) (some text) outcome)
  | opinion (outcome : Except String Output) :
      Purpose job
        (.captured ⟨crossChecker, job.config.compilerArguments ++ crossCheckFlags⟩ none outcome)

section

variable {job : Job} {config : Config} {runs : List Run} {shown : String}

theorem compiler_of_substitute (settled : substitute job.config job.host = .ok config) :
    config.compiler = job.config.compiler :=
  eq_of_substitute settled Config.compiler fun _ => rfl

theorem crossCheckCommand_of_substitute (settled : substitute job.config job.host = .ok config) :
    crossCheckCommand config
      = ⟨crossChecker, job.config.compilerArguments ++ crossCheckFlags⟩ := by
  rw [crossCheckCommand, compilerArguments_of_substitute settled]

theorem purpose_of_probing {result : Except BuildError Toolchain}
    (settled : substitute job.config job.host = .ok config)
    (probing : Probe.Probing job config runs result) : ∀ run ∈ runs, Purpose job run := by
  have banner (outcome : Except String Output) :
      Purpose job (.captured (Probe.bannerOf config.compiler) none outcome) :=
    .compiler (compiler_of_substitute settled)
  cases probing with
  | missing reason => exact List.forall_mem_singleton.mpr (banner _)
  | unread output unread => exact List.forall_mem_singleton.mpr (banner _)
  | compiler output version directory read unneeded found =>
    exact List.forall_mem_singleton.mpr (banner _)
  | withLibrary output version directory outcome read needed found =>
    exact List.forall_mem_cons.mpr ⟨banner _, List.forall_mem_singleton.mpr (.library outcome)⟩

theorem purpose_of_showing {text : String}
    (showing : Showing job.explainer config text runs shown) : ∀ run ∈ runs, Purpose job run := by
  cases showing with
  | plain unexplained => simp
  | explained path outcome wanted installed =>
    exact List.forall_mem_singleton.mpr (.explanation path config text outcome installed)

theorem purpose_of_ending {last : Output} {result : Except BuildError Int}
    (settled : substitute job.config job.host = .ok config)
    (ending : Ending job config last runs shown result) : ∀ run ∈ runs, Purpose job run := by
  have opinion (outcome : Except String Output) :
      Purpose job (.captured (crossCheckCommand config) none outcome) :=
    crossCheckCommand_of_substitute settled ▸ .opinion outcome
  cases ending with
  | reported speaks showing => exact purpose_of_showing showing
  | failed silent failure => simp
  | unchecked silent success skips => simp
  | checkerMissing silent success checks reason =>
    exact List.forall_mem_singleton.mpr (opinion _)
  | dropped silent success checks output worthless =>
    exact List.forall_mem_singleton.mpr (opinion _)
  | advised silent success checks output worth showing =>
    exact List.forall_mem_cons.mpr ⟨opinion _, purpose_of_showing showing⟩

theorem purpose_of_compiling {command : Command} {source : String}
    {result : Except BuildError Int} (settled : substitute job.config job.host = .ok config)
    (own : command.program = job.config.compiler)
    (compiling : Compiling job config command source runs shown result) :
    ∀ run ∈ runs, Purpose job run := by
  cases compiling with
  | missing reason => exact List.forall_mem_singleton.mpr (.compiler own)
  | linked last links ending =>
    exact List.forall_mem_cons.mpr ⟨.compiler own, purpose_of_ending settled ending⟩
  | missingAgain first unlinks reason =>
    exact List.forall_mem_cons.mpr
      ⟨.compiler own, List.forall_mem_singleton.mpr (.compiler own)⟩
  | retried first last unlinks ending =>
    exact List.forall_mem_cons.mpr ⟨.compiler own,
      List.forall_mem_cons.mpr ⟨.compiler own, purpose_of_ending settled ending⟩⟩

theorem purpose_of_course {shows : SourceTree → Prop} {result : Except BuildError Int}
    (course : Course job shows runs shown result) : ∀ run ∈ runs, Purpose job run := by
  cases course with
  | unsupported fails => simp
  | unprobed settled probing => exact purpose_of_probing settled probing
  | onlyCompiles settled probing only outcome =>
    exact List.forall_mem_append.mpr ⟨purpose_of_probing settled probing,
      List.forall_mem_singleton.mpr (.compiler (compiler_of_substitute settled))⟩
  | links settled probing links wrapped compiling =>
    exact List.forall_mem_append.mpr ⟨purpose_of_probing settled probing,
      purpose_of_compiling settled (compiler_of_substitute settled) compiling⟩

theorem purpose_of_unwrapped {shows : SourceTree → Prop} {result : Except BuildError Int}
    (unwrapped : Unwrapped job shows runs shown result) : ∀ run ∈ runs, Purpose job run := by
  cases unwrapped with
  | unstored settled probing links unstored => exact purpose_of_probing settled probing

end

/-- Every command of a build has its purpose, whatever the surroundings answer. -/
theorem purpose_of_carryOut {job : Job} {exchanges : List Exchange}
    {result : Except BuildError Int} (h : Yields (carryOut job) exchanges result) :
    ∀ run ∈ runsIn exchanges, Purpose job run := by
  rcases course_or_unwrapped job h with course | unwrapped
  · exact purpose_of_course course
  · exact purpose_of_unwrapped unwrapped

end Build

/-! ## An example -/

/-- A build of one source whose last argument waits for its value. -/
def waitingJob : Job :=
  exampleJobOf
    { Config.default ⟨0, false, "", "", "", ""⟩ with
        compilerArguments := ["a.c", "-I"], sources := ["a.c"] }

theorem runs_compile_waitingJob (command : Command) (source : String) :
    ((compile waitingJob waitingJob.config command source).execute (answering .empty) []).runs
      = [.captured command (some source) (.ok ⟨"", 0⟩),
          .captured (crossCheckCommand waitingJob.config) none (.ok ⟨"", 0⟩)] := rfl

/-- In the example all commands succeed without a word, and the last is that of the cross-check. -/
theorem exists_runs_waitingJob : ∃ before,
    ((carryOut waitingJob).execute (answering .empty) [.ok ⟨"clang version 14.0.6", 0⟩]).runs
      = before ++ [.captured (crossCheckCommand waitingJob.config) none (.ok ⟨"", 0⟩)] := by
  obtain ⟨probes, probed⟩ := exists_execute_toolchain
  obtain ⟨source, made⟩ : ∃ source, wrapper waitingJob waitingJob.config exampleToolchain
      = pure (.ok source) := exists_wrapper_eq rfl exampleToolchain
  have goesOn := withToolchain_eq rfl rfl (show ¬ 1 < waitingJob.config.debug by decide) made
  generalize primaryCommand waitingJob.config (plan waitingJob.config exampleToolchain) = command
    at goesOn
  have settled : (substituted waitingJob.config waitingJob.host).execute (answering .empty)
      [.ok ⟨"clang version 14.0.6", 0⟩]
        = ⟨.ok waitingJob.config, [], [.ok ⟨"clang version 14.0.6", 0⟩]⟩ := rfl
  refine ⟨runsIn probes ++ [.captured command (some source) (.ok ⟨"", 0⟩)], ?_⟩
  have compiles := runs_compile_waitingJob command source
  rw [Execution.runs] at compiles
  rw [Execution.runs, execute_carryOut settled (probed []), goesOn, execute_bind]
  simp only [runsIn_append, List.append_assoc]
  exact congrArg (runsIn probes ++ ·) compiles

/-- What a build runs as the other compiler, where that is not its own one, explains a message or is
the cross-check: the arguments that were passed on, the flags of the cross-check behind them, and no
input. None of those flags belongs to an instrumented compile but by way of warnings, and whatever
the arguments are, a reading of them all ends with a free `-o` and its target `/dev/null`. -/
theorem secondOpinion_execute {σ : Type} (job : Job) (world : World σ) (state : σ) :
    (∀ run ∈ ((carryOut job).execute world state).runs,
        run.command.program = crossChecker → job.config.compiler ≠ crossChecker →
          (∃ config text outcome, job.explainer = some crossChecker
            ∧ run = .captured (explainCommand crossChecker config) (some text) outcome)
          ∨ ∃ outcome, run = .captured
            ⟨crossChecker, job.config.compilerArguments ++ crossCheckFlags⟩ none outcome)
      ∧ (∀ config toolchain, ∀ flag ∈ (plan config toolchain).sanitizerFlags ++ marker
          ++ (plan config toolchain).mainFlag.toList, flag ∉ crossCheckFlags)
      ∧ ∀ arguments, ∃ before, placed (arguments ++ crossCheckFlags)
          = before ++ [(.free, "-o"), (.output, "/dev/null")] := by
  refine ⟨fun run member named other => ?_, fun config toolchain flag => notMem_crossCheckFlags,
    fun arguments => ?_⟩
  · cases purpose_of_carryOut (yields_execute world state (carryOut job)) run member with
    | compiler own => exact absurd (own.symm.trans named) other
    | library outcome =>
      have different : Probe.libraryProgram ≠ crossChecker := by decide
      exact absurd named different
    | explanation path config text outcome installed =>
      obtain rfl : path = crossChecker := named
      exact Or.inl ⟨config, text, outcome, installed, rfl⟩
    | opinion outcome => exact Or.inr ⟨outcome, rfl⟩
  · obtain ⟨before, tail⟩ := exists_placedFrom_crossCheckFlags (roleAfter .free arguments)
    refine ⟨placedFrom .free arguments ++ before, ?_⟩
    rw [placed_eq_placedFrom, placedFrom_append, tail, List.append_assoc]

/-- An option that waits for its value takes the first flag, and the target stays what it is. -/
theorem secondOpinion_execute_of_waiting_option :
    let runs := ((carryOut waitingJob).execute (answering .empty)
      [.ok ⟨"clang version 14.0.6", 0⟩]).runs
    ∃ run ∈ runs, run.command.program = crossChecker ∧ waitingJob.config.compiler ≠ crossChecker
      ∧ (∃ outcome, run = .captured ⟨"gcc", "a.c" :: "-I" :: crossCheckFlags⟩ none outcome)
      ∧ isValue run.command.arguments 2 = true
      ∧ ∃ before, placed run.command.arguments
        = before ++ [(.free, "-o"), (.output, "/dev/null")] := by
  intro runs
  obtain ⟨before, whole⟩ := exists_runs_waitingJob
  have other : waitingJob.config.compiler ≠ crossChecker := by decide
  have member : .captured (crossCheckCommand waitingJob.config) none (.ok ⟨"", 0⟩) ∈ runs := by
    simp [runs, whole]
  obtain ⟨opinions, -, targets⟩ :=
    secondOpinion_execute waitingJob (answering .empty) [.ok ⟨"clang version 14.0.6", 0⟩]
  refine ⟨_, member, rfl, other, ?_, by decide, targets ["a.c", "-I"]⟩
  rcases opinions _ member rfl other with ⟨_, _, _, installed, -⟩ | opinion
  · cases installed
  · exact opinion

end CheckedBuild
