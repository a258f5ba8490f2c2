import CheckedBuild.Proofs.Build.LastCompile
import CheckedBuild.Proofs.Instrumentation.Flags
import CheckedBuild.Proofs.Options.Roles

/-!
# Commands of a build

Every command that a build runs has its arguments in one of a few forms, put together from those
that were passed on and from flags. The flags take no values, except for the output of the
cross-check. Nothing is said about what comes of the commands.
-/

namespace CheckedBuild

open Program Instrumentation Build

/-- The command that was run. -/
def Run.command : Run → Command
  | .captured command _ _ => command
  | .inherited command _ => command

/-- The commands of the instrumented compiles, in order. -/
def compileCommandsIn (runs : List Run) : List Command :=
  (runs.filter fun run => run.compile?.isSome).map Run.command

/-- The command of an instrumented compile with the wrapper that it reads. -/
def Run.wrapped? : Run → Option (Command × String)
  | .captured command (some source) _ =>
    if marker <:+: command.arguments then some (command, source) else none
  | _ => none

/-- The instrumented compiles, in order. -/
def wrappedIn (runs : List Run) : List (Command × String) := runs.filterMap Run.wrapped?

/-! ## Flags -/

namespace Instrumentation

theorem bare_undefinedFlags : Bare undefinedFlags := by decide

theorem bare_runtimeFlags (config : Config) (toolchain : Toolchain) :
    Bare (runtimeFlags config toolchain) := by
  intro flag member
  rcases eq_of_mem_runtimeFlags member with rfl | ⟨directory, rfl⟩
  · decide
  · exact takesValue_of_isPrefixOf "-Wl,-rpath,".toList (by decide) (by simp)

theorem bare_plan (config : Config) (toolchain : Toolchain) :
    Bare ((plan config toolchain).sanitizerFlags ++ (plan config toolchain).styleFlags
      ++ (plan config toolchain).mainFlag.toList) := by
  have checker : ∀ sanitizer, Bare (checkerFlags sanitizer) := by
    intro sanitizer
    cases sanitizer <;> decide
  have undefined : Bare (undefinedFlagsFor config toolchain) :=
    fun _ member => bare_undefinedFlags _ (mem_undefinedFlags_of_mem member)
  have style : ∀ colorize, Bare (styleFlags colorize) := by
    intro colorize
    cases colorize <;> decide
  have main : ∀ interception, Bare (mainFlag interception).toList := by
    intro interception
    cases interception <;> decide
  intro flag member
  simp only [plan, List.mem_append] at member
  rcases member with (((checks | undefines) | links) | styles) | intercepts
  · exact checker _ _ checks
  · exact undefined _ undefines
  · exact bare_runtimeFlags _ _ _ links
  · exact style _ _ styles
  · exact main _ _ intercepts

end Instrumentation

namespace Build

/-! ## Instrumented compiles -/

theorem compileCommandsIn_append (first second : List Run) :
    compileCommandsIn (first ++ second) = compileCommandsIn first ++ compileCommandsIn second := by
  simp [compileCommandsIn]

theorem compileCommandsIn_of_none {runs : List Run} (none : compilesIn runs = []) :
    compileCommandsIn runs = [] := by
  have uncompiled := List.filterMap_eq_nil_iff.mp none
  rw [compileCommandsIn, List.map_eq_nil_iff, List.filter_eq_nil_iff]
  intro run member
  simp [uncompiled run member]

theorem compileCommandsIn_cons {command : Command} (marked : marker <:+: command.arguments)
    (source : String) (outcome : Except String Output) (rest : List Run) :
    compileCommandsIn (.captured command (some source) outcome :: rest)
      = command :: compileCommandsIn rest := by
  simp [compileCommandsIn, Run.compile?, marked, Run.command]

theorem wrappedIn_append (first second : List Run) :
    wrappedIn (first ++ second) = wrappedIn first ++ wrappedIn second :=
  List.filterMap_append

theorem wrappedIn_of_none {runs : List Run} (uncompiled : compilesIn runs = []) :
    wrappedIn runs = [] := by
  refine List.filterMap_eq_nil_iff.mpr fun run member => ?_
  have unmarked := List.filterMap_eq_nil_iff.mp uncompiled run member
  match run with
  | .captured command (some source) outcome =>
    rw [Run.compile?, ite_eq_right_iff] at unmarked
    exact if_neg fun marked => Option.some_ne_none _ (unmarked marked)
  | .captured command none outcome => rfl
  | .inherited command outcome => rfl

theorem wrappedIn_cons {command : Command} (marked : marker <:+: command.arguments)
    (source : String) (outcome : Except String Output) (rest : List Run) :
    wrappedIn (.captured command (some source) outcome :: rest)
      = (command, source) :: wrappedIn rest :=
  List.filterMap_cons_some (if_pos marked)

theorem compileCommandsIn_eq_map (runs : List Run) :
    compileCommandsIn runs = (wrappedIn runs).map Prod.fst := by
  induction runs with
  | nil => rfl
  | cons run rest ih =>
    rw [← List.singleton_append, compileCommandsIn_append, wrappedIn_append, List.map_append, ih]
    congr 1
    match run with
    | .captured command (some source) outcome =>
      by_cases marked : marker <:+: command.arguments
      · rw [compileCommandsIn_cons marked, wrappedIn_cons marked]
        rfl
      · simp [compileCommandsIn, wrappedIn, Run.compile?, Run.wrapped?, marked]
    | .captured command none outcome => rfl
    | .inherited command outcome => rfl

/-- The same wrapper is compiled once, or once more without the flags that check for undefined
behaviour. -/
theorem wrappedIn_of_compiling {job : Job} {config : Config} {command : Command}
    {source shown : String} {runs : List Run} {result : Except BuildError Int}
    (marked : marker <:+: command.arguments)
    (compiling : Compiling job config command source runs shown result) :
    wrappedIn runs = [(command, source)]
      ∨ wrappedIn runs = [(command, source), (command.without undefinedFlags, source)] := by
  have again := marked_without marked
  cases compiling with
  | missing reason =>
    left
    rw [wrappedIn_cons marked]
    rfl
  | linked last links ending =>
    left
    rw [wrappedIn_cons marked, wrappedIn_of_none (compilesIn_of_ending ending)]
  | missingAgain first unlinks reason =>
    right
    rw [wrappedIn_cons marked, wrappedIn_cons again]
    rfl
  | retried first last unlinks ending =>
    right
    rw [wrappedIn_cons marked, wrappedIn_cons again,
      wrappedIn_of_none (compilesIn_of_ending ending)]

theorem compileCommandsIn_of_compiling {job : Job} {config : Config} {command : Command}
    {source shown : String} {runs : List Run} {result : Except BuildError Int}
    (marked : marker <:+: command.arguments)
    (compiling : Compiling job config command source runs shown result) :
    compileCommandsIn runs = [command]
      ∨ compileCommandsIn runs = [command, command.without undefinedFlags] := by
  rw [compileCommandsIn_eq_map]
  rcases wrappedIn_of_compiling marked compiling with once | twice
  · exact Or.inl (congrArg (List.map Prod.fst) once)
  · exact Or.inr (congrArg (List.map Prod.fst) twice)

/-! ## All commands -/

/-- What a build may run: the commands that ask for banners and explanations, and those made from
the arguments of a configuration that it settles on. The commands of the instrumented compiles are
`compiles`. -/
inductive Issued (job : Job) (compiles : List Command) : Command → Prop
  | banner (program : String) : Issued job compiles (Probe.bannerOf program)
  | explain (path : String) (config : Config) : Issued job compiles (explainCommand path config)
  | onlyCompile {config : Config} {toolchain : Toolchain}
      (settled : substitute job.config job.host = .ok config) :
      Issued job compiles (compileCommand config (plan config toolchain))
  | compile {config : Config} {toolchain : Toolchain}
      (settled : substitute job.config job.host = .ok config) :
      Issued job compiles (primaryCommand config (plan config toolchain))
  | compileAgain {config : Config} {toolchain : Toolchain}
      (settled : substitute job.config job.host = .ok config)
      (twice : compiles = [primaryCommand config (plan config toolchain),
        (primaryCommand config (plan config toolchain)).without undefinedFlags]) :
      Issued job compiles ((primaryCommand config (plan config toolchain)).without undefinedFlags)
  | crossCheck {config : Config} (settled : substitute job.config job.host = .ok config) :
      Issued job compiles (crossCheckCommand config)

section

variable {job : Job} {config : Config} {compiles : List Command} {runs : List Run} {shown : String}

theorem issued_of_probing {result : Except BuildError Toolchain}
    (probing : Probe.Probing job config runs result) :
    ∀ run ∈ runs, Issued job compiles run.command := by
  intro run member
  obtain ⟨program, outcome, rfl⟩ := banner_of_probing probing run member
  exact .banner program

theorem issued_of_showing {explainer : Option String} {text : String}
    (showing : Showing explainer config text runs shown) :
    ∀ run ∈ runs, Issued job compiles run.command := by
  cases showing with
  | plain unexplained => simp
  | explained path outcome wanted installed =>
    exact List.forall_mem_singleton.mpr (.explain path config)

theorem issued_of_ending {last : Output} {result : Except BuildError Int}
    (settled : substitute job.config job.host = .ok config)
    (ending : Ending job config last runs shown result) :
    ∀ run ∈ runs, Issued job compiles run.command := by
  cases ending with
  | reported speaks showing => exact issued_of_showing showing
  | failed silent failure => simp
  | unchecked silent success skips => simp
  | checkerMissing silent success checks reason =>
    exact List.forall_mem_singleton.mpr (.crossCheck settled)
  | dropped silent success checks opinion worthless =>
    exact List.forall_mem_singleton.mpr (.crossCheck settled)
  | advised silent success checks opinion worth showing =>
    exact List.forall_mem_cons.mpr ⟨.crossCheck settled, issued_of_showing showing⟩

theorem issued_of_compiling {toolchain : Toolchain} {source : String}
    {result : Except BuildError Int} (settled : substitute job.config job.host = .ok config)
    (compiling : Compiling job config (primaryCommand config (plan config toolchain)) source runs
      shown result) :
    ∀ run ∈ runs, Issued job (compileCommandsIn runs) run.command := by
  have marked := marked_primaryCommand config (plan config toolchain)
  have again := marked_without marked
  cases compiling with
  | missing reason => exact List.forall_mem_singleton.mpr (.compile settled)
  | linked last links ending =>
    exact List.forall_mem_cons.mpr ⟨.compile settled, issued_of_ending settled ending⟩
  | missingAgain first unlinks reason =>
    rw [compileCommandsIn_cons marked, compileCommandsIn_cons again]
    exact List.forall_mem_cons.mpr
      ⟨.compile settled, List.forall_mem_singleton.mpr (.compileAgain settled rfl)⟩
  | retried first last unlinks ending =>
    rw [compileCommandsIn_cons marked, compileCommandsIn_cons again,
      compileCommandsIn_of_none (compilesIn_of_ending ending)]
    exact List.forall_mem_cons.mpr ⟨.compile settled,
      List.forall_mem_cons.mpr ⟨.compileAgain settled rfl, issued_of_ending settled ending⟩⟩

end

/-- The commands of a whole build: all that are run, and those of the instrumented compiles, of
which there are none, one or two. -/
structure Commands (job : Job) (runs : List Run) : Prop where
  issued : ∀ run ∈ runs, Issued job (compileCommandsIn runs) run.command
  compiled : compileCommandsIn runs = [] ∨ ∃ config toolchain,
    substitute job.config job.host = .ok config
      ∧ (compileCommandsIn runs = [primaryCommand config (plan config toolchain)]
        ∨ compileCommandsIn runs = [primaryCommand config (plan config toolchain),
          (primaryCommand config (plan config toolchain)).without undefinedFlags])

theorem Commands.of_probing {job : Job} {config : Config} {runs : List Run}
    {result : Except BuildError Toolchain} (probing : Probe.Probing job config runs result) :
    Commands job runs :=
  ⟨issued_of_probing probing, Or.inl (compileCommandsIn_of_none (compilesIn_of_probing probing))⟩

theorem Commands.of_course {job : Job} {shows : SourceTree → Prop} {runs : List Run}
    {shown : String} {result : Except BuildError Int}
    (course : Course job shows runs shown result) : Commands job runs := by
  cases course with
  | unsupported fails => exact ⟨by simp, Or.inl rfl⟩
  | unprobed settled probing => exact .of_probing probing
  | onlyCompiles settled probing only outcome =>
    refine ⟨List.forall_mem_append.mpr ⟨issued_of_probing probing,
      List.forall_mem_singleton.mpr (.onlyCompile settled)⟩, Or.inl ?_⟩
    exact compileCommandsIn_of_none
      (compilesIn_concat_inherited (compilesIn_of_probing probing) _ _)
  | @links config probes runs toolchain _ _ _ settled probing links wrapped compiling =>
    have same : compileCommandsIn (probes ++ runs) = compileCommandsIn runs := by
      rw [compileCommandsIn_append, compileCommandsIn_of_none (compilesIn_of_probing probing),
        List.nil_append]
    constructor
    · rw [same]
      exact List.forall_mem_append.mpr
        ⟨issued_of_probing probing, issued_of_compiling settled compiling⟩
    · rw [same]
      exact Or.inr ⟨config, toolchain, settled,
        compileCommandsIn_of_compiling (marked_primaryCommand _ _) compiling⟩

theorem Commands.of_unwrapped {job : Job} {shows : SourceTree → Prop} {runs : List Run}
    {shown : String} {result : Except BuildError Int}
    (unwrapped : Unwrapped job shows runs shown result) : Commands job runs := by
  cases unwrapped with
  | unstored settled probing links unstored => exact .of_probing probing

/-- There are no more than two instrumented compiles. -/
theorem Commands.eq_pair {job : Job} {runs : List Run} (commands : Commands job runs)
    (atLeast : 2 ≤ (compileCommandsIn runs).length) :
    ∃ first again, compileCommandsIn runs = [first, again] := by
  rcases commands.compiled with none | ⟨config, toolchain, -, once | twice⟩
  · rw [none] at atLeast
    exact absurd atLeast (by decide)
  · rw [once] at atLeast
    exact absurd atLeast (Nat.not_lt_of_le (Nat.le_refl 1))
  · exact ⟨_, _, twice⟩

/-- Every build runs such commands, whatever its surroundings answer. -/
theorem Commands.of_carryOut {job : Job} {exchanges : List Exchange}
    {result : Except BuildError Int} (h : Yields (carryOut job) exchanges result) :
    Commands job (runsIn exchanges) := by
  rcases course_or_unwrapped job h with course | unwrapped
  · exact .of_course course
  · exact .of_unwrapped unwrapped

end Build

end CheckedBuild
