import CheckedBuild.Machine.Prepared
import CheckedBuild.Proofs.Build.Stages
import CheckedBuild.Proofs.Embedding.Members
import CheckedBuild.Proofs.Instrumentation.Flags
import CheckedBuild.Proofs.Wrapper.BuiltIn

/-!
# The course of a build

The commands that a build runs, their order, what it shows and how it ends are laid down in one
relation, put together from the stages. Every execution of a build takes such a course, whatever
the surroundings answer. The archive alone may fail for a reason of its own: a readable path with a
zero byte cannot be stored.
-/

namespace CheckedBuild

open Program Instrumentation

/-- The tree was given when the sources were asked for. -/
def ShowsTree (exchanges : List Exchange) (tree : SourceTree) : Prop :=
  (⟨.sources, tree⟩ : Exchange) ∈ exchanges

namespace Build

/-- The archive that goes into a wrapper: none if it is not wanted, else that of the sources in a
tree that was shown. -/
inductive Archived (job : Job) (config : Config) (shows : SourceTree → Prop) :
    Option Bytes → Prop
  | unwanted (off : config.embedSource = false) : Archived job config shows none
  | packed (tree : SourceTree) (bytes : Bytes) (wanted : config.embedSource = true)
      (shown : shows tree)
      (embeds : (embed tree job.environment.helperDirectory config.sources).1 = .ok bytes) :
      Archived job config shows (some bytes)

/-- The text is the wrapper of a build. -/
def Wrapped (job : Job) (config : Config) (toolchain : Toolchain) (shows : SourceTree → Prop)
    (source : String) : Prop :=
  ∃ archive, Archived job config shows archive
    ∧ Wrapper.source
        { config, major := toolchain.compiler.major, minor := toolchain.compiler.minor
          driverPath := Path.fromHome job.environment.driverPath, archive } = .ok source

/-- The sources in a tree that was shown cannot be stored. -/
structure Unstored (job : Job) (config : Config) (shows : SourceTree → Prop) (reason : String) :
    Prop where
  wanted : config.embedSource = true
  fails : ∃ tree, shows tree
    ∧ (embed tree job.environment.helperDirectory config.sources).1 = .error reason

/-- How a build that only compiles ends. -/
def compiledOnly (command : Command) : Except String Int → Except BuildError Int
  | .ok status => .ok status
  | .error reason => .error (.launch command.program reason)

/-- A build from its start to its end: the commands that are run with what came of them, what is
shown, and the result. -/
inductive Course (job : Job) (shows : SourceTree → Prop) :
    List Run → String → Except BuildError Int → Prop
  | unsupported (fails : substitute job.config job.host = .error .unsupported) :
      Course job shows [] "" (.error .unsupported)
  | unprobed {config : Config} {probes : List Run} {error : BuildError}
      (settled : substitute job.config job.host = .ok config)
      (probing : Probe.Probing job config probes (.error error)) :
      Course job shows probes "" (.error error)
  | onlyCompiles {config : Config} {probes : List Run} {toolchain : Toolchain}
      (settled : substitute job.config job.host = .ok config)
      (probing : Probe.Probing job config probes (.ok toolchain))
      (only : config.compileOnly = true) (outcome : Except String Int) :
      Course job shows
        (probes ++ [.inherited (compileCommand config (plan config toolchain)) outcome]) ""
        (compiledOnly (compileCommand config (plan config toolchain)) outcome)
  | links {config : Config} {probes runs : List Run} {toolchain : Toolchain} {source shown : String}
      {result : Except BuildError Int}
      (settled : substitute job.config job.host = .ok config)
      (probing : Probe.Probing job config probes (.ok toolchain))
      (links : config.compileOnly = false)
      (wrapped : Wrapped job config toolchain shows source)
      (compiling : Compiling job config (primaryCommand config (plan config toolchain)) source runs
        shown result) :
      Course job shows (probes ++ runs) shown result

/-- A build that ends because its sources cannot be stored. -/
inductive Unwrapped (job : Job) (shows : SourceTree → Prop) :
    List Run → String → Except BuildError Int → Prop
  | unstored {config : Config} {probes : List Run} {toolchain : Toolchain} {reason : String}
      (settled : substitute job.config job.host = .ok config)
      (probing : Probe.Probing job config probes (.ok toolchain))
      (links : config.compileOnly = false) (unstored : Unstored job config shows reason) :
      Unwrapped job shows probes "" (.error (.io reason))

theorem quiet_of_substituted {config : Config} {host : Host} {exchanges : List Exchange}
    {result : Except BuildError Config} (h : Yields (substituted config host) exchanges result) :
    Quiet exchanges ∧ result = substitute config host := by
  unfold substituted at h
  cases settled : substitute config host with
  | error error =>
    rw [settled] at h
    obtain ⟨rfl, rfl⟩ := yields_pure.mp h
    exact ⟨.nil, rfl⟩
  | ok after =>
    cases checker : host.valgrind with
    | none =>
      rw [settled, checker] at h
      obtain ⟨rfl, rfl⟩ := yields_pure.mp h
      exact ⟨.nil, rfl⟩
    | some valgrind =>
      rw [settled, checker] at h
      by_cases changed : after ≠ config
      · simp only [if_pos changed] at h
        obtain ⟨_, _, _, rfl, logged, done⟩ := yields_bind.mp h
        obtain ⟨rfl, rfl⟩ := yields_pure.mp done
        exact ⟨(quiet_of_log logged).append .nil, rfl⟩
      · simp only [if_neg changed] at h
        obtain ⟨rfl, rfl⟩ := yields_pure.mp h
        exact ⟨.nil, rfl⟩

theorem quiet_of_leaveWrapper {path : String} {command : Command} {source : String}
    {exchanges : List Exchange} {result : Unit}
    (h : Yields (leaveWrapper path command source) exchanges result) : Quiet exchanges := by
  unfold leaveWrapper at h
  obtain ⟨_, _, _, rfl, announced, logs⟩ := yields_bind.mp h
  obtain ⟨_, _, _, rfl, logged, saves⟩ := yields_bind.mp logs
  obtain ⟨_, outcome, left, rfl, saved, ends⟩ := yields_bind.mp saves
  have quiet : Quiet left := by
    cases outcome with
    | ok nothing =>
      obtain ⟨rfl, rfl⟩ := yields_pure.mp ends
      exact .nil
    | error reason => exact quiet_of_log ends
  exact (quiet_of_log announced).append
    ((quiet_of_log logged).append ((quiet_of_save saved).append quiet))

/-- The wrapper can be made with whatever archive. -/
theorem wrapped_of_archived {job : Job} {config : Config} {toolchain : Toolchain}
    {shows : SourceTree → Prop} {archive : Option Bytes}
    (archived : Archived job config shows archive) {result : Except BuildError String}
    (made : result = (Wrapper.source
      { config, major := toolchain.compiler.major, minor := toolchain.compiler.minor
        driverPath := Path.fromHome job.environment.driverPath, archive }).mapError .template) :
    ∃ source, result = .ok source ∧ Wrapped job config toolchain shows source := by
  obtain ⟨source, rendered⟩ := Wrapper.exists_source
    { config, major := toolchain.compiler.major, minor := toolchain.compiler.minor
      driverPath := Path.fromHome job.environment.driverPath, archive }
  rw [rendered] at made
  exact ⟨source, made, archive, archived, rendered⟩

/-- Making the wrapper runs nothing and shows nothing. It fails only if the sources cannot be
stored. -/
theorem wrapped_of_wrapper {job : Job} {config : Config} {toolchain : Toolchain}
    {exchanges all : List Exchange} {result : Except BuildError String}
    (h : Yields (wrapper job config toolchain) exchanges result) (within : exchanges ⊆ all) :
    Quiet exchanges
      ∧ ((∃ source, result = .ok source ∧ Wrapped job config toolchain (ShowsTree all) source)
        ∨ ∃ reason, result = .error (.io reason)
          ∧ Unstored job config (ShowsTree all) reason) := by
  unfold wrapper at h
  cases wanted : config.embedSource with
  | false =>
    simp only [wanted, Bool.false_eq_true, if_false] at h
    obtain ⟨_, _, _, rfl, nothing, renders⟩ := yields_bind.mp h
    obtain ⟨rfl, rfl⟩ := yields_pure.mp nothing
    obtain ⟨rfl, made⟩ := yields_pure.mp renders
    exact ⟨.nil, Or.inl (wrapped_of_archived (.unwanted wanted) made)⟩
  | true =>
    simp only [wanted, if_true] at h
    obtain ⟨_, tree, _, rfl, asked, notes⟩ := yields_bind.mp h
    obtain ⟨_, _, _, rfl, noted, packs⟩ := yields_bind.mp notes
    obtain ⟨_, _, _, rfl, packed, renders⟩ := yields_bind.mp packs
    obtain ⟨rfl, rfl⟩ := yields_pure.mp packed
    obtain rfl := yields_sources.mp asked
    have shown : ShowsTree all tree := within List.mem_cons_self
    have quiet : Quiet [⟨.sources, tree⟩] := ⟨rfl, rfl⟩
    cases embeds : (embed tree job.environment.helperDirectory config.sources).1 with
    | ok bytes =>
      rw [embeds] at renders
      obtain ⟨rfl, made⟩ := yields_pure.mp renders
      exact ⟨quiet.append ((quiet_of_record noted).append .nil),
        Or.inl (wrapped_of_archived (.packed tree bytes wanted shown embeds) made)⟩
    | error reason =>
      rw [embeds] at renders
      obtain ⟨rfl, rfl⟩ := yields_pure.mp renders
      exact ⟨quiet.append ((quiet_of_record noted).append .nil),
        Or.inr ⟨reason, rfl, wanted, tree, shown, embeds⟩⟩

theorem runs_of_compileOnly {command : Command} {exchanges : List Exchange}
    {result : Except BuildError Int} (h : Yields (compileOnly command) exchanges result) :
    ∃ outcome, runsIn exchanges = [.inherited command outcome] ∧ shownIn exchanges = ""
      ∧ result = compiledOnly command outcome := by
  unfold compileOnly at h
  obtain ⟨_, _, _, rfl, logged, runs⟩ := yields_bind.mp h
  obtain ⟨_, outcome, _, rfl, ran, ends⟩ := yields_bind.mp runs
  obtain rfl := yields_run.mp ran
  refine ⟨outcome, ?_⟩
  cases outcome with
  | ok status =>
    obtain ⟨rfl, rfl⟩ := yields_pure.mp ends
    simp [quiet_of_log logged, compiledOnly]
  | error reason =>
    obtain ⟨rfl, rfl⟩ := yields_pure.mp ends
    simp [quiet_of_log logged, compiledOnly]

/-- Once the toolchain is known a build runs its course, unless the sources cannot be stored. -/
theorem course_of_withToolchain {job : Job} {config : Config} {toolchain : Toolchain}
    {probes : List Run} (settled : substitute job.config job.host = .ok config)
    (probing : Probe.Probing job config probes (.ok toolchain)) {exchanges all : List Exchange}
    {result : Except BuildError Int}
    (h : Yields (withToolchain job config toolchain) exchanges result)
    (within : exchanges ⊆ all) :
    Course job (ShowsTree all) (probes ++ runsIn exchanges) (shownIn exchanges) result
      ∨ Unwrapped job (ShowsTree all) (probes ++ runsIn exchanges) (shownIn exchanges) result := by
  unfold withToolchain at h
  obtain ⟨first, second, rfl, warned, continues⟩ := exists_of_optional quiet_of_log h
  cases only : config.compileOnly with
  | true =>
    simp only [only, if_true] at continues
    obtain ⟨outcome, runs, shown, rfl⟩ := runs_of_compileOnly continues
    left
    simpa [warned, runs, shown] using Course.onlyCompiles settled probing only outcome
  | false =>
    simp only [only, Bool.false_eq_true, if_false] at continues
    obtain ⟨making, made, rest, rfl, wraps, ends⟩ := yields_bind.mp continues
    have part : making ⊆ all := fun _ member => within (by simp [member])
    obtain ⟨quiet, ⟨source, rfl, wrapped⟩ | ⟨reason, rfl, unstored⟩⟩ :=
      wrapped_of_wrapper wraps part
    · obtain ⟨_, _, _, rfl, logged, leaves⟩ := yields_bind.mp ends
      obtain ⟨_, _, rfl, left, compiles⟩ := exists_of_optional quiet_of_leaveWrapper leaves
      have compiling := compiling_of_compile compiles
      left
      simpa [warned, quiet, quiet_of_log logged, left] using
        Course.links settled probing only wrapped compiling
    · obtain ⟨rfl, rfl⟩ := yields_pure.mp ends
      right
      simpa [warned, quiet] using Unwrapped.unstored settled probing only unstored

/-- A build runs its course, unless the sources cannot be stored. -/
theorem course_or_unwrapped (job : Job) {exchanges : List Exchange}
    {result : Except BuildError Int} (h : Yields (carryOut job) exchanges result) :
    Course job (ShowsTree exchanges) (runsIn exchanges) (shownIn exchanges) result
      ∨ Unwrapped job (ShowsTree exchanges) (runsIn exchanges) (shownIn exchanges) result := by
  unfold carryOut at h
  obtain ⟨first, settled, second, rfl, settles, continues⟩ := yields_bind.mp h
  obtain ⟨quiet, same⟩ := quiet_of_substituted settles
  cases settled with
  | error error =>
    obtain ⟨rfl, rfl⟩ := yields_pure.mp continues
    obtain rfl := eq_unsupported_of_substitute same.symm
    left
    simpa [quiet] using Course.unsupported same.symm
  | ok config =>
    obtain ⟨probes, probed, rest, rfl, probe, ends⟩ := yields_bind.mp continues
    obtain ⟨probing, silent⟩ := Probe.probing_of_toolchain probe
    cases probed with
    | error error =>
      obtain ⟨rfl, rfl⟩ := yields_pure.mp ends
      left
      simpa [quiet, silent] using Course.unprobed same.symm probing
    | ok toolchain =>
      have course := course_of_withToolchain same.symm probing ends
        (fun _ member => by simp [member] : rest ⊆ first ++ (probes ++ rest))
      simpa [quiet, silent] using course

theorem exists_tree_of_unwrapped {job : Job} {shows : SourceTree → Prop} {runs : List Run}
    {shown : String} {result : Except BuildError Int}
    (unwrapped : Unwrapped job shows runs shown result) : ∃ tree, shows tree ∧ ¬ tree.ZeroFree := by
  cases unwrapped with
  | @unstored config _ _ _ settled probing links unstored =>
    obtain ⟨tree, given, fails⟩ := unstored.fails
    refine ⟨tree, given, fun zeroFree => ?_⟩
    obtain ⟨bytes, embeds⟩ :=
      exists_embed zeroFree job.environment.helperDirectory config.sources
    rw [embeds] at fails
    cases fails

/-- Whatever its surroundings answer, a build runs its course, if no readable path in the tree it is
shown has a zero byte in it. -/
theorem course_execute {σ : Type} (job : Job) (world : World σ) (state : σ)
    (zeroFree : ∀ tree, ShowsTree ((carryOut job).execute world state).exchanges tree →
      tree.ZeroFree) :
    let execution := (carryOut job).execute world state
    Course job (ShowsTree execution.exchanges) execution.runs execution.shown execution.result := by
  intro execution
  rcases course_or_unwrapped job (yields_execute world state (carryOut job)) with
    course | unwrapped
  · exact course
  · obtain ⟨tree, shows, zeros⟩ := exists_tree_of_unwrapped unwrapped
    exact absurd (zeroFree tree shows) zeros

/-- A build of one source, on a host where the other compiler is installed. -/
def exampleJob (embedSource : Bool) : Job where
  config :=
    { Config.default ⟨0, false, "", "", "", ""⟩ with
        embedSource, compilerArguments := ["a.c"], sources := ["a.c"] }
  environment := ⟨0, false, "", "", "", ""⟩
  host := ⟨.bits64, none, some "/usr/bin/gcc"⟩
  explainer := none

theorem course_execute_of_one_source :
    let tree := Machine.preparedTree [{ path := "a.c", contents := [] }]
    let execution := (carryOut (exampleJob true)).execute (answering tree)
      [.ok ⟨"clang version 14.0.6", 0⟩]
    tree.ZeroFree ∧ Course (exampleJob true) (ShowsTree execution.exchanges) execution.runs
      execution.shown execution.result := by
  intro tree execution
  have zeroFree : tree.ZeroFree := zeroFree_preparedTree (by decide)
  refine ⟨zeroFree, course_execute _ _ _ fun shown shows => ?_⟩
  obtain ⟨_, same⟩ := answered_of_mem_execute shows
  have same : shown = tree := same
  rw [same]
  exact zeroFree

end Build

end CheckedBuild
