import CheckedBuild.Build
import CheckedBuild.Proofs.Program.Traces

/-!
# Stages of a build

Each stage of a build is described on its own: which commands it runs, what it shows, and how the
build ends if it ends there. The descriptions are relations over what was run and what came of it,
so they hold for surroundings that answer anything. Nothing is said here about log messages or
about files left for inspection.

Whether a build goes on, and with which configuration, is settled before the first stage by what is
known about the host. Only a build that checks for uninitialised memory where pointers have 32 bits
does not go on with its own.
-/

namespace CheckedBuild

open Program Instrumentation

/-! ## The settled configuration -/

section

open Build

/-- The build once its configuration is settled. -/
def Build.proceed (job : Job) (config : Config) : Program (Except BuildError Int) := do
  let width := job.host.pointerWidth
  match ← Probe.toolchain config.compiler width (needsLibrary config width)
      job.environment.resourceRoot with
  | .error error => return .error error
  | .ok toolchain => withToolchain job config toolchain

theorem substituted_of_fits {config : Config} {host : Host}
    (fits : ¬ (config.sanitizer = .memory ∧ host.pointerWidth = .bits32)) :
    substituted config host = pure (.ok config) := by
  unfold substituted
  rw [substitute, if_neg fits]
  cases host.valgrind with
  | none => rfl
  | some path => simp

theorem substituted_of_misfit {config : Config} {host : Host}
    (misfit : config.sanitizer = .memory ∧ host.pointerWidth = .bits32) :
    substituted config host = match host.valgrind with
      | none => pure (.error .unsupported)
      | some path =>
        log .debug ("32-bit host, using " ++ path ++ " instead of MemorySanitizer") >>= fun _ =>
          pure (.ok { config with sanitizer := .valgrind }) := by
  unfold substituted
  rw [substitute, if_pos misfit]
  cases host.valgrind with
  | none => rfl
  | some path =>
    have changed : { config with sanitizer := .valgrind } ≠ config := by
      intro same
      have checker := congrArg Config.sanitizer same
      rw [misfit.1] at checker
      cases checker
    simp only [Option.isSome_some, if_true, if_pos changed]

/-- A build either ends at once or goes on with a configuration, its own or one with the external
checker, which is announced. -/
theorem carryOut_eq (job : Job) :
    carryOut job =
      if job.config.sanitizer = .memory ∧ job.host.pointerWidth = .bits32 then
        match job.host.valgrind with
        | none => pure (.error .unsupported)
        | some path =>
          log .debug ("32-bit host, using " ++ path ++ " instead of MemorySanitizer") >>= fun _ =>
            proceed job { job.config with sanitizer := .valgrind }
      else proceed job job.config := by
  rw [carryOut]
  split
  · next misfit =>
    rw [substituted_of_misfit misfit]
    cases job.host.valgrind <;> rfl
  · next fits =>
    rw [substituted_of_fits fits]
    rfl

end

/-! ## The stages -/

/-- What is shown in the place of a text, given what came of asking for an explanation of it. -/
def explanation (text : String) : Except String Output → String
  | .ok output => if output.succeeded then output.text else text
  | .error _ => text

/-- Showing a text: the commands that are run for it, and what is shown. -/
inductive Showing (explainer : Option String) (config : Config) (text : String) :
    List Run → String → Prop
  | plain (unexplained : config.explanations = false ∨ explainer = none) :
      Showing explainer config text [] text
  | explained (path : String) (outcome : Except String Output)
      (wanted : config.explanations = true) (installed : explainer = some path) :
      Showing explainer config text [.captured (explainCommand path config) (some text) outcome]
        (explanation text outcome)

theorem showing_of_report {explainer : Option String} {config : Config} {text : String}
    {exchanges : List Exchange} {result : Unit}
    (h : Yields (report explainer config text) exchanges result) :
    Showing explainer config text (runsIn exchanges) (shownIn exchanges) := by
  unfold report at h
  cases asked : explainer.filter fun _ => config.explanations with
  | none =>
    rw [asked] at h
    obtain rfl := yields_tell.mp h
    have unexplained : config.explanations = false ∨ explainer = none := by
      cases explainer with
      | none => exact Or.inr rfl
      | some path => simpa [Option.filter] using asked
    have plain : Showing explainer config text [] text := .plain unexplained
    simpa using plain
  | some path =>
    obtain ⟨installed, wanted⟩ := Option.filter_eq_some_iff.mp asked
    rw [asked] at h
    obtain ⟨_, outcome, told, rfl, captured, rest⟩ := yields_bind.mp h
    obtain rfl := yields_capture.mp captured
    have shown : runsIn told = [] ∧ shownIn told = explanation text outcome := by
      cases outcome with
      | ok output =>
        by_cases succeeded : output.succeeded = true
        · simp only [succeeded, if_true] at rest
          obtain rfl := yields_tell.mp rest
          simp [explanation, succeeded]
        · simp only [if_neg succeeded] at rest
          obtain ⟨logged, _, _, rfl, log, tell⟩ := yields_bind.mp rest
          obtain rfl := yields_tell.mp tell
          simp [explanation, succeeded, quiet_of_log log]
      | error reason =>
        obtain ⟨logged, _, _, rfl, log, tell⟩ := yields_bind.mp rest
        obtain rfl := yields_tell.mp tell
        simp [explanation, quiet_of_log log]
    have explained : Showing explainer config text
        [.captured (explainCommand path config) (some text) outcome] (explanation text outcome) :=
      .explained path outcome wanted installed
    simpa [shown.1, shown.2] using explained

namespace Probe

/-- The version of the C library, as far as its banner tells it. -/
def libraryIn : Except String Output → Option LibraryVersion
  | .ok output => LibraryVersion.parse? output.text
  | .error _ => none

/-- Finding out about the toolchain: the banner of the compiler is asked for, and that of the C
library where it matters. Without the compiler's version there is no toolchain. -/
inductive Probing (job : Build.Job) (config : Config) :
    List Run → Except BuildError Toolchain → Prop
  | missing (reason : String) :
      Probing job config [.captured (bannerOf config.compiler) none (.error reason)]
        (.error (.unknownVersion config.compiler))
  | unread (banner : Output) (unread : CompilerVersion.parse? banner.text = none) :
      Probing job config [.captured (bannerOf config.compiler) none (.ok banner)]
        (.error (.unknownVersion config.compiler))
  | compiler (banner : Output) (version : CompilerVersion) (directory : Option String)
      (read : CompilerVersion.parse? banner.text = some version)
      (unneeded : needsLibrary config job.host.pointerWidth = false)
      (found : ∀ path ∈ directory,
        path ∈ runtimeDirectories job.environment.resourceRoot version) :
      Probing job config [.captured (bannerOf config.compiler) none (.ok banner)]
        (.ok ⟨version, none, job.host.pointerWidth, directory⟩)
  | withLibrary (banner : Output) (version : CompilerVersion) (directory : Option String)
      (outcome : Except String Output)
      (read : CompilerVersion.parse? banner.text = some version)
      (needed : needsLibrary config job.host.pointerWidth = true)
      (found : ∀ path ∈ directory,
        path ∈ runtimeDirectories job.environment.resourceRoot version) :
      Probing job config
        [.captured (bannerOf config.compiler) none (.ok banner),
          .captured (bannerOf libraryProgram) none outcome]
        (.ok ⟨version, libraryIn outcome, job.host.pointerWidth, directory⟩)

theorem runs_of_library {exchanges : List Exchange} {version : Option LibraryVersion}
    (h : Yields library exchanges version) :
    ∃ outcome, runsIn exchanges = [.captured (bannerOf libraryProgram) none outcome]
      ∧ shownIn exchanges = "" ∧ version = libraryIn outcome := by
  unfold library at h
  obtain ⟨_, outcome, _, rfl, captured, ends⟩ := yields_bind.mp h
  obtain rfl := yields_capture.mp captured
  refine ⟨outcome, ?_⟩
  cases outcome with
  | ok output =>
    obtain ⟨_, _, _, rfl, logged, done⟩ := yields_bind.mp ends
    obtain ⟨rfl, rfl⟩ := yields_pure.mp done
    simp [quiet_of_log logged, libraryIn]
  | error reason =>
    obtain ⟨_, _, _, rfl, logged, done⟩ := yields_bind.mp ends
    obtain ⟨rfl, rfl⟩ := yields_pure.mp done
    simp [quiet_of_log logged, libraryIn]

theorem quiet_of_firstDirectory {paths : List String} {exchanges : List Exchange}
    {found : Option String} (h : Yields (firstDirectory paths) exchanges found) :
    Quiet exchanges ∧ ∀ path ∈ found, path ∈ paths := by
  induction paths generalizing exchanges with
  | nil =>
    obtain ⟨rfl, rfl⟩ := yields_pure.mp h
    exact ⟨.nil, by simp⟩
  | cons path rest ih =>
    unfold firstDirectory at h
    obtain ⟨_, answer, _, rfl, asked, continues⟩ := yields_bind.mp h
    cases answer with
    | true =>
      obtain ⟨rfl, rfl⟩ := yields_pure.mp continues
      exact ⟨(quiet_of_isDirectory asked).append .nil, by simp⟩
    | false =>
      obtain ⟨quiet, among⟩ := ih continues
      exact ⟨(quiet_of_isDirectory asked).append quiet,
        fun path member => List.mem_cons_of_mem _ (among path member)⟩

theorem probing_of_toolchain {job : Build.Job} {config : Config} {exchanges : List Exchange}
    {result : Except BuildError Toolchain}
    (h : Yields (toolchain config.compiler job.host.pointerWidth
      (needsLibrary config job.host.pointerWidth) job.environment.resourceRoot) exchanges result) :
    Probing job config (runsIn exchanges) result ∧ shownIn exchanges = "" := by
  unfold toolchain at h
  obtain ⟨_, outcome, _, rfl, captured, continues⟩ := yields_bind.mp h
  obtain rfl := yields_capture.mp captured
  cases outcome with
  | error reason =>
    obtain ⟨_, _, _, rfl, logged, done⟩ := yields_bind.mp continues
    obtain ⟨rfl, rfl⟩ := yields_pure.mp done
    simpa [quiet_of_log logged] using Probing.missing reason
  | ok banner =>
    obtain ⟨_, _, _, rfl, logged, reads⟩ := yields_bind.mp continues
    cases read : CompilerVersion.parse? banner.text with
    | none =>
      rw [read] at reads
      obtain ⟨rfl, rfl⟩ := yields_pure.mp reads
      simpa [quiet_of_log logged] using Probing.unread banner read
    | some version =>
      rw [read] at reads
      cases needed : needsLibrary config job.host.pointerWidth with
      | false =>
        simp only [needed] at reads
        obtain ⟨_, _, _, rfl, nothing, searches⟩ := yields_bind.mp reads
        obtain ⟨rfl, rfl⟩ := yields_pure.mp nothing
        obtain ⟨_, directory, _, rfl, searched, done⟩ := yields_bind.mp searches
        obtain ⟨rfl, rfl⟩ := yields_pure.mp done
        obtain ⟨quiet, found⟩ := quiet_of_firstDirectory searched
        simpa [quiet_of_log logged, quiet] using
          Probing.compiler banner version directory read needed found
      | true =>
        simp only [needed, if_true] at reads
        obtain ⟨_, known, _, rfl, asked, searches⟩ := yields_bind.mp reads
        obtain ⟨_, directory, _, rfl, searched, done⟩ := yields_bind.mp searches
        obtain ⟨rfl, rfl⟩ := yields_pure.mp done
        obtain ⟨quiet, found⟩ := quiet_of_firstDirectory searched
        obtain ⟨outcome, runs, shown, rfl⟩ := runs_of_library asked
        simpa [quiet_of_log logged, quiet, runs, shown] using
          Probing.withLibrary banner version directory outcome read needed found

end Probe

namespace Build

/-- When the other compiler is asked after an attempt without messages. -/
structure CrossChecks (job : Job) (config : Config) : Prop where
  installed : job.host.alternateCompiler.isSome = true
  different : Text.occursIn crossChecker.toList config.compiler.toList = false
  onlySources : config.otherInputs = false

/-- What the other compiler says is shown if it says something, and not about an option. -/
def WorthShowing (text : String) : Prop :=
  text ≠ "" ∧ Text.occursIn optionComplaint text.toList = false

instance (text : String) : Decidable (WorthShowing text) := by
  unfold WorthShowing
  infer_instance

/-- From the output of the last instrumented compile to the end: the commands that are run, what is
shown, and the result. -/
inductive Ending (job : Job) (config : Config) (last : Output) :
    List Run → String → Except BuildError Int → Prop
  | reported {runs : List Run} {shown : String} (speaks : last.text ≠ "")
      (showing : Showing job.explainer config last.text runs shown) :
      Ending job config last runs shown (.ok last.status)
  | failed (silent : last.text = "") (failure : last.status ≠ 0) :
      Ending job config last [] "" (.ok last.status)
  | unchecked (silent : last.text = "") (success : last.status = 0)
      (skips : ¬ CrossChecks job config) : Ending job config last [] "" (.ok 0)
  | checkerMissing (silent : last.text = "") (success : last.status = 0)
      (checks : CrossChecks job config) (reason : String) :
      Ending job config last [.captured (crossCheckCommand config) none (.error reason)] ""
        (.error (.launch crossChecker reason))
  | dropped (silent : last.text = "") (success : last.status = 0)
      (checks : CrossChecks job config) (opinion : Output)
      (worthless : ¬ WorthShowing opinion.text) :
      Ending job config last [.captured (crossCheckCommand config) none (.ok opinion)] "" (.ok 0)
  | advised {runs : List Run} {shown : String} (silent : last.text = "")
      (success : last.status = 0) (checks : CrossChecks job config) (opinion : Output)
      (worth : WorthShowing opinion.text)
      (showing : Showing job.explainer config opinion.text runs shown) :
      Ending job config last
        (.captured (crossCheckCommand config) none (.ok opinion) :: runs) shown (.ok 0)

theorem crossChecks_iff (job : Job) (config : Config) :
    CrossChecks job config ↔
      (job.host.alternateCompiler.isNone
        || Text.occursIn crossChecker.toList config.compiler.toList || config.otherInputs)
        = false := by
  constructor
  · rintro ⟨installed, different, onlySources⟩
    cases found : job.host.alternateCompiler with
    | none => simp [found] at installed
    | some path => simp [different, onlySources]
  · intro h
    simp only [Bool.or_eq_false_iff, Option.isNone_eq_false_iff] at h
    exact ⟨h.1.1, h.1.2, h.2⟩

@[simp] theorem program_crossCheckCommand (config : Config) :
    (crossCheckCommand config).program = crossChecker := rfl

theorem ending_of_crossCheck {job : Job} {config : Config} {last : Output}
    (silent : last.text = "") (success : last.status = 0) {exchanges : List Exchange}
    {checked : Except BuildError Unit} (h : Yields (crossCheck job config) exchanges checked) :
    Ending job config last (runsIn exchanges) (shownIn exchanges) (checked.map fun _ => 0) := by
  unfold crossCheck at h
  by_cases checks : CrossChecks job config
  · rw [(crossChecks_iff job config).mp checks] at h
    simp only [Bool.false_eq_true, if_false] at h
    obtain ⟨first, _, _, rfl, announced, logs⟩ := yields_bind.mp h
    obtain ⟨second, _, _, rfl, logged, asks⟩ := yields_bind.mp logs
    obtain ⟨_, outcome, _, rfl, captured, ends⟩ := yields_bind.mp asks
    obtain rfl := yields_capture.mp captured
    cases outcome with
    | error reason =>
      obtain ⟨rfl, rfl⟩ := yields_pure.mp ends
      simpa [Except.map, quiet_of_log announced, quiet_of_log logged] using
        Ending.checkerMissing silent success checks reason
    | ok opinion =>
      by_cases worth : WorthShowing opinion.text
      · have shows : (decide (opinion.text ≠ "")
            && !Text.occursIn optionComplaint opinion.text.toList) = true := by
          simp [worth.1, worth.2]
        simp only [shows, if_true] at ends
        obtain ⟨_, _, _, rfl, reported, done⟩ := yields_bind.mp ends
        obtain ⟨rfl, rfl⟩ := yields_pure.mp done
        simpa [Except.map, quiet_of_log announced, quiet_of_log logged] using
          Ending.advised silent success checks opinion worth (showing_of_report reported)
      · have hides : ¬ (decide (opinion.text ≠ "")
            && !Text.occursIn optionComplaint opinion.text.toList) = true := by
          simpa [WorthShowing] using worth
        simp only [if_neg hides] at ends
        obtain ⟨rfl, rfl⟩ := yields_pure.mp ends
        simpa [Except.map, quiet_of_log announced, quiet_of_log logged] using
          Ending.dropped silent success checks opinion worth
  · have skips := mt (crossChecks_iff job config).mpr checks
    rw [Bool.not_eq_false] at skips
    rw [skips] at h
    obtain ⟨rfl, rfl⟩ := yields_pure.mp h
    exact .unchecked silent success checks

theorem ending_of_conclude {job : Job} {config : Config} {last : Output}
    {exchanges : List Exchange} {result : Except BuildError Int}
    (h : Yields (conclude job config last) exchanges result) :
    Ending job config last (runsIn exchanges) (shownIn exchanges) result := by
  unfold conclude at h
  by_cases silent : last.text = ""
  · simp only [silent, ne_eq, not_true_eq_false, if_false] at h
    by_cases success : last.status = 0
    · simp only [Output.succeeded, success, beq_self_eq_true, Bool.not_true, Bool.false_eq_true,
        if_false] at h
      obtain ⟨checks, checked, _, rfl, crossChecked, done⟩ := yields_bind.mp h
      have ending := ending_of_crossCheck silent success crossChecked
      cases checked with
      | ok nothing =>
        obtain ⟨rfl, rfl⟩ := yields_pure.mp done
        simpa [Except.map] using ending
      | error error =>
        obtain ⟨rfl, rfl⟩ := yields_pure.mp done
        simpa [Except.map] using ending
    · simp only [Output.succeeded, beq_eq_false_iff_ne.mpr success, Bool.not_false, if_true] at h
      obtain ⟨rfl, rfl⟩ := yields_pure.mp h
      exact .failed silent success
  · simp only [ne_eq, silent, not_false_eq_true, if_true] at h
    obtain ⟨shows, _, _, rfl, reported, done⟩ := yields_bind.mp h
    obtain ⟨rfl, rfl⟩ := yields_pure.mp done
    simpa using Ending.reported silent (showing_of_report reported)

/-- Compiling with a wrapper to the end of the build: at most one more attempt, without the flags
that check for undefined behaviour, and its output alone counts then. -/
inductive Compiling (job : Job) (config : Config) (command : Command) (source : String) :
    List Run → String → Except BuildError Int → Prop
  | missing (reason : String) :
      Compiling job config command source [.captured command (some source) (.error reason)] ""
        (.error (.launch command.program reason))
  | linked {runs : List Run} {shown : String} {result : Except BuildError Int} (last : Output)
      (links : Text.occursIn unlinked last.text.toList = false)
      (ending : Ending job config last runs shown result) :
      Compiling job config command source
        (.captured command (some source) (.ok last) :: runs) shown result
  | missingAgain (first : Output) (unlinks : Text.occursIn unlinked first.text.toList = true)
      (reason : String) :
      Compiling job config command source
        [.captured command (some source) (.ok first),
          .captured (command.without undefinedFlags) (some source) (.error reason)] ""
        (.error (.launch command.program reason))
  | retried {runs : List Run} {shown : String} {result : Except BuildError Int}
      (first last : Output) (unlinks : Text.occursIn unlinked first.text.toList = true)
      (ending : Ending job config last runs shown result) :
      Compiling job config command source
        (.captured command (some source) (.ok first)
          :: .captured (command.without undefinedFlags) (some source) (.ok last) :: runs)
        shown result

@[simp] theorem program_without (command : Command) (unwanted : List String) :
    (command.without unwanted).program = command.program := rfl

theorem compiling_of_compile {job : Job} {config : Config} {command : Command} {source : String}
    {exchanges : List Exchange} {result : Except BuildError Int}
    (h : Yields (compile job config command source) exchanges result) :
    Compiling job config command source (runsIn exchanges) (shownIn exchanges) result := by
  unfold compile at h
  obtain ⟨_, outcome, rest, rfl, captured, continues⟩ := yields_bind.mp h
  obtain rfl := yields_capture.mp captured
  cases outcome with
  | error reason =>
    obtain ⟨rfl, rfl⟩ := yields_pure.mp continues
    simpa using Compiling.missing reason
  | ok first =>
    by_cases unlinks : Text.occursIn unlinked first.text.toList = true
    · simp only [unlinks, if_true] at continues
      obtain ⟨_, _, _, rfl, logged, again⟩ := yields_bind.mp continues
      obtain ⟨_, outcome, _, rfl, captured, ends⟩ := yields_bind.mp again
      obtain rfl := yields_capture.mp captured
      cases outcome with
      | error reason =>
        obtain ⟨rfl, rfl⟩ := yields_pure.mp ends
        simpa [quiet_of_log logged] using Compiling.missingAgain first unlinks reason
      | ok last =>
        simpa [quiet_of_log logged] using
          Compiling.retried first last unlinks (ending_of_conclude ends)
    · simp only [if_neg unlinks] at continues
      simpa using Compiling.linked first (by simpa using unlinks) (ending_of_conclude continues)

end Build

end CheckedBuild
