import CheckedBuild.Proofs.Build.Arguments
import CheckedBuild.Proofs.Wrapper.Filling

/-!
# Agreement of the wrapper with the flags

The flags of an instrumented compile and the wrapper that it reads are made apart from each other,
but from one configuration, the one that the host left. So what the wrapper says about the checker,
about the user's `main` and about the embedded sources is what the command does. The user's own
arguments are not looked at: they may ask for a checker that the wrapper knows nothing about.
-/

namespace CheckedBuild

open Program Instrumentation Build Wrapper

namespace Wrapper

/-- The field that tells whether a program is built for a checker. -/
def Field.tells : Sanitizer → Field
  | .address => .sanitizerIsAddress
  | .memory => .sanitizerIsMemory
  | .valgrind => .sanitizerIsValgrind

/-- The field is filled with a one. -/
def Told (value : Field → List Char) (field : Field) : Prop := value field = ['1']

/-- What sets a buffer's size in the monitor. -/
def sizing : List Char := "bufsize=".toList

/-- The text sets a size just once, and it is this one. -/
def Sizes (size : Nat) (text : List Char) : Prop :=
  ∃ before after, text = before ++ sizing ++ Nat.toDigits 10 size ++ ',' :: after
    ∧ ¬ sizing <:+: before ∧ ¬ sizing <:+: after

theorem flag_eq_one_iff {on : Bool} : flag on = ['1'] ↔ on = true := by
  cases on <;> decide

theorem told_tells_iff {values : Values} (checker : Sanitizer) :
    Told values.value (Field.tells checker) ↔ values.config.sanitizer = checker := by
  cases checker <;> exact flag_eq_one_iff.trans decide_eq_true_iff

theorem told_noWrapMain_iff {values : Values} :
    Told values.value .noWrapMain ↔ values.config.interception = .disabled :=
  flag_eq_one_iff.trans decide_eq_true_iff

theorem told_embedSource_iff {values : Values} :
    Told values.value .embedSource ↔ values.archive.isSome = true :=
  flag_eq_one_iff

/-- A text in six parts around a number, of which those beside the number are cut once more. -/
theorem append_around {one two three number four five six before mark after : List Char} {c : Char}
    (opens : three = before ++ mark) (closes : four = c :: after) :
    one ++ two ++ three ++ number ++ four ++ five ++ six
      = (one ++ two ++ before) ++ mark ++ number ++ c :: (after ++ five ++ six) := by
  simp [opens, closes]

theorem sizes_monitorCommand {values : Values} {bytes : Bytes}
    (packed : values.archive = some bytes) : Sizes bytes.length (monitorCommand values) := by
  have opens : "    tarfile.open(fileobj=sys.stdin.buffer, bufsize=".toList
      = "    tarfile.open(fileobj=sys.stdin.buffer, ".toList ++ sizing := by decide +kernel
  have closes : ", mode='r|gz').extractall(temp_dir)\\n\\\n".toList
      = ',' :: " mode='r|gz').extractall(temp_dir)\\n\\\n".toList := by decide +kernel
  simp only [monitorCommand, packed]
  refine ⟨_, _, append_around opens closes, ?_, ?_⟩
  · decide +kernel
  · decide +kernel

end Wrapper

/-! ## Flags -/

namespace Instrumentation

theorem mainFlag_eq_none_iff {interception : Interception} :
    mainFlag interception = none ↔ interception = .disabled := by
  cases interception <;> decide

/-- Main functions get their name in the wrapper from the way they are intercepted. -/
theorem mainSymbol_eq_main_iff {interception : Interception} :
    mainSymbol interception = "main" ↔ mainFlag interception = some "-Dmain=__real_main" := by
  cases interception <;> decide

theorem sanitizer_ne_memory_of_substitute {config settled : Config} {host : Host}
    (substituted : substitute config host = .ok settled) (narrow : host.pointerWidth = .bits32) :
    settled.sanitizer ≠ .memory := by
  unfold substitute at substituted
  split at substituted
  · split at substituted
    · cases substituted
      simp
    · cases substituted
  · next kept =>
    cases substituted
    exact fun memory => kept ⟨memory, narrow⟩

end Instrumentation

/-! ## The wrapper of a run -/

namespace Build

/-- What a wrapper is filled with agrees with the flags of a plan for the same configuration. The
archive is that of the sources in a tree that was shown. -/
structure Agrees (job : Job) (shows : SourceTree → Prop) (config : Config) (plan : Plan)
    (value : Wrapper.Field → List Char) : Prop where
  named : value .sanitizer = config.sanitizer.name.toList
  only : ∀ checker, Told value (.tells checker) ↔ checker = config.sanitizer
  address : "-fsanitize=address" ∈ plan.sanitizerFlags ↔ Told value .sanitizerIsAddress
  memory : "-fsanitize=memory" ∈ plan.sanitizerFlags ↔ Told value .sanitizerIsMemory
  narrow : job.host.pointerWidth = .bits32 → ¬ Told value .sanitizerIsMemory
  untouched : Told value .noWrapMain ↔ plan.mainFlag = none
  symbol : value .mainSymbol = "main".toList ↔ plan.mainFlag = some "-Dmain=__real_main"
  embeds : Told value .embedSource ↔ config.embedSource = true
  packed : config.embedSource = true → ∃ tree bytes, shows tree
    ∧ (embed tree job.environment.helperDirectory config.sources).1 = .ok bytes
    ∧ value .embeddedArchive = Archive.listing bytes ∧ Sizes bytes.length (value .monitor)
  unpacked : config.embedSource = false → value .embeddedArchive = []
    ∧ value .monitor = Text.literal (Path.fromHome job.environment.driverPath).toList
      ++ " --watch-stdin-for-valgrind-errors".toList

theorem Archived.isSome_iff {job : Job} {config : Config} {shows : SourceTree → Prop}
    {archive : Option Bytes} (archived : Archived job config shows archive) :
    archive.isSome = true ↔ config.embedSource = true := by
  cases archived with
  | unwanted off => simp [off]
  | packed tree bytes wanted shown embeds => simp [wanted]

theorem Archived.exists_tree {job : Job} {config : Config} {shows : SourceTree → Prop}
    {bytes : Bytes} (archived : Archived job config shows (some bytes)) :
    ∃ tree, shows tree
      ∧ (embed tree job.environment.helperDirectory config.sources).1 = .ok bytes := by
  cases archived with
  | packed tree bytes wanted shown embeds => exact ⟨tree, shown, embeds⟩

theorem agrees_of_archived {job : Job} {shows : SourceTree → Prop} (values : Values)
    (settled : substitute job.config job.host = .ok values.config)
    (driver : values.driverPath = Path.fromHome job.environment.driverPath)
    (archived : Archived job values.config shows values.archive) (toolchain : Toolchain) :
    Agrees job shows values.config (plan values.config toolchain) values.value where
  named := rfl
  only checker := (told_tells_iff checker).trans eq_comm
  address := (mem_sanitizerFlags_iff rfl).trans (told_tells_iff .address).symm
  memory := (mem_sanitizerFlags_iff rfl).trans (told_tells_iff .memory).symm
  narrow narrow told :=
    sanitizer_ne_memory_of_substitute settled narrow ((told_tells_iff .memory).mp told)
  untouched := told_noWrapMain_iff.trans mainFlag_eq_none_iff.symm
  symbol := String.toList_inj.trans mainSymbol_eq_main_iff
  embeds := told_embedSource_iff.trans archived.isSome_iff
  packed wanted := by
    obtain ⟨bytes, packed⟩ := Option.isSome_iff_exists.mp (archived.isSome_iff.mpr wanted)
    have listed : values.value .embeddedArchive = Archive.listing bytes := by
      rw [Values.value, packed]
      rfl
    rw [packed] at archived
    obtain ⟨tree, shown, embeds⟩ := archived.exists_tree
    exact ⟨tree, bytes, shown, embeds, listed, sizes_monitorCommand packed⟩
  unpacked off := by
    have absent : values.archive = none := by
      rw [← Option.not_isSome_iff_eq_none, archived.isSome_iff, off]
      decide
    rw [Values.value, Values.value, monitorCommand, absent, driver]
    exact ⟨rfl, rfl⟩

/-- The instrumented compiles of a course read one wrapper, made for its configuration. -/
theorem wrappedIn_of_course {job : Job} {shows : SourceTree → Prop} {runs : List Run}
    {shown : String} {result : Except BuildError Int}
    (course : Course job shows runs shown result) :
    wrappedIn runs = [] ∨ ∃ config toolchain source rest,
      substitute job.config job.host = .ok config ∧ Wrapped job config toolchain shows source
        ∧ wrappedIn runs = (primaryCommand config (plan config toolchain), source) :: rest
        ∧ (rest = [] ∨ rest =
          [((primaryCommand config (plan config toolchain)).without undefinedFlags, source)]) := by
  cases course with
  | unsupported fails => exact Or.inl rfl
  | unprobed settled probing => exact Or.inl (wrappedIn_of_none (compilesIn_of_probing probing))
  | onlyCompiles settled probing only outcome =>
    exact Or.inl (wrappedIn_of_none
      (compilesIn_concat_inherited (compilesIn_of_probing probing) _ _))
  | @links config probes runs toolchain source _ _ settled probing links wrapped compiling =>
    rw [wrappedIn_append, wrappedIn_of_none (compilesIn_of_probing probing), List.nil_append]
    refine Or.inr ⟨config, toolchain, source, ?_⟩
    rcases wrappedIn_of_compiling (marked_primaryCommand _ _) compiling with once | twice
    · exact ⟨[], settled, wrapped, once, Or.inl rfl⟩
    · exact ⟨_, settled, wrapped, twice, Or.inr rfl⟩

theorem wrappedIn_of_unwrapped {job : Job} {shows : SourceTree → Prop} {runs : List Run}
    {shown : String} {result : Except BuildError Int}
    (unwrapped : Unwrapped job shows runs shown result) : wrappedIn runs = [] := by
  cases unwrapped with
  | unstored settled probing links unstored =>
    exact wrappedIn_of_none (compilesIn_of_probing probing)

/-- Whatever its surroundings answer, a build whose first instrumented compile is this one fills its
wrapper for the configuration from which the flags are made, and the two agree. A second compile
reads the same wrapper. -/
theorem agreement_execute {σ : Type} (job : Job) (world : World σ) (state : σ) {command : Command}
    {source : String} {rest : List (Command × String)}
    (compiles : wrappedIn ((carryOut job).execute world state).runs = (command, source) :: rest) :
    (∃ (values : Values) (toolchain : Toolchain) (segments : List Segment) (tail : List Char),
        substitute job.config job.host = .ok values.config
        ∧ command = primaryCommand values.config (plan values.config toolchain)
        ∧ Cut template.toList segments tail ∧ Filling values.value segments tail (.ok source)
        ∧ Agrees job (ShowsTree ((carryOut job).execute world state).exchanges) values.config
          (plan values.config toolchain) values.value)
      ∧ (rest = [] ∨ rest = [(command.without undefinedFlags, source)]) := by
  have made := yields_execute world state (carryOut job)
  rw [Execution.runs] at compiles
  generalize (carryOut job).execute world state = execution at made compiles
  rcases course_or_unwrapped job made with course | unwrapped
  · rcases wrappedIn_of_course course with
      none | ⟨config, toolchain, text, others, settled, wrapped, all, again⟩
    · rw [none] at compiles
      cases compiles
    · rw [all] at compiles
      cases compiles
      obtain ⟨archive, archived, rendered⟩ := wrapped
      obtain ⟨segments, tail, cut⟩ := exists_cut template.toList
      exact ⟨⟨_, toolchain, segments, tail, settled, rfl, cut, (fill_eq_iff cut _ _).mp rendered,
        agrees_of_archived _ settled rfl archived toolchain⟩, again⟩
  · rw [wrappedIn_of_unwrapped unwrapped] at compiles
    cases compiles

/-- The example, where the checks cannot be linked: both compiles read one wrapper, which agrees
with the flags. -/
theorem agreement_execute_of_unlinked :
    let job := exampleJobOf (exampleJob false).config
    let execution := (carryOut job).execute (answering .empty) unlinkedAnswers
    ∃ (command : Command) (source : String) (values : Values) (toolchain : Toolchain)
      (segments : List Segment) (tail : List Char),
      wrappedIn execution.runs = [(command, source), (command.without undefinedFlags, source)]
      ∧ substitute job.config job.host = .ok values.config
      ∧ command = primaryCommand values.config (plan values.config toolchain)
      ∧ Cut template.toList segments tail ∧ Filling values.value segments tail (.ok source)
      ∧ Agrees job (ShowsTree execution.exchanges) values.config (plan values.config toolchain)
        values.value := by
  intro job execution
  obtain ⟨before, command, source, after, marked, runs⟩ :=
    @exists_runs_exampleJobOf (exampleJob false).config rfl
  have twice : 2 ≤ (wrappedIn execution.runs).length := by
    rw [runs, wrappedIn_append, wrappedIn_cons marked, wrappedIn_cons (marked_without marked)]
    simp only [List.length_append, List.length_cons]
    omega
  match compiles : wrappedIn execution.runs with
  | [] =>
    rw [compiles] at twice
    cases twice
  | (first, text) :: rest =>
    rw [compiles] at twice
    obtain ⟨⟨values, toolchain, segments, tail, agreement⟩, rfl | rfl⟩ :=
      agreement_execute job (answering .empty) unlinkedAnswers compiles
    · exact absurd twice (by simp)
    · exact ⟨first, text, values, toolchain, segments, tail, rfl, agreement⟩

end Build

end CheckedBuild
