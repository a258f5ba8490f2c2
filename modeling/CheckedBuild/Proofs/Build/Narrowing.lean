import CheckedBuild.Proofs.Build.Parallel

/-!
# What the C library's version can change

At most one command of a build depends on the C library, and only where the compiler is old and the
library may be recent: with a recent library the flags that the build adds to check for undefined
behaviour are missing from it. Which of two libraries is told makes no other difference, neither to
the commands nor to the result.
-/

namespace CheckedBuild

open Program Instrumentation Build

/-- The version of the compiler that its banner told. -/
def compilerTold? (config : Config) (runs : List Run) : Option CompilerVersion :=
  (outcomeOf (Probe.bannerOf config.compiler) none runs).bind Probe.versionIn

/-- The version of the C library that its banner told. The compiler's banner comes before it,
whatever the compiler is called. -/
def libraryTold? (runs : List Run) : Option LibraryVersion :=
  (outcomeOf (Probe.bannerOf Probe.libraryProgram) none (runs.drop 1)).bind Probe.libraryIn

/-- The C library is known to be one that old compilers cannot link the checks with. -/
def TellsRecentLibrary (runs : List Run) : Prop :=
  ∃ version ∈ libraryTold? runs, version.atLeast 2 27 = true

/-- A call without the arguments of its command. -/
def Call.frame (call : Call) : String × Bool × Option String :=
  (call.command.program, call.captured, call.input)

/-- The flags that check for undefined behaviour, for a compiler of this version. -/
def undefinedFlagsOf (version : CompilerVersion) : List String :=
  if version.atLeast 3 6 then undefinedFlags else undefinedFlags.take 1

/-- The command of a build that carries its flags, with the given ones for undefined behaviour. -/
def commandWith (config : Config) (toolchain : Toolchain) (checks : List String) : Command :=
  let plan := { plan config toolchain with
    sanitizerFlags := checkerFlags config.sanitizer ++ checks ++ runtimeFlags config toolchain }
  if config.compileOnly then compileCommand config plan else primaryCommand config plan

/-- Two builds with the same calls but one, from which the flags that the first build adds to check
for undefined behaviour are missing in the second. The C library of the second is known to be
recent, that of the first is not, and the compiler is old. -/
structure Spares (config : Config) (wide narrow : List Run) : Prop where
  old : ∃ version ∈ compilerTold? config narrow, version.atLeast 6 0 = false
  recent : TellsRecentLibrary narrow ∧ ¬ TellsRecentLibrary wide
  calls : ∃ (toolchain : Toolchain) (before after : List Call) (captured : Bool)
      (input : Option String),
    compilerTold? config narrow = some toolchain.compiler
      ∧ wide.map Run.call = before
        ++ ⟨commandWith config toolchain (undefinedFlagsOf toolchain.compiler), captured, input⟩
          :: after
      ∧ narrow.map Run.call = before ++ ⟨commandWith config toolchain [], captured, input⟩ :: after

/-! ## Flags and versions -/

theorem undefinedFlagsFor_of_works {config : Config} {toolchain : Toolchain}
    (checker : config.sanitizer ≠ .memory) (works : worksAround config toolchain = false) :
    undefinedFlagsFor config toolchain = undefinedFlagsOf toolchain.compiler := by
  simp [undefinedFlagsFor, undefinedFlagsOf, checker, works]

theorem undefinedFlagsFor_of_worksAround {config : Config} {toolchain : Toolchain}
    (works : worksAround config toolchain = true) : undefinedFlagsFor config toolchain = [] := by
  simp [undefinedFlagsFor, works]

/-- Where the C library matters, the checks are left out for a recent one and an old compiler. -/
theorem worksAround_of_needed {config : Config} {toolchain : Toolchain}
    (needed : needsLibrary config toolchain.pointerWidth = true)
    (library : Option LibraryVersion) :
    worksAround config { toolchain with library } =
      (library.any (·.atLeast 2 27) && !toolchain.compiler.atLeast 6 0) := by
  simp [worksAround, needed]

/-- Of a build's own command only the flags for undefined behaviour depend on the C library. -/
theorem mainCommand_eq_commandWith (config : Config) (toolchain : Toolchain)
    (library : Option LibraryVersion) :
    mainCommand config { toolchain with library } =
      commandWith config toolchain (undefinedFlagsFor config { toolchain with library }) := by
  unfold mainCommand commandWith
  split <;> rfl

theorem mainCommand_eq_of_worksAround {config : Config} {toolchain : Toolchain}
    {library library' : Option LibraryVersion}
    (same : worksAround config { toolchain with library }
      = worksAround config { toolchain with library := library' }) :
    mainCommand config { toolchain with library }
      = mainCommand config { toolchain with library := library' } := by
  rw [mainCommand_eq_commandWith, mainCommand_eq_commandWith, undefinedFlagsFor, undefinedFlagsFor,
    same]

theorem compilerTold?_questions (config : Config) (banner library : Except String Output)
    (rest : List Run) :
    compilerTold? config (Probe.questions config banner library ++ rest)
      = Probe.versionIn banner := by
  simp [compilerTold?, Probe.questions, outcomeOf, Run.outcomeOf?]

theorem tellsRecentLibrary_questions (config : Config) (banner library : Except String Output)
    (rest : List Run) :
    TellsRecentLibrary (Probe.questions config banner library ++ rest) ↔
      (Probe.libraryIn library).any (·.atLeast 2 27) = true := by
  simp [TellsRecentLibrary, libraryTold?, Probe.questions, outcomeOf, Run.outcomeOf?,
    Option.any_eq_true]

theorem calls_questions (config : Config) (banner library library' : Except String Output) :
    (Probe.questions config banner library).map Run.call
      = (Probe.questions config banner library').map Run.call := rfl

/-! ## Builds in lockstep -/

theorem Parallel.calls_cases {command command' : Command} {runs runs' : List Run}
    (parallel : Parallel command command' runs runs') :
    runs.map Run.call = runs'.map Run.call
      ∨ ∃ captured input after, runs.map Run.call = ⟨command, captured, input⟩ :: after
        ∧ runs'.map Run.call = ⟨command', captured, input⟩ :: after := by
  cases parallel with
  | nothing => exact Or.inl rfl
  | captured input outcome rest => exact Or.inr ⟨true, input, rest.map Run.call, rfl, rfl⟩
  | inherited outcome => exact Or.inr ⟨false, none, [], rfl, rfl⟩

section

variable {job : Job} {one other : List Run}

/-- With a library that the checks can be left out for, in the second build only, its command is
without their flags. -/
theorem spares_of_parallel {config : Config} {toolchain : Toolchain}
    {banner outcome outcome' : Except String Output} {rest rest' : List Run}
    (needed : needsLibrary config toolchain.pointerWidth = true)
    (read : Probe.versionIn banner = some toolchain.compiler)
    (checks : worksAround config { toolchain with library := Probe.libraryIn outcome } = false)
    (works : worksAround config { toolchain with library := Probe.libraryIn outcome' } = true)
    {captured : Bool} {input : Option String} {after : List Call}
    (wide : rest.map Run.call =
      ⟨mainCommand config { toolchain with library := Probe.libraryIn outcome }, captured, input⟩
        :: after)
    (narrow : rest'.map Run.call =
      ⟨mainCommand config { toolchain with library := Probe.libraryIn outcome' }, captured, input⟩
        :: after) :
    Spares config (Probe.questions config banner outcome ++ rest)
      (Probe.questions config banner outcome' ++ rest') := by
  have told : compilerTold? config (Probe.questions config banner outcome' ++ rest')
      = some toolchain.compiler := (compilerTold?_questions config banner _ _).trans read
  have checker : config.sanitizer ≠ .memory := by
    intro memory
    simp [needsLibrary, memory] at needed
  rw [mainCommand_eq_commandWith, undefinedFlagsFor_of_works checker checks] at wide
  rw [mainCommand_eq_commandWith, undefinedFlagsFor_of_worksAround works] at narrow
  rw [worksAround_of_needed needed] at checks works
  obtain ⟨recent, old⟩ := Bool.and_eq_true_iff.mp works
  rw [old, Bool.and_true] at checks
  refine ⟨⟨_, told, by simpa using old⟩, ⟨?_, ?_⟩, toolchain,
    (Probe.questions config banner outcome).map Run.call, after, captured, input, told, ?_, ?_⟩
  · exact (tellsRecentLibrary_questions config banner outcome' rest').mpr recent
  · rw [tellsRecentLibrary_questions, checks]
    exact Bool.false_ne_true
  · rw [List.map_append, wide]
  · rw [List.map_append, narrow, calls_questions config banner outcome' outcome]

theorem Lockstep.frames (lockstep : Lockstep job one other) :
    (one.map Run.call).map Call.frame = (other.map Run.call).map Call.frame := by
  cases lockstep with
  | same runs => rfl
  | probed banner toolchain outcome outcome' needed read parallel =>
    simp only [List.map_append, calls_questions job.config banner outcome outcome']
    rcases parallel.calls_cases with same | ⟨captured, input, after, here, there⟩
    · rw [same]
    · simp [here, there, Call.frame]

theorem Lockstep.compilerTold?_eq (lockstep : Lockstep job one other) :
    compilerTold? job.config one = compilerTold? job.config other := by
  cases lockstep with
  | same runs => rfl
  | probed banner toolchain outcome outcome' needed read parallel =>
    rw [compilerTold?_questions, compilerTold?_questions]

/-- Either all commands are the same, or one build is without flags of the other. -/
theorem Lockstep.calls_cases (lockstep : Lockstep job one other) :
    one.map Run.call = other.map Run.call
      ∨ Spares job.config one other ∨ Spares job.config other one := by
  cases lockstep with
  | same runs => exact Or.inl rfl
  | probed banner toolchain outcome outcome' needed read parallel =>
    have questions := calls_questions job.config banner outcome outcome'
    rcases parallel.calls_cases with same | ⟨captured, input, after, here, there⟩
    · left
      rw [List.map_append, List.map_append, questions, same]
    · by_cases equal : worksAround job.config { toolchain with library := Probe.libraryIn outcome }
          = worksAround job.config { toolchain with library := Probe.libraryIn outcome' }
      · left
        rw [mainCommand_eq_of_worksAround equal] at here
        rw [List.map_append, List.map_append, questions, here, there]
      · right
        cases checks : worksAround job.config
            { toolchain with library := Probe.libraryIn outcome } with
        | false =>
          have works := Bool.of_not_eq_false fun checks' => equal (checks.trans checks'.symm)
          exact Or.inl (spares_of_parallel needed read checks works here there)
        | true =>
          have checks' := Bool.of_not_eq_true fun works => equal (checks.trans works.symm)
          exact Or.inr (spares_of_parallel needed read checks' checks there here)

/-- With a compiler that is not old, or two libraries that are both recent or both not, no command
is different. -/
theorem Lockstep.calls_eq (lockstep : Lockstep job one other)
    (indifferent : (∃ version ∈ compilerTold? job.config one, version.atLeast 6 0 = true)
      ∨ (TellsRecentLibrary one ↔ TellsRecentLibrary other)) :
    one.map Run.call = other.map Run.call := by
  have agree {wide narrow : List Run} (spares : Spares job.config wide narrow)
      (told : compilerTold? job.config one = compilerTold? job.config narrow)
      (libraries : (TellsRecentLibrary one ↔ TellsRecentLibrary other)
        → (TellsRecentLibrary wide ↔ TellsRecentLibrary narrow)) : False := by
    rcases indifferent with ⟨version, here, recent⟩ | same
    · obtain ⟨version', there, old⟩ := spares.old
      obtain rfl := Option.mem_unique (told ▸ here) there
      exact Bool.false_ne_true (old.symm.trans recent)
    · exact spares.recent.2 ((libraries same).mpr spares.recent.1)
  rcases lockstep.calls_cases with same | spares | spares
  · exact same
  · exact (agree spares lockstep.compilerTold?_eq id).elim
  · exact (agree spares rfl Iff.symm).elim

end

/-- Of two builds that are answered alike but for the banner of the C library, either one is without
flags of the other that check for undefined behaviour, in one command, or all commands are the same.
Their number, the programs, the inputs and the result are the same in any case. -/
theorem narrows_execute {σ τ : Type} (job : Job) (world : World σ) (state : σ) (world' : World τ)
    (state' : τ)
    (alike : AlikeButLibrary ((carryOut job).execute world state).exchanges
      ((carryOut job).execute world' state').exchanges) :
    let one := (carryOut job).execute world state
    let other := (carryOut job).execute world' state'
    one.result = other.result
      ∧ one.calls.map Call.frame = other.calls.map Call.frame
      ∧ (one.calls = other.calls ∨ Spares job.config one.runs other.runs
        ∨ Spares job.config other.runs one.runs)
      ∧ ((∃ version ∈ compilerTold? job.config one.runs, version.atLeast 6 0 = true)
          ∨ (TellsRecentLibrary one.runs ↔ TellsRecentLibrary other.runs) →
        one.calls = other.calls) := by
  intro one other
  obtain ⟨same, lockstep⟩ := lockstep_of_carryOut (yields_execute world state (carryOut job))
    (yields_execute world' state' (carryOut job)) alike
  rw [calls_eq_map one, calls_eq_map other]
  exact ⟨same, lockstep.frames, lockstep.calls_cases, lockstep.calls_eq⟩

/-- A build of one source without linking, where pointers have 32 bits. -/
def narrowJob : Job :=
  { exampleJob false with
    config := { (exampleJob false).config with compileOnly := true }
    host := ⟨.bits32, none, none⟩ }

theorem narrows_execute_of_old_compiler :
    let banner := .ok ⟨"clang version 5.0.0", 0⟩
    let one := (carryOut narrowJob).execute (answering .empty)
      [banner, .ok ⟨"ldd (GNU libc) 2.31", 0⟩, .ok ⟨"", 1⟩]
    let other := (carryOut narrowJob).execute (answering .empty)
      [banner, .error "not found", .ok ⟨"", 1⟩]
    one.result = other.result
      ∧ one.calls.map Call.frame = other.calls.map Call.frame
      ∧ (one.calls = other.calls ∨ Spares narrowJob.config one.runs other.runs
        ∨ Spares narrowJob.config other.runs one.runs)
      ∧ ((∃ version ∈ compilerTold? narrowJob.config one.runs, version.atLeast 6 0 = true)
          ∨ (TellsRecentLibrary one.runs ↔ TellsRecentLibrary other.runs) →
        one.calls = other.calls) :=
  narrows_execute narrowJob _ _ _ _ (alikeButLibrary_execute (by decide) .empty _ _ _ _)

example :
    let calls (library : Except String Output) := ((carryOut narrowJob).execute (answering .empty)
      [.ok ⟨"clang version 5.0.0", 0⟩, library, .ok ⟨"", 1⟩]).calls
    calls (.ok ⟨"ldd (GNU libc) 2.31", 0⟩) ≠ calls (.error "not found") := by
  decide

end CheckedBuild
