import CheckedBuild.Proofs.Build.Commands
import CheckedBuild.Proofs.Build.Stages
import CheckedBuild.Proofs.Program.Lockstep

/-!
# Builds that are told of different C libraries

Two builds that are answered alike, but for the banner of the C library, go the same way: they run
the same commands, but for the flags of one, with the same outcomes and to the same end. That
commands are answered in turn, whatever their flags, is part of being answered alike. Nothing is
said about log messages.
-/

namespace CheckedBuild

open Program Instrumentation Build

/-! ## Answers -/

/-- The run asks for the banner of the C library. -/
def Run.asksLibrary : Run → Bool
  | .captured command none _ => command = Probe.bannerOf Probe.libraryProgram
  | _ => false

/-- The commands that were run, the question for the banner of the C library left out. It is asked
right after the compiler's banner, if at all. -/
def otherRuns : List Run → List Run
  | first :: second :: rest => first :: if second.asksLibrary then rest else second :: rest
  | runs => runs

/-- Two exchanges in the same surroundings, whose commands were answered from one script, but for
the banner of the C library. -/
structure AlikeButLibrary (one other : List Exchange) : Prop where
  commands : ∃ script, Scripted script (otherRuns (runsIn one))
    ∧ Scripted script (otherRuns (runsIn other))
  others : SameSurroundings one other

theorem otherRuns_of_other {first second : Run} (other : second.asksLibrary = false)
    (rest : List Run) : otherRuns (first :: second :: rest) = first :: second :: rest := by
  simp [otherRuns, other]

theorem exists_otherRuns_cons (first : Run) (rest : List Run) :
    ∃ more, otherRuns (first :: rest) = first :: more := by
  cases rest <;> exact ⟨_, rfl⟩

theorem outcome_eq_of_otherRuns {script : List (Except String Output)} {command : Command}
    {input : Option String} {outcome outcome' : Except String Output} {rest rest' : List Run}
    (one : Scripted script (otherRuns (.captured command input outcome :: rest)))
    (other : Scripted script (otherRuns (.captured command input outcome' :: rest'))) :
    outcome = outcome' := by
  obtain ⟨_, begins⟩ := exists_otherRuns_cons (.captured command input outcome) rest
  obtain ⟨_, begins'⟩ := exists_otherRuns_cons (.captured command input outcome') rest'
  rw [begins] at one
  rw [begins'] at other
  exact one.outcome_eq other

/-! ## The command that may differ -/

/-- The command of a build that carries its flags. -/
def mainCommand (config : Config) (toolchain : Toolchain) : Command :=
  if config.compileOnly then compileCommand config (plan config toolchain)
  else primaryCommand config (plan config toolchain)

@[simp] theorem program_mainCommand (config : Config) (toolchain : Toolchain) :
    (mainCommand config toolchain).program = config.compiler := by
  unfold mainCommand
  split <;> rfl

/-- The retry is the same whatever is known about the C library. -/
theorem without_primaryCommand (config : Config) (toolchain : Toolchain)
    (library : Option LibraryVersion) :
    (primaryCommand config (plan config { toolchain with library })).without undefinedFlags =
      (primaryCommand config (plan config toolchain)).without undefinedFlags := by
  have dropped (toolchain : Toolchain) : (undefinedFlagsFor config toolchain).filter
      (fun argument => !undefinedFlags.contains argument) = [] := by
    refine List.filter_eq_nil_iff.mpr fun flag member => ?_
    simpa using mem_undefinedFlags_of_mem member
  simp only [Command.without, primaryCommand, plan, List.filter_append, dropped]
  rfl

/-- The same runs, but for the command of the first, if there is one. -/
inductive Parallel (command command' : Command) : List Run → List Run → Prop
  | nothing : Parallel command command' [] []
  | captured (input : Option String) (outcome : Except String Output) (rest : List Run) :
      Parallel command command' (.captured command input outcome :: rest)
        (.captured command' input outcome :: rest)
  | inherited (outcome : Except String Int) :
      Parallel command command' [.inherited command outcome] [.inherited command' outcome]

section

variable {job : Job} {config : Config} {exchanges exchanges' : List Exchange}
  {result result' : Except BuildError Int}

theorem parallel_of_compile {command command' : Command} {source : String}
    (named : command'.program = command.program)
    (again : command'.without undefinedFlags = command.without undefinedFlags)
    (one : Yields (compile job config command source) exchanges result)
    (other : Yields (compile job config command' source) exchanges' result')
    (alike : Alike exchanges exchanges') :
    result = result' ∧ Parallel command command' (runsIn exchanges) (runsIn exchanges') := by
  unfold compile at one other
  obtain ⟨outcome, rest, rest', runs, runs', ends, ends', alike⟩ :=
    exists_outcome_of_alike one other alike
  rw [runs, runs']
  -- from here on both builds are one program
  rw [named, again] at ends'
  obtain ⟨rfl, rfl⟩ := ends.unique_of_alike ends' alike
  exact ⟨rfl, .captured _ _ _⟩

theorem parallel_of_compileOnly {command command' : Command}
    (named : command'.program = command.program)
    (one : Yields (compileOnly command) exchanges result)
    (other : Yields (compileOnly command') exchanges' result')
    (alike : Alike exchanges exchanges') :
    result = result' ∧ Parallel command command' (runsIn exchanges) (runsIn exchanges') := by
  obtain ⟨outcome, runs, -, rfl⟩ := runs_of_compileOnly one
  obtain ⟨outcome', runs', -, rfl⟩ := runs_of_compileOnly other
  obtain ⟨script, scripted, scripted'⟩ := alike.commands
  rw [runs] at scripted ⊢
  rw [runs'] at scripted' ⊢
  obtain rfl := scripted.status_eq scripted'
  refine ⟨?_, .inherited outcome⟩
  cases outcome with
  | ok status => rfl
  | error reason => simp only [compiledOnly, named]

theorem parallel_of_withToolchain {toolchain : Toolchain} {library library' : Option LibraryVersion}
    (one : Yields (withToolchain job config { toolchain with library }) exchanges result)
    (other : Yields (withToolchain job config { toolchain with library := library' }) exchanges'
      result')
    (alike : Alike exchanges exchanges') :
    result = result' ∧ Parallel (mainCommand config { toolchain with library })
      (mainCommand config { toolchain with library := library' }) (runsIn exchanges)
      (runsIn exchanges') := by
  unfold withToolchain at one other
  obtain ⟨warning, rest, rfl, warned, continues⟩ := exists_of_optional quiet_of_log one
  obtain ⟨warning', rest', rfl, warned', continues'⟩ := exists_of_optional quiet_of_log other
  have alike := alike.of_quiet warned warned'
  simp only [runsIn_append, warned.runs, warned'.runs, List.nil_append]
  unfold mainCommand
  cases only : config.compileOnly with
  | true =>
    simp only [only, if_true] at continues continues' ⊢
    exact parallel_of_compileOnly (by rfl) continues continues' alike
  | false =>
    simp only [only, Bool.false_eq_true, if_false] at continues continues' ⊢
    -- the wrapper does not depend on the C library
    obtain ⟨making, made, ends, ends', rfl, rfl, wraps, continues, continues', alike⟩ :=
      exists_shared_of_alike continues continues' alike
    have quiet := (wrapped_of_wrapper wraps (List.Subset.refl making)).1
    simp only [runsIn_append, quiet.runs, List.nil_append]
    cases made with
    | error error =>
      obtain ⟨rfl, rfl⟩ := yields_pure.mp continues
      obtain ⟨rfl, rfl⟩ := yields_pure.mp continues'
      exact ⟨rfl, .nothing⟩
    | ok source =>
      obtain ⟨_, _, _, _, runs, runs', leaves, leaves', alike⟩ :=
        exists_rest_of_quiet quiet_of_log quiet_of_log continues continues' alike
      obtain ⟨_, _, rfl, left, compiles⟩ := exists_of_optional quiet_of_leaveWrapper leaves
      obtain ⟨_, _, rfl, left', compiles'⟩ := exists_of_optional quiet_of_leaveWrapper leaves'
      have again := (without_primaryCommand config toolchain library').trans
        (without_primaryCommand config toolchain library).symm
      simp only [runs, runs', runsIn_append, left.runs, left'.runs, List.nil_append]
      exact parallel_of_compile (by rfl) again compiles compiles' (alike.of_quiet left left')

end

/-! ## Probing in lockstep -/

namespace Probe

/-- The version of a compiler, as far as its banner tells it. -/
def versionIn : Except String Output → Option CompilerVersion
  | .ok output => CompilerVersion.parse? output.text
  | .error _ => none

/-- What is asked for a build that needs the C library, with the answers. -/
def questions (config : Config) (banner library : Except String Output) : List Run :=
  [.captured (bannerOf config.compiler) none banner,
    .captured (bannerOf libraryProgram) none library]

/-- The runtime's directory is the first one of those for the compiler's version. -/
theorem exists_search_of_toolchain {compiler root : String} {width : PointerWidth}
    {exchanges : List Exchange} {found : Toolchain}
    (h : Yields (toolchain compiler width true root) exchanges (.ok found)) :
    ∃ searched ⊆ exchanges,
      Yields (firstDirectory (runtimeDirectories root found.compiler)) searched
        found.runtimeDirectory := by
  unfold toolchain at h
  obtain ⟨asked, outcome, _, rfl, captured, continues⟩ := yields_bind.mp h
  cases outcome with
  | error reason =>
    obtain ⟨_, _, _, rfl, logged, done⟩ := yields_bind.mp continues
    obtain ⟨-, impossible⟩ := yields_pure.mp done
    cases impossible
  | ok banner =>
    obtain ⟨logs, _, _, rfl, logged, reads⟩ := yields_bind.mp continues
    cases read : CompilerVersion.parse? banner.text with
    | none =>
      rw [read] at reads
      obtain ⟨-, impossible⟩ := yields_pure.mp reads
      cases impossible
    | some version =>
      simp only [read, if_true] at reads
      obtain ⟨asks, known, _, rfl, asked, searches⟩ := yields_bind.mp reads
      obtain ⟨searched, directory, _, rfl, searching, done⟩ := yields_bind.mp searches
      obtain ⟨rfl, same⟩ := yields_pure.mp done
      obtain rfl := Except.ok.inj same
      exact ⟨searched, fun _ member => by simp [member], searching⟩

/-- In the same surroundings the same directory is found for a version. -/
theorem runtimeDirectory_unique {compiler root : String} {width : PointerWidth}
    {exchanges exchanges' : List Exchange} {found found' : Toolchain}
    (one : Yields (toolchain compiler width true root) exchanges (.ok found))
    (other : Yields (toolchain compiler width true root) exchanges' (.ok found'))
    (same : SameSurroundings exchanges exchanges') (version : found.compiler = found'.compiler) :
    found.runtimeDirectory = found'.runtimeDirectory := by
  obtain ⟨searched, within, search⟩ := exists_search_of_toolchain one
  obtain ⟨searched', within', search'⟩ := exists_search_of_toolchain other
  rw [version] at search
  have commands : ∃ script, Scripted script (runsIn searched)
      ∧ Scripted script (runsIn searched') := by
    rw [(quiet_of_firstDirectory search).1.runs, (quiet_of_firstDirectory search').1.runs]
    exact ⟨[], .nil _, .nil _⟩
  exact (search.unique_of_alike search' ⟨commands, same.mono within within'⟩).2

/-- What probing for a build that needs the C library comes to. -/
theorem exists_banner_of_probing {job : Build.Job} {config : Config} {runs : List Run}
    {result : Except BuildError Toolchain}
    (needed : needsLibrary config job.host.pointerWidth = true)
    (probing : Probing job config runs result) :
    ∃ banner rest, runs = .captured (bannerOf config.compiler) none banner :: rest
      ∧ ((versionIn banner = none ∧ rest = [] ∧ result = .error (.unknownVersion config.compiler))
        ∨ ∃ version directory outcome, versionIn banner = some version
          ∧ rest = [.captured (bannerOf libraryProgram) none outcome]
          ∧ result = .ok ⟨version, libraryIn outcome, job.host.pointerWidth, directory⟩) := by
  cases probing with
  | missing reason => exact ⟨_, _, rfl, Or.inl ⟨rfl, rfl, rfl⟩⟩
  | unread banner unread => exact ⟨_, _, rfl, Or.inl ⟨unread, rfl, rfl⟩⟩
  | compiler banner version directory read unneeded =>
    rw [needed] at unneeded
    cases unneeded
  | withLibrary banner version directory outcome read =>
    exact ⟨_, _, rfl, Or.inr ⟨version, directory, outcome, read, rfl, rfl⟩⟩

/-- Probing twice for a build that needs the C library, with the same banner of the compiler and in
the same surroundings: either the compiler's version stays unknown both times, or the two toolchains
are the same but for the library. -/
inductive Probed (job : Build.Job) (config : Config) :
    List Run → List Run → Except BuildError Toolchain → Except BuildError Toolchain → Prop
  | unknown (banner : Except String Output) (error : BuildError) :
      Probed job config [.captured (bannerOf config.compiler) none banner]
        [.captured (bannerOf config.compiler) none banner] (.error error) (.error error)
  | known (banner : Except String Output) (found : Toolchain)
      (outcome outcome' : Except String Output) (read : versionIn banner = some found.compiler)
      (width : found.pointerWidth = job.host.pointerWidth) :
      Probed job config (questions config banner outcome) (questions config banner outcome')
        (.ok { found with library := libraryIn outcome })
        (.ok { found with library := libraryIn outcome' })

theorem probed_of_toolchain {job : Build.Job} {config : Config}
    {exchanges exchanges' : List Exchange} {result result' : Except BuildError Toolchain}
    (needed : needsLibrary config job.host.pointerWidth = true)
    (one : Yields (toolchain config.compiler job.host.pointerWidth
      (needsLibrary config job.host.pointerWidth) job.environment.resourceRoot) exchanges result)
    (other : Yields (toolchain config.compiler job.host.pointerWidth
      (needsLibrary config job.host.pointerWidth) job.environment.resourceRoot) exchanges' result')
    (same : SameSurroundings exchanges exchanges')
    {later later' : List Run}
    (commands : ∃ script, Scripted script (otherRuns (runsIn exchanges ++ later))
      ∧ Scripted script (otherRuns (runsIn exchanges' ++ later'))) :
    Probed job config (runsIn exchanges) (runsIn exchanges') result result' := by
  obtain ⟨banner, rest, runs, ends⟩ :=
    exists_banner_of_probing needed (probing_of_toolchain one).1
  obtain ⟨banner', rest', runs', ends'⟩ :=
    exists_banner_of_probing needed (probing_of_toolchain other).1
  rw [runs, runs'] at commands ⊢
  obtain ⟨script, scripted, scripted'⟩ := commands
  obtain rfl : banner = banner' := outcome_eq_of_otherRuns scripted scripted'
  rcases ends with ⟨unread, rfl, rfl⟩ | ⟨version, directory, outcome, read, rfl, rfl⟩
  · rcases ends' with ⟨-, rfl, rfl⟩ | ⟨_, _, _, read, -, -⟩
    · exact .unknown banner _
    · exact absurd (unread.symm.trans read) (by simp)
  · rcases ends' with ⟨unread, -, -⟩ | ⟨version', directory', outcome', read', rfl, rfl⟩
    · exact absurd (unread.symm.trans read) (by simp)
    · obtain rfl : version = version' := Option.some.inj (read.symm.trans read')
      rw [needed] at one other
      obtain rfl : directory = directory' := runtimeDirectory_unique one other same rfl
      exact .known banner ⟨version, none, job.host.pointerWidth, directory⟩ outcome outcome' read
        rfl

end Probe

/-! ## Whole builds in lockstep -/

/-- The runs of two builds that are answered alike but for the banner of the C library: the same,
or the same but for that banner and for the flags of the first command after it. -/
inductive Lockstep (job : Job) : List Run → List Run → Prop
  | same (runs : List Run) : Lockstep job runs runs
  | probed (banner : Except String Output) (toolchain : Toolchain)
      (outcome outcome' : Except String Output) {rest rest' : List Run}
      (needed : needsLibrary job.config toolchain.pointerWidth = true)
      (read : Probe.versionIn banner = some toolchain.compiler)
      (parallel : Parallel
        (mainCommand job.config { toolchain with library := Probe.libraryIn outcome })
        (mainCommand job.config { toolchain with library := Probe.libraryIn outcome' })
        rest rest') :
      Lockstep job (Probe.questions job.config banner outcome ++ rest)
        (Probe.questions job.config banner outcome' ++ rest')

section

variable {job : Job} {exchanges exchanges' : List Exchange}
  {result result' : Except BuildError Int}

theorem needsLibrary_of_substitute {config after : Config} {host : Host} {width : PointerWidth}
    (unneeded : needsLibrary config width = false) (settled : substitute config host = .ok after) :
    needsLibrary after width = false := by
  rcases substitute_cases settled with rfl | rfl
  · exact unneeded
  · simp [needsLibrary]

/-- Probing for a build that does not need the C library asks for one banner. -/
theorem Probe.exists_singleton_of_probing {config : Config} {probes : List Run}
    {result : Except BuildError Toolchain}
    (unneeded : needsLibrary config job.host.pointerWidth = false)
    (probing : Probe.Probing job config probes result) : ∃ run, probes = [run] := by
  cases probing with
  | missing reason => exact ⟨_, rfl⟩
  | unread banner unread => exact ⟨_, rfl⟩
  | compiler banner version directory read unneeded found => exact ⟨_, rfl⟩
  | withLibrary banner version directory outcome read needed found =>
    rw [unneeded] at needed
    cases needed

/-- A build that does not need the C library does not ask for its banner. -/
theorem otherRuns_of_carryOut (h : Yields (carryOut job) exchanges result)
    (unneeded : needsLibrary job.config job.host.pointerWidth = false) :
    otherRuns (runsIn exchanges) = runsIn exchanges := by
  have first {config : Config} {probes : List Run} {probed : Except BuildError Toolchain}
      (settled : substitute job.config job.host = .ok config)
      (probing : Probe.Probing job config probes probed) : ∃ run, probes = [run] :=
    Probe.exists_singleton_of_probing (needsLibrary_of_substitute unneeded settled) probing
  have course := course_or_unwrapped job h
  clear h
  -- a course is told apart by its runs, which `runsIn exchanges` hides
  generalize runsIn exchanges = runs at course ⊢
  generalize shownIn exchanges = shown at course
  rcases course with course | unwrapped
  · cases course with
    | unsupported fails => rfl
    | unprobed settled probing =>
      obtain ⟨run, rfl⟩ := first settled probing
      rfl
    | onlyCompiles settled probing only outcome =>
      obtain ⟨run, rfl⟩ := first settled probing
      exact otherRuns_of_other rfl []
    | links settled probing links wrapped compiling =>
      obtain ⟨run, rfl⟩ := first settled probing
      cases compiling <;> exact otherRuns_of_other rfl _
  · cases unwrapped with
    | unstored settled probing links unstored =>
      obtain ⟨run, rfl⟩ := first settled probing
      rfl

theorem carryOut_of_needed (needed : needsLibrary job.config job.host.pointerWidth = true) :
    carryOut job = proceed job job.config := by
  rw [carryOut_eq, if_neg]
  rintro ⟨memory, -⟩
  simp [needsLibrary, memory] at needed

theorem lockstep_of_carryOut (one : Yields (carryOut job) exchanges result)
    (other : Yields (carryOut job) exchanges' result')
    (alike : AlikeButLibrary exchanges exchanges') :
    result = result' ∧ Lockstep job (runsIn exchanges) (runsIn exchanges') := by
  obtain ⟨commands, others⟩ := alike
  cases needed : needsLibrary job.config job.host.pointerWidth with
  | false =>
    rw [otherRuns_of_carryOut one needed, otherRuns_of_carryOut other needed] at commands
    obtain ⟨rfl, rfl⟩ := one.unique_of_alike other ⟨commands, others⟩
    exact ⟨rfl, .same _⟩
  | true =>
    rw [carryOut_of_needed needed] at one other
    obtain ⟨probes, probed, rest, rfl, probe, ends⟩ := yields_bind.mp one
    obtain ⟨probes', probed', rest', rfl, probe', ends'⟩ := yields_bind.mp other
    rw [runsIn_append, runsIn_append] at commands ⊢
    have twice := Probe.probed_of_toolchain needed probe probe'
      (others.mono (List.subset_append_left _ _) (List.subset_append_left _ _)) commands
    generalize runsIn probes = told at twice commands ⊢
    generalize runsIn probes' = told' at twice commands ⊢
    cases twice with
    | unknown banner error =>
      obtain ⟨rfl, rfl⟩ := yields_pure.mp ends
      obtain ⟨rfl, rfl⟩ := yields_pure.mp ends'
      exact ⟨rfl, .same _⟩
    | known banner toolchain outcome outcome' read width =>
      have later : ∃ script, Scripted script (runsIn rest) ∧ Scripted script (runsIn rest') := by
        obtain ⟨script, scripted, scripted'⟩ := commands
        exact ⟨_, Scripted.drop [_] scripted, Scripted.drop [_] scripted'⟩
      obtain ⟨rfl, parallel⟩ := parallel_of_withToolchain ends ends'
        ⟨later, others.mono (List.subset_append_right _ _) (List.subset_append_right _ _)⟩
      exact ⟨rfl, .probed banner toolchain outcome outcome' (width ▸ needed) read parallel⟩

/-- A build that needs the C library asks for its banner once the compiler's could be read. -/
theorem exists_questions_of_carryOut (needed : needsLibrary job.config job.host.pointerWidth = true)
    (h : Yields (carryOut job) exchanges result) :
    ∃ banner, runsIn exchanges = [.captured (Probe.bannerOf job.config.compiler) none banner]
      ∨ ∃ library rest, runsIn exchanges = Probe.questions job.config banner library ++ rest := by
  rw [carryOut_of_needed needed] at h
  obtain ⟨probes, probed, later, rfl, probe, ends⟩ := yields_bind.mp h
  obtain ⟨banner, rest, runs, ⟨-, rfl, rfl⟩ | ⟨_, _, library, -, rfl, rfl⟩⟩ :=
    Probe.exists_banner_of_probing needed (Probe.probing_of_toolchain probe).1
  · obtain ⟨rfl, rfl⟩ := yields_pure.mp ends
    exact ⟨banner, Or.inl (by rw [runsIn_append, runs]; rfl)⟩
  · exact ⟨banner, Or.inr ⟨library, runsIn later, by rw [runsIn_append, runs]; rfl⟩⟩

theorem scripted_otherRuns (needed : needsLibrary job.config job.host.pointerWidth = true)
    (h : Yields (carryOut job) exchanges result) {banner library : Except String Output}
    {script : List (Except String Output)}
    (scripted : Scripted (banner :: library :: script) (runsIn exchanges)) :
    Scripted (banner :: script) (otherRuns (runsIn exchanges)) := by
  obtain ⟨told, single | ⟨outcome, rest, more⟩⟩ := exists_questions_of_carryOut needed h
  · rw [single] at scripted ⊢
    cases scripted
    exact .captured (.nil script)
  · rw [more] at scripted ⊢
    cases scripted with
    | captured later =>
      cases later with
      | captured later => exact .captured later

/-- Surroundings that answer in order, and differ in their second answer only, answer a build that
needs the C library alike but for its banner. -/
theorem alikeButLibrary_execute (needed : needsLibrary job.config job.host.pointerWidth = true)
    (tree : SourceTree) (banner library library' : Except String Output)
    (answers : List (Except String Output)) :
    AlikeButLibrary
      ((carryOut job).execute (answering tree) (banner :: library :: answers)).exchanges
      ((carryOut job).execute (answering tree) (banner :: library' :: answers)).exchanges where
  commands := by
    obtain ⟨silent, scripted⟩ :=
      exists_scripted_execute tree (carryOut job) (banner :: library :: answers)
    obtain ⟨silent', scripted'⟩ :=
      exists_scripted_execute tree (carryOut job) (banner :: library' :: answers)
    rw [List.cons_append, List.cons_append] at scripted scripted'
    have one := (scripted_otherRuns needed (yields_execute _ _ _) scripted).extend
      (List.replicate silent' (.ok ⟨"", 0⟩))
    have other := (scripted_otherRuns needed (yields_execute _ _ _) scripted').extend
      (List.replicate silent (.ok ⟨"", 0⟩))
    rw [List.cons_append, List.append_assoc, List.replicate_append_replicate] at one other
    exact ⟨_, one, Nat.add_comm silent' silent ▸ other⟩
  others := sameSurroundings_execute tree _ _ _ _

end

end CheckedBuild
