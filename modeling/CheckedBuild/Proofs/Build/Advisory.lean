import Mathlib.Data.List.DropRight
import CheckedBuild.Proofs.Build.LastCompile

/-!
# Advice after the last compile

Two builds that exchange the same up to their last instrumented compile may be answered in any way
after it, by the explainer and by the other compiler. They end alike unless the other compiler
cannot be run in one of them: that alone, of all that may come after the last compile, replaces its
status.
-/

namespace CheckedBuild

open Program Instrumentation Build

/-- Whether an exchange is an instrumented compile. -/
def Exchange.compiles (exchange : Exchange) : Bool :=
  (exchange.run?.bind Run.compile?).isSome

/-- What was exchanged up to and including the last instrumented compile, or all of it if there was
none. -/
def untilLastCompile (exchanges : List Exchange) : List Exchange :=
  if exchanges.any Exchange.compiles then
    exchanges.rdropWhile fun exchange => !exchange.compiles
  else exchanges

/-- Why the other compiler could not be run, if that was tried. -/
def checkFailure? (config : Config) (runs : List Run) : Option String :=
  match outcomeOf (crossCheckCommand config) none runs with
  | some (.error reason) => some reason
  | _ => none

theorem compilesIn_runsIn (exchanges : List Exchange) :
    compilesIn (runsIn exchanges)
      = exchanges.filterMap fun exchange => exchange.run?.bind Run.compile? :=
  List.filterMap_filterMap

theorem compilesIn_runsIn_eq_nil {exchanges : List Exchange} :
    compilesIn (runsIn exchanges) = [] ↔ ∀ exchange ∈ exchanges, exchange.compiles = false := by
  rw [compilesIn_runsIn, List.filterMap_eq_nil_iff]
  simp [Exchange.compiles]

theorem lastCompile_untilLastCompile (exchanges : List Exchange) :
    lastCompile (runsIn (untilLastCompile exchanges)) = lastCompile (runsIn exchanges) := by
  unfold untilLastCompile
  by_cases compiled : exchanges.any Exchange.compiles = true
  · rw [if_pos compiled]
    have after : compilesIn (runsIn
        (exchanges.rtakeWhile fun exchange => !exchange.compiles)) = [] :=
      compilesIn_runsIn_eq_nil.mpr fun exchange member => by
        simpa using List.mem_rtakeWhile_imp member
    have whole : (exchanges.rdropWhile fun exchange => !exchange.compiles)
        ++ (exchanges.rtakeWhile fun exchange => !exchange.compiles) = exchanges :=
      List.rdropWhile_append_rtakeWhile
    rw [← lastCompile_append_of_none after, ← runsIn_append, whole]
  · rw [if_neg compiled]

theorem lastCompile_eq_none_iff {runs : List Run} :
    lastCompile runs = none ↔ compilesIn runs = [] :=
  List.getLast?_eq_none_iff

theorem untilLastCompile_of_none {exchanges : List Exchange}
    (none : lastCompile (runsIn exchanges) = none) : untilLastCompile exchanges = exchanges := by
  have uncompiled := compilesIn_runsIn_eq_nil.mp (lastCompile_eq_none_iff.mp none)
  refine if_neg ?_
  simpa using uncompiled

theorem checkFailure?_of_early {config : Config} {runs : List Run}
    (early : ∀ run ∈ runs, Early run) : checkFailure? config runs = none := by
  rw [checkFailure?, outcomeOf_crossCheck_of_early early]

/-- How a build ends after its last instrumented compile. -/
def ended (last : Output) : Option String → Except BuildError Int
  | none => .ok last.status
  | some reason => .error (.launch crossChecker reason)

theorem ended_injective (last : Output) : Function.Injective (ended last) := by
  intro first second same
  cases first <;> cases second <;> simp_all [ended]

theorem outcomeOf_crossCheck_of_showing {explainer : Option String} {config : Config}
    {text shown : String} {runs : List Run} (showing : Showing explainer config text runs shown) :
    outcomeOf (crossCheckCommand config) none runs = none := by
  cases showing with
  | plain unexplained => rfl
  | explained path outcome wanted installed => simp [outcomeOf, Run.outcomeOf?]

theorem result_of_ending {job : Job} {config : Config} {last : Output} {before after : List Run}
    {shown : String} {result : Except BuildError Int} (early : ∀ run ∈ before, Early run)
    (ending : Ending job config last after shown result) :
    result = ended last (checkFailure? config (before ++ after)) := by
  rw [checkFailure?, outcomeOf_append_of_none (outcomeOf_crossCheck_of_early early)]
  cases ending with
  | reported speaks showing => rw [outcomeOf_crossCheck_of_showing showing]; rfl
  | failed silent failure => rfl
  | unchecked silent success skips => rw [← success]; rfl
  | checkerMissing silent success checks reason => simp [outcomeOf, Run.outcomeOf?, ended]
  | dropped silent success checks opinion worthless =>
    simp [outcomeOf, Run.outcomeOf?, ended, success]
  | advised silent success checks opinion worth showing =>
    simp [outcomeOf, Run.outcomeOf?, ended, success]

/-- A build whose last instrumented compile left an output ends with its status, unless the other
compiler cannot be run. -/
theorem result_of_around {job : Job} {runs : List Run} {shown : String}
    {result : Except BuildError Int} (around : Around job runs shown result) {last : Output}
    (compiled : lastCompile runs = some (.ok last)) :
    result = ended last (checkFailure? job.config runs) := by
  cases around with
  | uncompiled none =>
    rw [lastCompile_eq_none_iff.mpr none] at compiled
    cases compiled
  | missing reason early missing =>
    rw [missing] at compiled
    cases compiled
  | ended settled early before ending =>
    rw [lastCompile_append_of_none (compilesIn_of_ending ending), before] at compiled
    obtain rfl := Except.ok.inj (Option.some.inj compiled)
    rw [← eq_of_substitute settled checkFailure? fun _ => rfl]
    exact result_of_ending early ending

theorem result_of_missing {job : Job} {runs : List Run} {shown reason : String}
    {result : Except BuildError Int} (around : Around job runs shown result)
    (missing : lastCompile runs = some (.error reason)) :
    result = .error (.launch job.config.compiler reason)
      ∧ checkFailure? job.config runs = none := by
  cases around with
  | uncompiled none =>
    rw [lastCompile_eq_none_iff.mpr none] at missing
    cases missing
  | missing other early last =>
    rw [last] at missing
    obtain rfl := Except.error.inj (Option.some.inj missing)
    exact ⟨rfl, checkFailure?_of_early early⟩
  | ended settled early before ending =>
    rw [lastCompile_append_of_none (compilesIn_of_ending ending), before] at missing
    cases missing

/-- Two builds with the same exchange up to their last instrumented compile. -/
theorem result_eq_iff_of_untilLastCompile {job : Job} {one other : List Exchange}
    {first second : Except BuildError Int} (yields : Yields (carryOut job) one first)
    (yields' : Yields (carryOut job) other second)
    (same : untilLastCompile one = untilLastCompile other) :
    first = second ↔
      checkFailure? job.config (runsIn one) = checkFailure? job.config (runsIn other) := by
  have around := around_of_carryOut yields
  have around' := around_of_carryOut yields'
  have sameLast : lastCompile (runsIn one) = lastCompile (runsIn other) := by
    rw [← lastCompile_untilLastCompile one, same, lastCompile_untilLastCompile]
  cases last : lastCompile (runsIn one) with
  | none =>
    rw [untilLastCompile_of_none last, untilLastCompile_of_none (sameLast ▸ last)] at same
    subst same
    exact iff_of_true (yields.unique yields') rfl
  | some outcome =>
    cases outcome with
    | ok output =>
      rw [result_of_around around last, result_of_around around' (sameLast ▸ last)]
      exact (ended_injective output).eq_iff
    | error reason =>
      obtain ⟨ends, unchecked⟩ := result_of_missing around last
      obtain ⟨ends', unchecked'⟩ := result_of_missing around' (sameLast ▸ last)
      rw [ends, ends', unchecked, unchecked']
      exact iff_of_true rfl rfl

theorem untilLastCompile_append {before after : List Exchange} {compile : Exchange}
    (compiles : compile.compiles = true) (none : ∀ exchange ∈ after, exchange.compiles = false) :
    untilLastCompile (before ++ compile :: after) = before ++ [compile] := by
  have some : (before ++ compile :: after).any Exchange.compiles = true := by simp [compiles]
  have passed : ∀ exchange ∈ after.reverse, (!exchange.compiles) = true := fun exchange member => by
    simp [none exchange (List.mem_reverse.mp member)]
  rw [untilLastCompile, if_pos some, List.rdropWhile, List.reverse_append, List.reverse_cons,
    List.append_assoc, List.dropWhile_append_of_pos passed]
  simp [compiles]

/-- A build whose toolchain is found goes on with it. -/
theorem execute_carryOut {σ : Type} {job : Job} {config : Config} {toolchain : Toolchain}
    {world : World σ} {state next : σ} {probes : List Exchange}
    (settled : (substituted job.config job.host).execute world state = ⟨.ok config, [], state⟩)
    (probed : (Probe.toolchain config.compiler job.host.pointerWidth
      (needsLibrary config job.host.pointerWidth) job.environment.resourceRoot).execute world state
        = ⟨.ok toolchain, probes, next⟩) :
    (carryOut job).execute world state =
      let rest := (withToolchain job config toolchain).execute world next
      { rest with exchanges := probes ++ rest.exchanges } := by
  rw [carryOut, execute_bind, settled]
  simp only [List.nil_append]
  rw [execute_bind, probed]

theorem exists_wrapper_eq {job : Job} {config : Config} (off : config.embedSource = false)
    (toolchain : Toolchain) : ∃ source, wrapper job config toolchain = pure (.ok source) := by
  obtain ⟨source, rendered⟩ := Wrapper.exists_source
    { config, major := toolchain.compiler.major, minor := toolchain.compiler.minor
      driverPath := Path.fromHome job.environment.driverPath, archive := none }
  refine ⟨source, ?_⟩
  unfold wrapper
  simp only [off, Bool.false_eq_true, if_false]
  change (pure (Except.mapError BuildError.template (Wrapper.source _)) : Program _) = _
  rw [rendered]
  rfl

theorem withToolchain_eq {job : Job} {config : Config} {toolchain : Toolchain} {source : String}
    (works : (plan config toolchain).libraryWorkaround = false)
    (links : config.compileOnly = false) (terse : ¬ 1 < config.debug)
    (made : wrapper job config toolchain = pure (.ok source)) :
    withToolchain job config toolchain =
      log .debug (primaryCommand config (plan config toolchain)).line >>= fun _ =>
        compile job config (primaryCommand config (plan config toolchain)) source := by
  unfold withToolchain
  simp only [works, links, made, if_neg terse, Bool.false_eq_true, if_false]
  rfl

/-- The toolchain of the example. -/
def exampleToolchain : Toolchain := ⟨⟨"14.0.6", 14, 0⟩, none, .bits64, none⟩

theorem exists_execute_toolchain : ∃ probes, ∀ answers,
    (Probe.toolchain "clang" .bits64 false "").execute (answering .empty)
        (.ok ⟨"clang version 14.0.6", 0⟩ :: answers)
      = ⟨.ok exampleToolchain, probes, answers⟩ :=
  ⟨[⟨.capture (Probe.bannerOf "clang") none, .ok ⟨"clang version 14.0.6", 0⟩⟩,
      ⟨.note (.log .debug "clang version: clang version 14.0.6"), ()⟩,
      ⟨.isDirectory "14.0.6/lib/linux", false⟩, ⟨.isDirectory "14/lib/linux", false⟩],
    fun _ => rfl⟩

/-- The example up to a compile that succeeds without a word, and what follows it. -/
theorem exists_execute_exampleJob : ∃ before compile, compile.compiles = true ∧ ∀ answers,
    (carryOut (exampleJob false)).execute (answering .empty)
        (.ok ⟨"clang version 14.0.6", 0⟩ :: .ok ⟨"", 0⟩ :: answers) =
      let rest := (conclude (exampleJob false) (exampleJob false).config ⟨"", 0⟩).execute
        (answering .empty) answers
      { rest with exchanges := before ++ compile :: rest.exchanges } := by
  obtain ⟨probes, probed⟩ := exists_execute_toolchain
  obtain ⟨source, made⟩ : ∃ source, wrapper (exampleJob false) (exampleJob false).config
      exampleToolchain = pure (.ok source) :=
    exists_wrapper_eq rfl exampleToolchain
  have goesOn := withToolchain_eq rfl rfl (by decide) made
  generalize named : primaryCommand (exampleJob false).config
    (plan (exampleJob false).config exampleToolchain) = command at goesOn
  refine ⟨probes ++ [⟨.note (.log .debug command.line), ()⟩],
    ⟨.capture command (some source), .ok ⟨"", 0⟩⟩, ?_, fun answers => ?_⟩
  · rw [← named]
    rfl
  · have settled : (substituted (exampleJob false).config (exampleJob false).host).execute
        (answering .empty) (.ok ⟨"clang version 14.0.6", 0⟩ :: .ok ⟨"", 0⟩ :: answers)
        = ⟨.ok (exampleJob false).config, [],
          .ok ⟨"clang version 14.0.6", 0⟩ :: .ok ⟨"", 0⟩ :: answers⟩ := rfl
    rw [execute_carryOut settled (probed (.ok ⟨"", 0⟩ :: answers)), goesOn, execute_bind]
    simp only [List.append_assoc]
    rfl

theorem untilLastCompile_execute_exampleJob : ∃ shared, ∀ answers,
    untilLastCompile ((carryOut (exampleJob false)).execute (answering .empty)
      (.ok ⟨"clang version 14.0.6", 0⟩ :: .ok ⟨"", 0⟩ :: answers)).exchanges = shared := by
  obtain ⟨before, compile, compiles, executed⟩ := exists_execute_exampleJob
  refine ⟨before ++ [compile], fun answers => ?_⟩
  have ending := ending_of_conclude (yields_execute (answering .empty) answers
    (conclude (exampleJob false) (exampleJob false).config ⟨"", 0⟩))
  rw [executed]
  exact untilLastCompile_append compiles
    (compilesIn_runsIn_eq_nil.mp (compilesIn_of_ending ending))

theorem result_execute_exampleJob (answers : List (Except String Output)) :
    ((carryOut (exampleJob false)).execute (answering .empty)
      (.ok ⟨"clang version 14.0.6", 0⟩ :: .ok ⟨"", 0⟩ :: answers)).result
      = ((conclude (exampleJob false) (exampleJob false).config ⟨"", 0⟩).execute
          (answering .empty) answers).result := by
  obtain ⟨before, compile, compiles, executed⟩ := exists_execute_exampleJob
  rw [executed]

/-- Whatever is answered after the last instrumented compile, two builds end alike exactly if the
other compiler could be run in both or failed for one reason in both; and a build whose last compile
left an output ends with its status unless the other compiler could not be run. -/
theorem execute_advisory {σ τ : Type} (job : Job) (world : World σ) (state : σ)
    (other : World τ) (start : τ)
    (same : untilLastCompile ((carryOut job).execute world state).exchanges
      = untilLastCompile ((carryOut job).execute other start).exchanges) :
    let one := (carryOut job).execute world state
    let two := (carryOut job).execute other start
    (one.result = two.result ↔
        checkFailure? job.config one.runs = checkFailure? job.config two.runs)
      ∧ ∀ last, lastCompile one.runs = some (.ok last) →
        one.result = ended last (checkFailure? job.config one.runs) := by
  intro one two
  have yields := yields_execute world state (carryOut job)
  have yields' := yields_execute other start (carryOut job)
  exact ⟨result_eq_iff_of_untilLastCompile yields yields' same,
    fun last compiled => result_of_around (around_of_carryOut yields) compiled⟩

/-- After one and the same silent compile with status 0, the build ends in an error where the other
compiler cannot be run, and with status 0 where it has something to say. -/
theorem execute_advisory_of_missing_checker :
    let run (answers : List (Except String Output)) :=
      (carryOut (exampleJob false)).execute (answering .empty)
        (.ok ⟨"clang version 14.0.6", 0⟩ :: .ok ⟨"", 0⟩ :: answers)
    let one := run [.error "not found"]
    let two := run [.ok ⟨"a.c:1:5: warning: unused variable", 0⟩]
    untilLastCompile one.exchanges = untilLastCompile two.exchanges
      ∧ one.result = .error (.launch "gcc" "not found") ∧ two.result = .ok 0
      ∧ checkFailure? (exampleJob false).config one.runs
        ≠ checkFailure? (exampleJob false).config two.runs := by
  intro run one two
  obtain ⟨shared, same⟩ := untilLastCompile_execute_exampleJob
  have same : untilLastCompile one.exchanges = untilLastCompile two.exchanges :=
    (same _).trans (same _).symm
  have missing : one.result = .error (.launch "gcc" "not found") :=
    (result_execute_exampleJob _).trans rfl
  have advised : two.result = .ok 0 := (result_execute_exampleJob _).trans rfl
  refine ⟨same, missing, advised, fun alike => ?_⟩
  have equal := (execute_advisory (exampleJob false) _ _ _ _ same).1.mpr alike
  rw [missing, advised] at equal
  cases equal

end CheckedBuild
