import Mathlib.Data.List.Infix
import CheckedBuild.Proofs.Build.Course

/-!
# The last instrumented compile

An instrumented compile is told by its arguments: it reads the wrapper as C from its input. What
comes before the last one, and what may come after it, is set apart here. Before it nobody is asked
for an explanation or for another opinion.
-/

namespace CheckedBuild

open Program Instrumentation Build

/-- What came of an instrumented compile. -/
def Run.compile? : Run → Option (Except String Output)
  | .captured command (some _) outcome =>
    if marker <:+: command.arguments then some outcome else none
  | _ => none

/-- What came of a command with an input, the first time its output was taken. -/
def Run.outcomeOf? (command : Command) (input : Option String) :
    Run → Option (Except String Output)
  | .captured other given outcome =>
    if other = command ∧ given = input then some outcome else none
  | .inherited .. => none

/-- What came of the instrumented compiles, in order. -/
def compilesIn (runs : List Run) : List (Except String Output) := runs.filterMap Run.compile?

/-- What came of the last instrumented compile. -/
def lastCompile (runs : List Run) : Option (Except String Output) := (compilesIn runs).getLast?

/-- What came of a command with an input, if its output was ever taken. -/
def outcomeOf (command : Command) (input : Option String) (runs : List Run) :
    Option (Except String Output) :=
  runs.findSome? (Run.outcomeOf? command input)

theorem compilesIn_append (first second : List Run) :
    compilesIn (first ++ second) = compilesIn first ++ compilesIn second :=
  List.filterMap_append

theorem lastCompile_append_of_none {first second : List Run} (none : compilesIn second = []) :
    lastCompile (first ++ second) = lastCompile first := by
  rw [lastCompile, compilesIn_append, none, List.append_nil, lastCompile]

theorem outcomeOf_append_of_none {command : Command} {input : Option String}
    {first second : List Run} (none : outcomeOf command input first = none) :
    outcomeOf command input (first ++ second) = outcomeOf command input second := by
  rw [outcomeOf, List.findSome?_append, ← outcomeOf, none, Option.none_or, outcomeOf]

/-- What is run up to the last instrumented compile: asking for a banner, or such a compile. -/
inductive Early : Run → Prop
  | banner (program : String) (outcome : Except String Output) :
      Early (.captured (Probe.bannerOf program) none outcome)
  | compile (command : Command) (source : String) (outcome : Except String Output)
      (marked : marker <:+: command.arguments) : Early (.captured command (some source) outcome)

theorem length_le_of_marked {command : Command} (marked : marker <:+: command.arguments) :
    3 ≤ command.arguments.length :=
  marked.length_le

theorem outcomeOf_crossCheck_of_early {config : Config} {runs : List Run}
    (early : ∀ run ∈ runs, Early run) : outcomeOf (crossCheckCommand config) none runs = none := by
  refine List.findSome?_eq_none_iff.mpr fun run member => ?_
  cases early run member with
  | banner program outcome =>
    have different : Probe.bannerOf program ≠ crossCheckCommand config := by
      intro same
      have := congrArg (fun command => command.arguments.length) same
      simp [Probe.bannerOf, crossCheckCommand, crossCheckFlags, commonFlags] at this
    simp [Run.outcomeOf?, different]
  | compile command source outcome marked => simp [Run.outcomeOf?]

theorem outcomeOf_explain_of_early {path : String} {config : Config} {text : String}
    {runs : List Run} (early : ∀ run ∈ runs, Early run) :
    outcomeOf (explainCommand path config) (some text) runs = none := by
  refine List.findSome?_eq_none_iff.mpr fun run member => ?_
  cases early run member with
  | banner program outcome => simp [Run.outcomeOf?]
  | compile command source outcome marked =>
    have different : command ≠ explainCommand path config := by
      rintro rfl
      have := length_le_of_marked marked
      simp [explainCommand] at this
    simp [Run.outcomeOf?, different]

theorem banner_of_probing {job : Job} {config : Config} {runs : List Run}
    {result : Except BuildError Toolchain} (probing : Probe.Probing job config runs result) :
    ∀ run ∈ runs, ∃ program outcome, run = .captured (Probe.bannerOf program) none outcome := by
  cases probing with
  | missing reason => simp
  | unread banner unread => simp
  | compiler banner version directory read unneeded found => simp
  | withLibrary banner version directory outcome read needed found => simp

theorem early_of_probing {job : Job} {config : Config} {runs : List Run}
    {result : Except BuildError Toolchain} (probing : Probe.Probing job config runs result) :
    ∀ run ∈ runs, Early run := by
  intro run member
  obtain ⟨program, outcome, rfl⟩ := banner_of_probing probing run member
  exact .banner program outcome

theorem compilesIn_of_probing {job : Job} {config : Config} {runs : List Run}
    {result : Except BuildError Toolchain} (probing : Probe.Probing job config runs result) :
    compilesIn runs = [] := by
  refine List.filterMap_eq_nil_iff.mpr fun run member => ?_
  obtain ⟨program, outcome, rfl⟩ := banner_of_probing probing run member
  rfl

theorem compilesIn_of_showing {explainer : Option String} {config : Config} {text : String}
    {runs : List Run} {shown : String} (showing : Showing explainer config text runs shown) :
    compilesIn runs = [] := by
  cases showing with
  | plain unexplained => rfl
  | explained path outcome wanted installed =>
    have unmarked : ¬ marker <:+: (explainCommand path config).arguments := fun marked => by
      have := length_le_of_marked marked
      simp [explainCommand] at this
    simp [compilesIn, Run.compile?, unmarked]

theorem compilesIn_of_ending {job : Job} {config : Config} {last : Output} {runs : List Run}
    {shown : String} {result : Except BuildError Int}
    (ending : Ending job config last runs shown result) : compilesIn runs = [] := by
  cases ending with
  | reported speaks showing => exact compilesIn_of_showing showing
  | failed silent failure => rfl
  | unchecked silent success skips => rfl
  | checkerMissing silent success checks reason => rfl
  | dropped silent success checks opinion worthless => rfl
  | advised silent success checks opinion worth showing =>
    simpa [compilesIn, Run.compile?] using compilesIn_of_showing showing

theorem marked_primaryCommand (config : Config) (plan : Plan) :
    marker <:+: (primaryCommand config plan).arguments :=
  ⟨config.compilerArguments, plan.sanitizerFlags ++ plan.styleFlags ++ plan.mainFlag.toList,
    by simp [primaryCommand]⟩

theorem marked_without {command : Command} (marked : marker <:+: command.arguments) :
    marker <:+: (command.without undefinedFlags).arguments := by
  have kept := marked.filter fun argument => !undefinedFlags.contains argument
  exact kept

theorem lastCompile_concat {command : Command} (marked : marker <:+: command.arguments)
    (before : List Run) (source : String) (outcome : Except String Output) :
    lastCompile (before ++ [.captured command (some source) outcome]) = some outcome := by
  have one : compilesIn [.captured command (some source) outcome] = [outcome] := by
    simp [compilesIn, Run.compile?, marked]
  rw [lastCompile, compilesIn_append, one, List.getLast?_concat]

theorem early_concat {command : Command} (marked : marker <:+: command.arguments)
    {before : List Run} (early : ∀ run ∈ before, Early run) (source : String)
    (outcome : Except String Output) :
    ∀ run ∈ before ++ [.captured command (some source) outcome], Early run :=
  List.forall_mem_append.mpr
    ⟨early, List.forall_mem_singleton.mpr (.compile command source outcome marked)⟩

/-- The runs of a build around its last instrumented compile: those up to it, those after it, and
how the build ends. Without such a compile nothing is shown. -/
inductive Around (job : Job) : List Run → String → Except BuildError Int → Prop
  | uncompiled {runs : List Run} {result : Except BuildError Int}
      (none : compilesIn runs = []) : Around job runs "" result
  | missing {runs : List Run} (reason : String) (early : ∀ run ∈ runs, Early run)
      (last : lastCompile runs = some (.error reason)) :
      Around job runs "" (.error (.launch job.config.compiler reason))
  | ended {config : Config} {before after : List Run} {last : Output} {shown : String}
      {result : Except BuildError Int}
      (settled : substitute job.config job.host = .ok config)
      (early : ∀ run ∈ before, Early run) (compiled : lastCompile before = some (.ok last))
      (ending : Ending job config last after shown result) :
      Around job (before ++ after) shown result

theorem around_of_compiling {job : Job} {config : Config} {command : Command} {source : String}
    {probes runs : List Run} {shown : String} {result : Except BuildError Int}
    (settled : substitute job.config job.host = .ok config)
    (early : ∀ run ∈ probes, Early run) (named : command.program = job.config.compiler)
    (marked : marker <:+: command.arguments)
    (compiling : Compiling job config command source runs shown result) :
    Around job (probes ++ runs) shown result := by
  cases compiling with
  | missing reason =>
    rw [named]
    exact .missing reason (early_concat marked early source _)
      (lastCompile_concat marked probes source _)
  | linked last links ending =>
    rw [← List.singleton_append, ← List.append_assoc]
    exact .ended settled (early_concat marked early source _)
      (lastCompile_concat marked probes source _) ending
  | missingAgain first unlinks reason =>
    rw [named, ← List.singleton_append, ← List.append_assoc]
    exact .missing reason
      (early_concat (marked_without marked) (early_concat marked early source _) source _)
      (lastCompile_concat (marked_without marked) _ source _)
  | retried first last unlinks ending =>
    rw [← List.singleton_append, ← List.append_assoc, List.append_cons]
    exact .ended settled
      (early_concat (marked_without marked) (early_concat marked early source _) source _)
      (lastCompile_concat (marked_without marked) _ source _) ending

theorem compilesIn_concat_inherited {probes : List Run} (none : compilesIn probes = [])
    (command : Command) (outcome : Except String Int) :
    compilesIn (probes ++ [.inherited command outcome]) = [] := by
  rw [compilesIn_append, none]
  rfl

theorem around_of_course {job : Job} {shows : SourceTree → Prop} {runs : List Run}
    {shown : String} {result : Except BuildError Int} (course : Course job shows runs shown result) :
    Around job runs shown result := by
  cases course with
  | unsupported fails => exact .uncompiled rfl
  | unprobed settled probing => exact .uncompiled (compilesIn_of_probing probing)
  | onlyCompiles settled probing only outcome =>
    exact .uncompiled (compilesIn_concat_inherited (compilesIn_of_probing probing) _ _)
  | links settled probing links wrapped compiling =>
    exact around_of_compiling settled (early_of_probing probing)
      (eq_of_substitute settled Config.compiler fun _ => rfl) (marked_primaryCommand _ _) compiling

theorem around_of_unwrapped {job : Job} {shows : SourceTree → Prop} {runs : List Run}
    {shown : String} {result : Except BuildError Int}
    (unwrapped : Unwrapped job shows runs shown result) : Around job runs shown result := by
  cases unwrapped with
  | unstored settled probing links unstored => exact .uncompiled (compilesIn_of_probing probing)

/-- Every build can be set apart around its last instrumented compile. -/
theorem around_of_carryOut {job : Job} {exchanges : List Exchange}
    {result : Except BuildError Int} (h : Yields (carryOut job) exchanges result) :
    Around job (runsIn exchanges) (shownIn exchanges) result := by
  rcases course_or_unwrapped job h with course | unwrapped
  · exact around_of_course course
  · exact around_of_unwrapped unwrapped

end CheckedBuild
