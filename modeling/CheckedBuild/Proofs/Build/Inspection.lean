import CheckedBuild.Proofs.Build.Arguments
import CheckedBuild.Proofs.Build.SourceAccess
import CheckedBuild.Proofs.Program.Lockstep
import CheckedBuild.Proofs.Text.Lines
import CheckedBuild.Proofs.Text.Replacement

/-!
# Wrappers that are left for inspection

At a high debug level the wrapper is left in a file, and the line of the command is announced with
the path in the place of the marker. The place is found in the text of the line, where an argument
may spell the marker as well, or the end of one and the beginning of the next.

Builds at different debug levels go through the same steps, apart from what they leave behind. What
is left for inspection is the text that the compiler then reads.
-/

namespace CheckedBuild

open Program Instrumentation Build Text

namespace Build

/-! ## The command line -/

/-- The text of the marker in a command line. -/
def markerText : List Char := "-x c -".toList

/-- The command that compiles a wrapper that lies at `path`, with the path where the marker would
stand. -/
def inspectionCommand (path : String) (config : Config) (plan : Plan) : Command :=
  ⟨config.compiler,
    config.compilerArguments ++ [path] ++ plan.sanitizerFlags ++ plan.styleFlags
      ++ plan.mainFlag.toList⟩

/-- The text of the marker occurs at one place of the line only. -/
def MarkedOnce (line : List Char) : Prop :=
  ∀ before after before' after', line = before ++ (markerText ++ after) →
    line = before' ++ (markerText ++ after') → before = before'

/-- What stands in front of the marker in the line of a build's command. -/
def lineFront (config : Config) : List Char :=
  joinWith [' '] (config.compiler.toList :: config.compilerArguments.map String.toList) ++ [' ']

/-- What stands behind the marker in the line of a build's command. -/
def lineBack (plan : Plan) : List Char :=
  (plan.sanitizerFlags ++ plan.styleFlags ++ plan.mainFlag.toList).flatMap
    fun flag => ' ' :: flag.toList

theorem toList_line (command : Command) :
    command.line.toList
      = joinWith [' '] (command.program.toList :: command.arguments.map String.toList) := by
  rw [Command.line, String.toList_intercalate]
  rfl

theorem joinWith_append_flatMap {first : List (List Char)} (some : first ≠ [])
    (second : List (List Char)) :
    joinWith [' '] (first ++ second)
      = joinWith [' '] first ++ second.flatMap fun part => ' ' :: part := by
  induction second generalizing first with
  | nil => simp
  | cons part rest ih =>
    have longer : first ++ [part] ≠ [] := by simp
    rw [List.append_cons, ih longer, joinWith_append some (by simp)]
    simp

theorem toList_line_primaryCommand (config : Config) (plan : Plan) :
    (primaryCommand config plan).line.toList
      = lineFront config ++ (markerText ++ lineBack plan) := by
  have parts : (primaryCommand config plan).arguments = config.compilerArguments ++ marker
      ++ (plan.sanitizerFlags ++ plan.styleFlags ++ plan.mainFlag.toList) := by
    simp [primaryCommand]
  have spelled : joinWith [' '] (marker.map String.toList) = markerText := by decide
  rw [toList_line, parts, List.map_append, ← List.cons_append, joinWith_append_flatMap (by simp),
    List.map_append, ← List.cons_append, joinWith_append (by simp) (by simp [marker]), spelled,
    lineFront, lineBack, List.flatMap_map, List.append_assoc]
  rfl

theorem toList_line_inspectionCommand (path : String) (config : Config) (plan : Plan) :
    (inspectionCommand path config plan).line.toList
      = lineFront config ++ (path.toList ++ lineBack plan) := by
  have parts : (inspectionCommand path config plan).arguments = config.compilerArguments ++ [path]
      ++ (plan.sanitizerFlags ++ plan.styleFlags ++ plan.mainFlag.toList) := by
    simp [inspectionCommand]
  rw [toList_line, parts, List.map_append, ← List.cons_append, joinWith_append_flatMap (by simp),
    List.map_append, ← List.cons_append, joinWith_append (by simp) (by simp), List.map_singleton,
    joinWith_singleton, lineFront, lineBack, List.flatMap_map, List.append_assoc]
  rfl

/-- A flag begins behind a space, so that the marker's text cannot go on there. -/
theorem head?_lineBack (plan : Plan) : (lineBack plan).head? ≠ some 'x' := by
  unfold lineBack
  cases plan.sanitizerFlags ++ plan.styleFlags ++ plan.mainFlag.toList with
  | nil => decide
  | cons flag flags =>
    rw [List.flatMap_cons, List.cons_append, List.head?_cons]
    decide

theorem exists_lineFront (config : Config) : ∃ front, lineFront config = front ++ [' '] := ⟨_, rfl⟩

/-- The text of the marker overlaps with itself in its last character only, and then what follows it
begins with its second one. -/
theorem eq_nil_of_overlap {w after back : List Char}
    (same : w ++ (markerText ++ after) = markerText ++ back) (apart : back.head? ≠ some 'x')
    (absent : ¬ markerText <:+: back) : w = [] := by
  rcases w with _ | ⟨_, _ | ⟨_, _ | ⟨_, _ | ⟨_, _ | ⟨_, _ | ⟨_, w⟩⟩⟩⟩⟩⟩
  · rfl
  all_goals simp [markerText] at same
  · exact absurd (by rw [← same.2.2.2.2.2]; rfl) apart
  · exact absurd (isInfix_of_cut same.2.2.2.2.2.2.symm) absent

/-- Where the first place is the build's own and none comes later, there is no other. -/
theorem markedOnce_of_leftmost {line front back : List Char}
    (leftmost : Leftmost markerText line front back) (apart : back.head? ≠ some 'x')
    (absent : ¬ markerText <:+: back) : MarkedOnce line := by
  have only : ∀ before after, line = before ++ (markerText ++ after) → before = front := by
    intro before after cut
    have shorter := leftmost.first before after cut
    have both : front ++ (markerText ++ back) = before ++ (markerText ++ after) :=
      leftmost.cut.symm.trans cut
    obtain ⟨w, rfl⟩ : front <+: before :=
      List.prefix_of_prefix_length_le ⟨_, both⟩ ⟨_, rfl⟩ shorter
    rw [List.append_assoc] at both
    have behind := List.append_cancel_left both
    rw [eq_nil_of_overlap behind.symm apart absent, List.append_nil]
  intro before after before' after' cut cut'
  rw [only before after cut, only before' after' cut']

/-- The line has the text of the marker once exactly if its first place is the build's own and none
comes later. -/
theorem markedOnce_iff (config : Config) (plan : Plan) :
    MarkedOnce (primaryCommand config plan).line.toList ↔
      Leftmost markerText (primaryCommand config plan).line.toList (lineFront config)
        (lineBack plan) ∧ ¬ markerText <:+: lineBack plan := by
  have own := toList_line_primaryCommand config plan
  constructor
  · intro once
    refine ⟨⟨own, fun before after cut => ?_⟩, ?_⟩
    · exact Nat.le_of_eq (congrArg List.length (once _ _ _ _ own cut))
    · rintro ⟨before, after, later⟩
      have cut : (primaryCommand config plan).line.toList
          = (lineFront config ++ (markerText ++ before)) ++ (markerText ++ after) := by
        rw [own, ← later]
        simp only [List.append_assoc]
      have same := congrArg List.length (once _ _ _ _ own cut)
      have nonempty : markerText.length = 6 := by decide
      simp only [List.length_append] at same
      omega
  · rintro ⟨leftmost, absent⟩
    exact markedOnce_of_leftmost leftmost (head?_lineBack plan) absent

theorem wrapperCommandLine_eq_iff_toList {command : Command} {path line : String} :
    wrapperCommandLine command path = line ↔
      replaceAll markerText path.toList command.line.toList = line.toList := by
  rw [wrapperCommandLine, ← String.toList_inj, String.toList_ofList]
  rfl

/-- With the marker's text at one place the line says where the wrapper lies. -/
theorem wrapperCommandLine_of_markedOnce {config : Config} {plan : Plan}
    (once : MarkedOnce (primaryCommand config plan).line.toList) (path : String) :
    wrapperCommandLine (primaryCommand config plan) path
      = (inspectionCommand path config plan).line := by
  obtain ⟨leftmost, absent⟩ := (markedOnce_iff config plan).mp once
  rw [wrapperCommandLine_eq_iff_toList, replaceAll_of_leftmost (by decide) leftmost,
    replaceAll_of_absent absent, toList_line_inspectionCommand]

/-- Deleting the marker's text in front of its place does not do instead of deleting it there: what
stands between begins like it and ends in a space. -/
theorem replaceAll_nil_ne_of_earlier {w after back : List Char}
    (cut : markerText ++ after = (w ++ [' ']) ++ (markerText ++ back)) :
    replaceAll markerText [] after ≠ (w ++ [' ']) ++ back := by
  intro deleted
  have lengths := congrArg List.length cut
  have lengths' := congrArg List.length deleted
  simp only [List.length_append] at lengths lengths'
  have absent : ¬ markerText <:+: after := by
    intro occurs
    have shorter := length_replaceAll_nil_lt (by decide) occurs
    omega
  rw [replaceAll_of_absent absent] at deleted
  rw [deleted] at cut
  simp only [← List.append_assoc] at cut
  have turned := congrArg List.getLast? (List.append_cancel_right cut)
  have first : (markerText ++ w ++ [' ']).getLast? = some ' ' := by simp
  have second : (w ++ [' '] ++ markerText).getLast? = some '-' := by simp [markerText]
  rw [first, second] at turned
  exact absurd turned (by decide)

/-- With a path that does not look like an option, nothing but the marker's text at one place makes
the line say where the wrapper lies. -/
theorem markedOnce_of_wrapperCommandLine {config : Config} {plan : Plan} {path : String}
    (proper : path.toList.head? ≠ some '-')
    (same : wrapperCommandLine (primaryCommand config plan) path
      = (inspectionCommand path config plan).line) :
    MarkedOnce (primaryCommand config plan).line.toList := by
  have own := toList_line_primaryCommand config plan
  obtain ⟨before, after, leftmost⟩ := exists_leftmost (isInfix_of_cut own)
  rw [wrapperCommandLine_eq_iff_toList, replaceAll_of_leftmost (by decide) leftmost,
    toList_line_inspectionCommand] at same
  have cut : before ++ (markerText ++ after) = lineFront config ++ (markerText ++ lineBack plan) :=
    leftmost.cut.symm.trans own
  obtain ⟨w, front⟩ : before <+: lineFront config :=
    List.prefix_of_prefix_length_le ⟨_, cut⟩ ⟨_, rfl⟩ (leftmost.first _ _ own)
  rw [← front, List.append_assoc] at same cut
  have behind := List.append_cancel_left same
  have further := List.append_cancel_left cut
  rcases List.eq_nil_or_concat w with rfl | ⟨w, last, rfl⟩
  · -- the first place is the build's own
    rw [List.append_nil] at front
    subst front
    obtain rfl : after = lineBack plan := List.append_cancel_left further
    have unchanged := List.append_cancel_left behind
    exact (markedOnce_iff config plan).mpr
      ⟨leftmost, (replaceAll_eq_self_iff (by decide) proper).mp unchanged⟩
  · -- an earlier place is replaced, and the path stands there
    obtain ⟨others, ends⟩ := exists_lineFront config
    have space : last = ' ' := by
      rw [ends, List.concat_eq_append, ← List.append_assoc] at front
      exact (List.cons.inj (List.append_inj' front rfl).2).1
    subst space
    rw [List.concat_eq_append] at further behind
    cases spelled : path.toList with
    | nil =>
      rw [spelled] at behind
      exact absurd behind (replaceAll_nil_ne_of_earlier further)
    | cons c rest =>
      rw [spelled] at behind proper
      obtain ⟨d, others, begins⟩ := List.exists_cons_of_ne_nil (show w ++ [' '] ≠ [] by simp)
      rw [begins] at further behind
      have marked : '-' = d := (List.cons.inj further).1
      have named : c = d := (List.cons.inj behind).1
      exact absurd (congrArg some (named.trans marked.symm)) proper

/-- It is enough that the text of the marker ends at one place only. -/
theorem markedOnce_of_absent {config : Config} {plan : Plan}
    (front : ¬ markerText <:+: lineFront config ++ markerText.dropLast)
    (back : ¬ markerText <:+: lineBack plan) :
    MarkedOnce (primaryCommand config plan).line.toList := by
  have own := toList_line_primaryCommand config plan
  refine (markedOnce_iff config plan).mpr ⟨⟨own, fun before after cut => ?_⟩, back⟩
  by_contra earlier
  have spelled : markerText = markerText.dropLast ++ ['-'] := by decide
  have within : before ++ markerText <+: lineFront config ++ markerText.dropLast := by
    have one : before ++ markerText <+: (primaryCommand config plan).line.toList :=
      ⟨after, by rw [cut, List.append_assoc]⟩
    have other : lineFront config ++ markerText.dropLast
        <+: (primaryCommand config plan).line.toList :=
      ⟨'-' :: lineBack plan, by rw [own, spelled]; simp⟩
    refine List.prefix_of_prefix_length_le one other ?_
    simp only [List.length_append, List.length_dropLast]
    have nonempty : markerText.length = 6 := by decide
    omega
  exact front ((List.suffix_append before markerText).isInfix.trans within.isInfix)

/-! ## What is announced -/

/-- What is announced when a wrapper is left: where it lies, and how to compile it. -/
def announcement (path line : String) : List (Level × String) :=
  [(.debug, "Leaving main_wrapper in " ++ path ++ " compile with this command:"), (.debug, line)]

/-- Whether or not the file can be written, what is announced comes first. -/
theorem announcement_isPrefix {σ : Type} (path : String) (command : Command) (source : String)
    (world : World σ) (state : σ) :
    announcement path (wrapperCommandLine command path)
      <+: ((leaveWrapper path command source).execute world state).logged := by
  unfold leaveWrapper
  exact ⟨_, rfl⟩

theorem announcement_isPrefix_iff {path line line' : String} {logged : List (Level × String)}
    (announced : announcement path line <+: logged) :
    announcement path line' <+: logged ↔ line = line' := by
  constructor
  · intro announced'
    have within := List.prefix_of_prefix_length_le announced announced' (Nat.le_refl _)
    have same := within.eq_of_length rfl
    simpa [announcement] using same
  · rintro rfl
    exact announced

/-- A wrapper that is left is announced with the line of the command that compiles it, the path in
the place of the marker, if the text of the marker occurs at one place of the line only; and unless
the path looks like an option, only then. -/
theorem announcement_leaveWrapper {σ : Type} (path source : String) (config : Config) (plan : Plan)
    (world : World σ) (state : σ) :
    let logged :=
      ((leaveWrapper path (primaryCommand config plan) source).execute world state).logged
    let announced := announcement path (inspectionCommand path config plan).line <+: logged
    let once := MarkedOnce (primaryCommand config plan).line.toList
    (once → announced) ∧ (path.toList.head? ≠ some '-' → (announced ↔ once)) := by
  intro logged announced once
  have first := announcement_isPrefix path (primaryCommand config plan) source world state
  have said : announced ↔ wrapperCommandLine (primaryCommand config plan) path
      = (inspectionCommand path config plan).line := announcement_isPrefix_iff first
  refine ⟨fun once => said.mpr (wrapperCommandLine_of_markedOnce once path), fun proper => ?_⟩
  exact ⟨fun announced => markedOnce_of_wrapperCommandLine proper (said.mp announced),
    fun once => said.mpr (wrapperCommandLine_of_markedOnce once path)⟩

/-- The announcement is right for one source, and wrong as soon as the user selects the language in
the same words. -/
theorem announcement_leaveWrapper_of_selected_language :
    let config (arguments : List String) : Config :=
      { (exampleJob false).config with compilerArguments := arguments, debug := 2 }
    let plan : Plan := ⟨["-fsanitize=address"], [], none, false⟩
    let announced (arguments : List String) (line : String) : Prop :=
      announcement "w.c" line <+: ((leaveWrapper "w.c" (primaryCommand (config arguments) plan)
        "").execute (answering .empty) []).logged
    announced ["a.c"] (inspectionCommand "w.c" (config ["a.c"]) plan).line
      ∧ ¬ announced ["-x", "c", "-Wall", "a.c"]
        (inspectionCommand "w.c" (config ["-x", "c", "-Wall", "a.c"]) plan).line := by
  intro config plan announced
  constructor
  · have once : MarkedOnce (primaryCommand (config ["a.c"]) plan).line.toList :=
      markedOnce_of_absent (mt occursIn_iff.mpr (by decide)) (mt occursIn_iff.mpr (by decide))
    exact (announcement_leaveWrapper "w.c" "" (config ["a.c"]) plan (answering .empty) []).1 once
  · intro right
    have once := ((announcement_leaveWrapper "w.c" "" (config ["-x", "c", "-Wall", "a.c"]) plan
      (answering .empty) []).2 (by decide)).mp right
    have own := toList_line_primaryCommand (config ["-x", "c", "-Wall", "a.c"]) plan
    have earlier : lineFront (config ["-x", "c", "-Wall", "a.c"])
        = "clang ".toList ++ (markerText ++ "Wall a.c ".toList) := by decide
    rw [own] at once
    have same := once "clang ".toList
      ("Wall a.c ".toList ++ (markerText ++ lineBack plan)) _ _
      (by rw [earlier]; simp only [List.append_assoc]) rfl
    rw [earlier] at same
    exact absurd same (by decide)

end Build

/-! ## Other debug levels -/

/-- The configuration at a debug level. -/
def Config.atLevel (config : Config) (debug : Nat) : Config := { config with debug }

/-- The job at a debug level, with a path for the wrapper that is left. -/
def Build.Job.inspected (job : Job) (debug : Nat) (path : String) : Job :=
  { job with config := job.config.atLevel debug, wrapperPath := path }

theorem Plain.unsaved {α : Type} {program : Program α} (plain : Plain program) :
    Avoids Request.saves program := by
  refine plain.mono fun request routine => ?_
  match request with
  | .save .. => cases routine
  | .note _ | .sources | .capture .. | .run _ | .isDirectory _ | .isFile _ | .locate .. | .tell _
  | .print _ => rfl

theorem unsaved_record (notes : List Note) : Avoids Request.saves (record notes) := by
  induction notes with
  | nil => exact .done ()
  | cons note rest ih => exact .ask rfl fun _ => ih

theorem unsaved_wrapper (job : Job) (config : Config) (toolchain : Toolchain) :
    Avoids Request.saves (wrapper job config toolchain) := by
  unfold wrapper
  cases config.embedSource with
  | false =>
    refine (Avoids.pure _).bind fun archive => ?_
    cases archive <;> exact .pure _
  | true =>
    refine .bind (.request rfl) fun tree => (unsaved_record _).bind fun _ =>
      (Avoids.pure _).bind fun archive => ?_
    cases archive <;> exact .pure _

theorem leaving_leaveWrapper (path : String) (command : Command) (source : String) :
    Leaving (leaveWrapper path command source) := by
  unfold leaveWrapper
  refine .bind (.request rfl) fun _ => .bind (.request rfl) fun _ =>
    .bind (.request rfl) fun outcome => ?_
  cases outcome with
  | ok nothing => exact .pure _
  | error reason => exact .request rfl

section

variable (job : Job) (config : Config) (debug debug' : Nat) (path path' : String)

/-- No field of the wrapper shows the debug level. -/
theorem wrapper_inspected (toolchain : Toolchain) :
    wrapper (job.inspected debug path) (config.atLevel debug) toolchain
      = wrapper job config toolchain := by
  have rendered (archive : Option Bytes) :
      Wrapper.source
          { config := config.atLevel debug, major := toolchain.compiler.major
            minor := toolchain.compiler.minor
            driverPath := Path.fromHome job.environment.driverPath, archive }
        = Wrapper.source
          { config, major := toolchain.compiler.major, minor := toolchain.compiler.minor
            driverPath := Path.fromHome job.environment.driverPath, archive } :=
    Wrapper.source_congr (funext fun field => by cases field <;> rfl)
  have named : (job.inspected debug path).environment = job.environment := rfl
  unfold wrapper
  simp only [named, rendered]
  rfl

theorem compile_inspected (command : Command) (source : String) :
    compile (job.inspected debug path) (config.atLevel debug) command source
      = compile job config command source := rfl

theorem abreast_withToolchain (toolchain : Toolchain) :
    Abreast (withToolchain (job.inspected debug path) (config.atLevel debug) toolchain)
      (withToolchain (job.inspected debug' path') (config.atLevel debug') toolchain) := by
  have planned (level : Nat) : plan (config.atLevel level) toolchain
      = plan config toolchain := rfl
  have only (level : Nat) : (config.atLevel level).compileOnly = config.compileOnly := rfl
  have compiles (level : Nat) (plan : Plan) :
      compileCommand (config.atLevel level) plan = compileCommand config plan := rfl
  have links (level : Nat) (plan : Plan) :
      primaryCommand (config.atLevel level) plan = primaryCommand config plan := rfl
  unfold withToolchain
  simp only [planned, only, compiles, links, wrapper_inspected, compile_inspected]
  refine Abreast.optional (.request rfl) (.request rfl) ?_
  cases config.compileOnly with
  | true => exact .refl_of_avoids (plain_compileOnly _).unsaved
  | false =>
    refine Abreast.bind (.refl_of_avoids (unsaved_wrapper job config toolchain)) fun made => ?_
    cases made with
    | error error => exact .done _
    | ok source =>
      refine Abreast.bind (.refl_of_avoids (.request rfl)) fun _ => ?_
      exact Abreast.optional (leaving_leaveWrapper _ _ _) (leaving_leaveWrapper _ _ _)
        (.refl_of_avoids (plain_compile job config _ source).unsaved)

theorem abreast_proceed :
    Abreast (proceed (job.inspected debug path) (config.atLevel debug))
      (proceed (job.inspected debug' path') (config.atLevel debug')) := by
  refine Abreast.bind (.refl_of_avoids (plain_toolchain _ _ _ _).unsaved) fun probed => ?_
  cases probed with
  | error error => exact .done _
  | ok toolchain => exact abreast_withToolchain job config debug debug' path path' toolchain

theorem carryOut_inspected_eq :
    carryOut (job.inspected debug path) =
      if job.config.sanitizer = .memory ∧ job.host.pointerWidth = .bits32 then
        match job.host.valgrind with
        | none => pure (.error .unsupported)
        | some path' =>
          log .debug ("32-bit host, using " ++ path' ++ " instead of MemorySanitizer") >>= fun _ =>
            proceed (job.inspected debug path)
              ({ job.config with sanitizer := .valgrind }.atLevel debug)
      else proceed (job.inspected debug path) (job.config.atLevel debug) :=
  carryOut_eq (job.inspected debug path)

/-- Two builds at different levels go through the same steps, apart from what they leave behind. -/
theorem abreast_carryOut :
    Abreast (carryOut (job.inspected debug path)) (carryOut (job.inspected debug' path')) := by
  rw [carryOut_inspected_eq, carryOut_inspected_eq]
  by_cases misfit : job.config.sanitizer = .memory ∧ job.host.pointerWidth = .bits32
  · rw [if_pos misfit, if_pos misfit]
    cases job.host.valgrind with
    | none => exact .done _
    | some checker =>
      exact .bind (.refl_of_avoids (.request rfl)) fun _ => abreast_proceed job _ _ _ _ _
  · rw [if_neg misfit, if_neg misfit]
    exact abreast_proceed job job.config _ _ _ _

end

/-! ## The file that is left -/

/-- What a path holds in a world: the text that was saved there last, and nothing but saving a file
changes it. -/
structure Holding {σ : Type} (held : σ → Option String) (path : String) (world : World σ) :
    Prop where
  saved : ∀ text state, (world.answer (.save path text) state).1 = .ok () →
    held (world.answer (.save path text) state).2 = some text
  kept : ∀ request state, request.saves = false → held (world.answer request state).2 = held state

/-- What is held in the end is the text of every wrapper that was compiled. -/
def LeavesCompiled {σ α : Type} (held : σ → Option String) (execution : Execution σ α) : Prop :=
  ∀ compiled ∈ wrappedIn execution.runs, held execution.state = some compiled.2

section

variable {σ α β : Type} {held : σ → Option String} {path : String} {world : World σ}

theorem Holding.held_execute (holding : Holding held path world) {program : Program α}
    (unsaved : Avoids Request.saves program) (state : σ) :
    held (program.execute world state).state = held state := by
  induction unsaved generalizing state with
  | done result => rfl
  | @ask request resume other rest ih => exact (ih _ _).trans (holding.kept request state other)

/-- What comes before is not at issue as long as no wrapper is compiled there. -/
theorem leavesCompiled_of_bind {program : Program α} {next : α → Program β} {state : σ}
    (unwrapped : compilesIn (program.execute world state).runs = [])
    (leaves : LeavesCompiled held
      ((next (program.execute world state).result).execute world
        (program.execute world state).state)) :
    LeavesCompiled held ((program >>= next).execute world state) := by
  intro compiled member
  have none := wrappedIn_of_none unwrapped
  simp only [execute_bind, Execution.runs, runsIn_append, wrappedIn_append] at none member ⊢
  rw [none, List.nil_append] at member
  exact leaves compiled member

theorem leavesCompiled_bind {program : Program α} {next : α → Program β}
    (unwrapped : ∀ {exchanges value}, Yields program exchanges value →
      compilesIn (runsIn exchanges) = [])
    (leaves : ∀ value state, LeavesCompiled held ((next value).execute world state)) (state : σ) :
    LeavesCompiled held ((program >>= next).execute world state) :=
  leavesCompiled_of_bind (unwrapped (yields_execute world state program)) (leaves _ _)

theorem leavesCompiled_optional {wanted : Prop} [Decidable wanted] {step : Program Unit}
    {next : Program β}
    (unwrapped : ∀ {exchanges value}, Yields step exchanges value →
      compilesIn (runsIn exchanges) = [])
    (leaves : ∀ state, LeavesCompiled held (next.execute world state)) (state : σ) :
    LeavesCompiled held
      ((if wanted then step >>= fun _ => next else next).execute world state) := by
  split
  · exact leavesCompiled_bind unwrapped (fun _ => leaves) state
  · exact leaves state

theorem leavesCompiled_of_unwrapped {program : Program α} {state : σ}
    (unwrapped : ∀ {exchanges value}, Yields program exchanges value →
      compilesIn (runsIn exchanges) = []) :
    LeavesCompiled held (program.execute world state) := by
  intro compiled member
  rw [Execution.runs, wrappedIn_of_none (unwrapped (yields_execute world state program))] at member
  cases member

theorem leavesCompiled_pure (value : α) (state : σ) :
    LeavesCompiled held ((pure value : Program α).execute world state) :=
  fun _ member => by cases member

/-- Where the file can be written, it holds the wrapper. -/
theorem Holding.held_leaveWrapper (holding : Holding held path world)
    (writable : ∀ text state, (world.answer (.save path text) state).1 = .ok ())
    (command : Command) (source : String) (state : σ) :
    held ((leaveWrapper path command source).execute world state).state = some source := by
  unfold leaveWrapper
  simp only [execute_bind]
  generalize ((log .debug (wrapperCommandLine command path)).execute world _).state = state
  have wrote : ((save path source).execute world state).result = .ok () := writable source state
  rw [wrote]
  exact holding.saved source state (writable source state)

theorem leavesCompiled_compile (holding : Holding held path world) {job : Job} {config : Config}
    {command : Command} (marked : marker <:+: command.arguments) {source : String} {state : σ}
    (left : held state = some source) :
    LeavesCompiled held ((compile job config command source).execute world state) := by
  intro compiled member
  rw [holding.held_execute (plain_compile _ _ _ _).unsaved, left]
  have compiling := compiling_of_compile (yields_execute world state
    (compile job config command source))
  rcases wrappedIn_of_compiling marked compiling with once | twice
  · rw [Execution.runs, once, List.mem_singleton] at member
    rw [member]
  · rw [Execution.runs, twice, List.mem_pair] at member
    rcases member with rfl | rfl <;> rfl

variable (holding : Holding held path world)
  (writable : ∀ text state, (world.answer (.save path text) state).1 = .ok ())
  (job : Job) (config : Config) {debug : Nat} (high : 1 < debug)

include holding writable high

theorem leavesCompiled_withToolchain (toolchain : Toolchain) (state : σ) :
    LeavesCompiled held ((withToolchain (job.inspected debug path) (config.atLevel debug)
      toolchain).execute world state) := by
  have silent {level : Level} {message : String} {exchanges : List Exchange} {nothing : Unit}
      (logged : Yields (log level message) exchanges nothing) :
      compilesIn (runsIn exchanges) = [] := by
    rw [(quiet_of_log logged).runs]
    rfl
  unfold withToolchain
  refine leavesCompiled_optional silent (fun state => ?_) state
  cases (config.atLevel debug).compileOnly with
  | true =>
    refine leavesCompiled_of_unwrapped fun compiles => ?_
    obtain ⟨outcome, runs, -, -⟩ := runs_of_compileOnly compiles
    rw [runs]
    rfl
  | false =>
    refine leavesCompiled_bind (fun wraps => ?_) (fun made state => ?_) state
    · rw [(wrapped_of_wrapper wraps (List.Subset.refl _)).1.runs]
      rfl
    · cases made with
      | error error => exact leavesCompiled_pure _ state
      | ok source =>
        refine leavesCompiled_bind silent (fun _ state => ?_) state
        have marked := marked_primaryCommand (config.atLevel debug)
          (plan (config.atLevel debug) toolchain)
        have leaves := holding.held_leaveWrapper writable
          (primaryCommand (config.atLevel debug) (plan (config.atLevel debug) toolchain)) source
          state
        dsimp only
        rw [if_pos (show 1 < (config.atLevel debug).debug from high)]
        refine leavesCompiled_of_bind ?_ (leavesCompiled_compile holding marked leaves)
        rw [Execution.runs, (quiet_of_leaveWrapper (yields_execute world state _)).runs]
        rfl

theorem leavesCompiled_proceed (state : σ) :
    LeavesCompiled held ((proceed (job.inspected debug path) (config.atLevel debug)).execute world
      state) := by
  refine leavesCompiled_bind (fun probes => ?_) (fun probed state => ?_) state
  · have probing := @Probe.probing_of_toolchain (job.inspected debug path) _ _ _ probes
    exact compilesIn_of_probing probing.1
  · cases probed with
    | error error => exact leavesCompiled_pure _ state
    | ok toolchain =>
      exact leavesCompiled_withToolchain holding writable job config high toolchain state

theorem leavesCompiled_carryOut (state : σ) :
    LeavesCompiled held ((carryOut (job.inspected debug path)).execute world state) := by
  rw [carryOut_inspected_eq]
  split
  · cases job.host.valgrind with
    | none => exact leavesCompiled_pure _ state
    | some checker =>
      refine leavesCompiled_bind (fun logged => ?_) (fun _ state => ?_) state
      · rw [(quiet_of_log logged).runs]
        rfl
      · exact leavesCompiled_proceed holding writable job _ high state
  · exact leavesCompiled_proceed holding writable job job.config high state

end

/-- A build at another debug level, or with another path for the wrapper that is left, has the same
result, runs the same commands on the same inputs, asks for the same files and shows the same, and
all that it exchanges is the same apart from what is left behind; this holds whether or not the
wrapper can be written. At a high level, where it can be written, the path holds in the end the
text of every wrapper that was compiled. -/
theorem inspected_execute {σ τ : Type} (job : Job) (debug debug' : Nat) (path path' : String)
    {related : σ → τ → Prop} (world : World σ) (other : World τ)
    (indistinct : Indistinct related world other) (state : σ) (state' : τ)
    (start : related state state') :
    let one := (carryOut (job.inspected debug path)).execute world state
    let two := (carryOut (job.inspected debug' path')).execute other state'
    (one.result = two.result ∧ one.calls = two.calls ∧ one.accesses = two.accesses
        ∧ one.shown = two.shown ∧ othersIn one.exchanges = othersIn two.exchanges)
      ∧ ∀ held : σ → Option String, Holding held path world →
        (∀ text state, (world.answer (.save path text) state).1 = .ok ()) → 1 < debug →
          LeavesCompiled held one := by
  intro one two
  obtain ⟨result, others, -⟩ :=
    (abreast_carryOut job debug debug' path path').execute indistinct start
  obtain ⟨runs, accesses, shown⟩ := views_eq_of_othersIn others
  have calls : one.calls = two.calls := by rw [calls_eq_map, calls_eq_map, runs]
  refine ⟨⟨result, calls, accesses, shown, others⟩, ?_⟩
  intro held holding writable high
  exact leavesCompiled_carryOut holding writable job high state

/-- Surroundings for examples that answer like the other ones and keep what was saved at a path
last. -/
def keeping (path : String) (tree : SourceTree) :
    World (List (Except String Output) × Option String) where
  answer request state :=
    let (answer, answers) := (answering tree).answer request state.1
    match request with
    | .save path' text => (answer, answers, if path' = path then some text else state.2)
    | _ => (answer, answers, state.2)

theorem indistinct_keeping (path : String) (tree : SourceTree) :
    Indistinct (fun state answers => state.1 = answers) (keeping path tree) (answering tree) where
  both := by
    rintro request state _ other rfl
    cases request <;> exact ⟨rfl, rfl⟩
  left := by
    rintro request state _ leaves rfl
    match request with
    | .note _ | .save .. => rfl
  right := by
    rintro request state _ leaves rfl
    match request with
    | .note _ | .save .. => rfl

theorem holding_keeping (path : String) (tree : SourceTree) :
    Holding Prod.snd path (keeping path tree) where
  saved text state wrote := if_pos rfl
  kept request state other := by
    cases request with
    | save path text => cases other
    | _ => rfl

/-- The example at a high level, where the wrapper is left, and at the lowest: the same commands are
run, an instrumented compile among them, and what is left is the text that it reads. -/
theorem inspected_execute_exampleJob :
    let job := exampleJobOf (exampleJob false).config
    let one := (carryOut (job.inspected 2 "w.c")).execute (keeping "w.c" .empty)
      (unlinkedAnswers, none)
    let two := (carryOut (job.inspected 0 defaultWrapperPath)).execute (answering .empty)
      unlinkedAnswers
    one.result = two.result ∧ one.calls = two.calls
      ∧ ∃ command source, ⟨command, true, some source⟩ ∈ two.calls
        ∧ marker <:+: command.arguments ∧ one.state.2 = some source := by
  intro job one two
  obtain ⟨⟨result, calls, -, -, others⟩, leaves⟩ := inspected_execute job 2 0 "w.c"
    defaultWrapperPath (keeping "w.c" .empty) (answering .empty) (indistinct_keeping "w.c" .empty)
    (unlinkedAnswers, none) unlinkedAnswers rfl
  obtain ⟨before, command, source, after, marked, runs⟩ :=
    @exists_runs_exampleJobOf (exampleJob false).config rfl
  have runs : two.runs = before ++ .captured command (some source) (.ok unlinkedOutput)
      :: .captured (command.without undefinedFlags) (some source) (.ok ⟨"", 0⟩) :: after := runs
  have compiled : (command, source) ∈ wrappedIn one.runs := by
    rw [(views_eq_of_othersIn others).1, runs, wrappedIn_append, wrappedIn_cons marked]
    exact List.mem_append_right _ List.mem_cons_self
  refine ⟨result, calls, command, source, ?_, marked, ?_⟩
  · rw [calls_eq_map, runs, List.map_append]
    exact List.mem_append_right _ List.mem_cons_self
  · exact leaves Prod.snd (holding_keeping "w.c" .empty) (fun _ _ => rfl) (by decide) _ compiled

end CheckedBuild
