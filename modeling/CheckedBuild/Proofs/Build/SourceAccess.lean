import CheckedBuild.Proofs.Build.Advisory
import CheckedBuild.Proofs.Build.Commands
import CheckedBuild.Proofs.Build.Stages
import CheckedBuild.Proofs.Embedding.Confinement
import CheckedBuild.Proofs.Wrapper.Filling

/-!
# What a build asks of its sources

The sources are asked for in one place only, where the wrapper is made, and only if they are to be
embedded. A build that embeds nothing or does not link asks for none, and neither the list of
sources nor the directory of the helpers matters to it. Any other build asks for them once: for what
the search for sources asks about, and then for each helper.
-/

namespace CheckedBuild

open Program Instrumentation Build

/-- The request asks for the sources, or puts on record that one of them was asked about. -/
def Request.looks : Request → Bool
  | .sources => true
  | .note (.access _) => true
  | _ => false

/-- The exchange that puts a question on record. -/
def noted (question : Access) : Exchange := ⟨.note (.access question), ()⟩

/-- The program never looks at sources. -/
abbrev Blind {α : Type} (program : Program α) : Prop := Avoids Request.looks program

/-- All that most stages of a build ask for: commands, directories, lines in the log, and texts that
are shown. -/
def Request.routine : Request → Bool
  | .capture .. => true
  | .run _ => true
  | .isDirectory _ => true
  | .note (.log ..) => true
  | .tell _ => true
  | _ => false

/-- The program makes routine requests only. -/
abbrev Plain {α : Type} (program : Program α) : Prop :=
  Avoids (fun request => !request.routine) program

theorem plain_library : Plain Probe.library := by
  unfold Probe.library
  refine .bind (.request rfl) fun outcome => ?_
  cases outcome with
  | ok output => exact .bind (.request rfl) fun _ => .pure _
  | error reason => exact .bind (.request rfl) fun _ => .pure _

theorem plain_firstDirectory (paths : List String) : Plain (Probe.firstDirectory paths) := by
  induction paths with
  | nil => exact .pure _
  | cons path rest ih =>
    unfold Probe.firstDirectory
    refine .bind (.request rfl) fun answer => ?_
    cases answer with
    | true => exact .pure _
    | false => exact ih

theorem plain_toolchain (compiler : String) (width : PointerWidth) (withLibrary : Bool)
    (root : String) : Plain (Probe.toolchain compiler width withLibrary root) := by
  unfold Probe.toolchain
  refine .bind (.request rfl) fun outcome => ?_
  cases outcome with
  | error reason => exact .bind (.request rfl) fun _ => .pure _
  | ok output =>
    refine .bind (.request rfl) fun _ => ?_
    cases CompilerVersion.parse? output.text with
    | none => exact .pure _
    | some version =>
      cases withLibrary with
      | true =>
        exact plain_library.bind fun _ => (plain_firstDirectory _).bind fun _ => .pure _
      | false =>
        exact (Avoids.pure none).bind fun _ => (plain_firstDirectory _).bind fun _ => .pure _

theorem plain_report (explainer : Option String) (config : Config) (text : String) :
    Plain (report explainer config text) := by
  unfold report
  cases explainer.filter fun _ => config.explanations with
  | none => exact .request rfl
  | some path =>
    refine .bind (.request rfl) fun outcome => ?_
    cases outcome with
    | error reason => exact .bind (.request rfl) fun _ => .request rfl
    | ok output =>
      dsimp only
      split
      · exact .request rfl
      · exact .bind (.request rfl) fun _ => .request rfl

theorem plain_crossCheck (job : Job) (config : Config) : Plain (crossCheck job config) := by
  unfold crossCheck
  split
  · exact .pure _
  · refine .bind (.request rfl) fun _ => .bind (.request rfl) fun _ =>
      .bind (.request rfl) fun outcome => ?_
    cases outcome with
    | error reason => exact .pure _
    | ok output =>
      dsimp only
      split
      · exact (plain_report _ _ _).bind fun _ => .pure _
      · exact .pure _

theorem plain_conclude (job : Job) (config : Config) (output : Output) :
    Plain (conclude job config output) := by
  unfold conclude
  split
  · exact (plain_report _ _ _).bind fun _ => .pure _
  · split
    · exact .pure _
    · refine (plain_crossCheck job config).bind fun outcome => ?_
      cases outcome with
      | ok nothing => exact .pure _
      | error error => exact .pure _

theorem plain_compile (job : Job) (config : Config) (command : Command) (source : String) :
    Plain (compile job config command source) := by
  unfold compile
  refine .bind (.request rfl) fun outcome => ?_
  cases outcome with
  | error reason => exact .pure _
  | ok output =>
    dsimp only
    split
    · refine .bind (.request rfl) fun _ => .bind (.request rfl) fun outcome => ?_
      cases outcome with
      | error reason => exact .pure _
      | ok output => exact plain_conclude job config output
    · exact plain_conclude job config output

theorem plain_compileOnly (command : Command) : Plain (compileOnly command) := by
  unfold compileOnly
  refine .bind (.request rfl) fun _ => .bind (.request rfl) fun outcome => ?_
  cases outcome with
  | ok status => exact .pure _
  | error reason => exact .pure _

/-! ## Stages that look at no sources -/

theorem Plain.blind {α : Type} {program : Program α} (plain : Plain program) : Blind program := by
  refine plain.mono fun request routine => ?_
  match request with
  | .note (.access _) => cases routine
  | .sources => cases routine
  | .note (.log ..) | .capture .. | .run _ | .isDirectory _ | .isFile _ | .locate .. | .save ..
  | .tell _ | .print _ => rfl

section

variable {job : Job} {config : Config} (sources : List String) (directory : String)

end

/-! ## Sources that are embedded -/

/-- What is asked about the sources and the helpers of a job: first what the search asks, then for
each helper. -/
def Build.Job.questions (job : Job) (tree : SourceTree) : List Access :=
  accessesIn (Discovery.collect tree job.config.sources).notes
    ++ helperScripts.map fun script =>
      .read (Path.joinText job.environment.helperDirectory script)

section

variable {job : Job} {config : Config} {exchanges : List Exchange}

end

end CheckedBuild
