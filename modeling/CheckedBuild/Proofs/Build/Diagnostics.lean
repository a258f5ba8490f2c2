import CheckedBuild.Proofs.Build.LastCompile

/-!
# What the user is shown

The user sees one text at most: what the last instrumented compile said or else what the other
compiler said, as it is or as it was explained. This is read off the commands that were run and
what came of them, for builds that succeed and for those that fail.
-/

namespace CheckedBuild.Build

open Program Instrumentation

/-- What there is to be shown: what the last instrumented compile said, or else what the other
compiler said if that is worth it. -/
def diagnostics? (config : Config) (runs : List Run) : Option String :=
  match lastCompile runs with
  | some (.ok last) =>
    if last.text ≠ "" then some last.text
    else
      match outcomeOf (crossCheckCommand config) none runs with
      | some (.ok opinion) => if WorthShowing opinion.text then some opinion.text else none
      | _ => none
  | _ => none

/-- How a text is shown: explained if explanations are wanted and the explainer gave one, else as
it is. -/
def shownAs (explainer : Option String) (config : Config) (runs : List Run) (text : String) :
    String :=
  match explainer.filter fun _ => config.explanations with
  | none => text
  | some path =>
    match outcomeOf (explainCommand path config) (some text) runs with
    | some outcome => explanation text outcome
    | none => text

theorem shownAs_of_showing {explainer : Option String} {config : Config} {text shown : String}
    {before runs : List Run}
    (unasked : ∀ path, outcomeOf (explainCommand path config) (some text) before = none)
    (showing : Showing explainer config text runs shown) :
    shown = shownAs explainer config (before ++ runs) text := by
  cases showing with
  | plain unexplained =>
    have nobody : (explainer.filter fun _ => config.explanations) = none := by
      rcases unexplained with unwanted | missing
      · simp [unwanted]
      · simp [missing]
    rw [shownAs, nobody]
  | explained path outcome wanted installed =>
    have asked : (explainer.filter fun _ => config.explanations) = some path := by
      simp [installed, wanted]
    have answered : outcomeOf (explainCommand path config) (some text)
        [.captured (explainCommand path config) (some text) outcome] = some outcome := by
      simp [outcomeOf, Run.outcomeOf?]
    simp only [shownAs, asked, outcomeOf_append_of_none (unasked path), answered]

/-- What a build shows once the output of its last instrumented compile is known. -/
theorem shown_of_ending {job : Job} {config : Config} {last : Output} {before after : List Run}
    {shown : String} {result : Except BuildError Int} (early : ∀ run ∈ before, Early run)
    (compiled : lastCompile before = some (.ok last))
    (ending : Ending job config last after shown result) :
    shown = ((diagnostics? config (before ++ after)).map
      (shownAs job.explainer config (before ++ after))).getD "" := by
  have unasked (text : String) (path : String) :
      outcomeOf (explainCommand path config) (some text) before = none :=
    outcomeOf_explain_of_early early
  have compiled' : lastCompile (before ++ after) = some (.ok last) := by
    rw [lastCompile_append_of_none (compilesIn_of_ending ending), compiled]
  have opinions : outcomeOf (crossCheckCommand config) none (before ++ after)
      = outcomeOf (crossCheckCommand config) none after :=
    outcomeOf_append_of_none (outcomeOf_crossCheck_of_early early)
  simp only [diagnostics?, compiled', opinions]
  cases ending with
  | reported speaks showing =>
    rw [if_pos speaks, Option.map_some, Option.getD_some]
    exact shownAs_of_showing (unasked _) showing
  | failed silent failure => simp [silent, outcomeOf]
  | unchecked silent success skips => simp [silent, outcomeOf]
  | checkerMissing silent success checks reason => simp [silent, outcomeOf, Run.outcomeOf?]
  | dropped silent success checks opinion worthless =>
    simp [silent, outcomeOf, Run.outcomeOf?, worthless]
  | @advised runs _ silent success checks opinion worth showing =>
    have unaskedBefore (path : String) : outcomeOf (explainCommand path config)
        (some opinion.text) (before ++ [.captured (crossCheckCommand config) none (.ok opinion)])
          = none := by
      rw [outcomeOf_append_of_none (unasked _ path)]
      simp [outcomeOf, Run.outcomeOf?]
    have shown := shownAs_of_showing unaskedBefore showing
    rw [← List.append_cons] at shown
    simpa [silent, outcomeOf, Run.outcomeOf?, worth] using shown

theorem diagnostics?_of_uncompiled (config : Config) {runs : List Run}
    (none : compilesIn runs = []) : diagnostics? config runs = .none := by
  rw [diagnostics?, lastCompile, none, List.getLast?_nil]

theorem shown_of_around {job : Job} {runs : List Run} {shown : String}
    {result : Except BuildError Int} (around : Around job runs shown result) :
    shown = ((diagnostics? job.config runs).map
      (shownAs job.explainer job.config runs)).getD "" := by
  cases around with
  | uncompiled none =>
    rw [diagnostics?_of_uncompiled job.config none]
    rfl
  | missing reason early last => simp [diagnostics?, last]
  | ended settled early compiled ending =>
    rw [← eq_of_substitute settled diagnostics? fun _ => rfl,
      ← eq_of_substitute settled (shownAs job.explainer) fun _ => rfl]
    exact shown_of_ending early compiled ending

theorem compilesIn_of_onlyCompiles {job : Job} {shows : SourceTree → Prop} {runs : List Run}
    {shown : String} {result : Except BuildError Int} (only : job.config.compileOnly = true)
    (course : Course job shows runs shown result) : compilesIn runs = [] := by
  cases course with
  | unsupported fails => rfl
  | unprobed settled probing => exact compilesIn_of_probing probing
  | onlyCompiles settled probing only outcome =>
    exact compilesIn_concat_inherited (compilesIn_of_probing probing) _ _
  | links settled probing links wrapped compiling =>
    have same := eq_of_substitute settled Config.compileOnly fun _ => rfl
    rw [links, only] at same
    cases same

theorem compilesIn_of_unwrapped {job : Job} {shows : SourceTree → Prop} {runs : List Run}
    {shown : String} {result : Except BuildError Int}
    (unwrapped : Unwrapped job shows runs shown result) : compilesIn runs = [] := by
  cases unwrapped with
  | unstored settled probing links unstored => exact compilesIn_of_probing probing

/-- A build shows what there is to be shown, once, and nothing else. One that only compiles shows
nothing. -/
theorem shown_execute {σ : Type} (job : Job) (world : World σ) (state : σ) :
    let execution := (carryOut job).execute world state
    execution.shown = ((diagnostics? job.config execution.runs).map
        (shownAs job.explainer job.config execution.runs)).getD ""
      ∧ (job.config.compileOnly = true → execution.shown = "") := by
  intro execution
  have trace := yields_execute world state (carryOut job)
  have shown : execution.shown = ((diagnostics? job.config execution.runs).map
      (shownAs job.explainer job.config execution.runs)).getD "" :=
    shown_of_around (around_of_carryOut trace)
  refine ⟨shown, fun only => ?_⟩
  have none : compilesIn execution.runs = [] := by
    rcases course_or_unwrapped job trace with course | unwrapped
    · exact compilesIn_of_onlyCompiles only course
    · exact compilesIn_of_unwrapped unwrapped
  rw [shown, diagnostics?_of_uncompiled job.config none]
  rfl

end CheckedBuild.Build
