import CheckedBuild.Error
import CheckedBuild.Options.Config
import CheckedBuild.Program.Basic

/-!
# Showing a compiler's messages

Messages are shown as they are or as a companion program explains them, never both. The companion
is asked if explanations are wanted and it is installed; if it fails the messages are shown as
they are.
-/

namespace CheckedBuild

/-- The program that explains messages. -/
def explainerName : String := "dcc-explain"

/-- The command that explains messages. -/
def explainCommand (explainer : String) (config : Config) : Command :=
  ⟨explainer,
    ["--max-explanations=" ++ toString config.maxExplanations,
     if config.colorize then "--colorize" else "--no-colorize"]⟩

/-- Shows messages, explained where possible. -/
def report (explainer : Option String) (config : Config) (text : String) : Program Unit := do
  match explainer.filter fun _ => config.explanations with
  | none => Program.tell text
  | some path =>
    let command := explainCommand path config
    match ← Program.capture command (some text) with
    | .ok output =>
      if output.succeeded then
        Program.tell output.text
      else
        Program.log .debug
          (command.program ++ " exited with status " ++ toString output.status)
        Program.tell text
    | .error reason =>
      Program.log .debug (BuildError.launch command.program reason).message
      Program.tell text

end CheckedBuild
