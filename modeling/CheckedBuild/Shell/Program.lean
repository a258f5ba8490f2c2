import CheckedBuild.Machine.Tools
import CheckedBuild.Shell.Start

/-!
# Running programs

Commands hold words, words hold commands, and both start programs, of which the shell is one. How
deep all this may be nested is limited; what goes deeper is killed as if its memory had run out.
-/

namespace CheckedBuild.Shell

open CheckedBuild.Machine

/-- Runs the tool that tests conditions. -/
def testTool (process : Process) : Step Nat := do
  let isBracketed := process.shortName = ['[']
  let arguments := process.arguments
  if isBracketed && arguments.getLast? ≠ some [']'] then
    process.complain "missing ']'".toList
    return 2
  let condition := if isBracketed then arguments.dropLast else arguments
  match Test.evaluate (← get) process.descriptors 4 condition with
  | .ok value => return if value then 0 else 1
  | .error message =>
    let wording := "Illegal number: ".toList
    process.complain (if wording.isPrefixOf message then
        "invalid integer '".toList ++ message.drop wording.length ++ ['\'']
      else message)
    return 2

/-- How much time it takes to run a program. -/
def processTime : Nat := 1000000

/-- What a program does from its start to its end; inside of the engine is what runs others. -/
def runStart (engine : Engine) (start : Start) (kernel : Kernel) : Course :=
  let launch := start.launch
  let kernel := kernel.spend processTime
  if launch.tool = "sh" then runShell engine start kernel
  else
    let process : Process := ⟨launch.name, launch.arguments, start.descriptors, start.given⟩
    let run := if launch.tool = "test" then testTool
      else (Tools.tool? engine.start launch.tool).getD fun _ => return 127
    let step : Step Ending := do
      yieldTurn
      return .ofCode (← run process)
    (step kernel).course id id

/-- How a process ends that runs out of memory. -/
def memoryFault : Ending := .killed 11

/-- What runs everything that is not nested deeper than a limit. -/
def engine : Nat → Engine
  | 0 =>
    { run := fun _ _ => throw (.ended memoryFault)
      expand := fun _ _ => throw (.ended memoryFault)
      start := fun _ kernel => .ended kernel memoryFault }
  | depth + 1 =>
    let inner := engine depth
    { run := evaluate inner
      expand := fun breaks word => expandParts inner breaks .atStart true word
      start := runStart inner }

/-- How deep commands, words and programs may be nested. -/
def depthLimit : Nat := 6000

/-- What runs programs. -/
def starter : Starter := (engine depthLimit).start

end CheckedBuild.Shell
